import KotlinDoc.Source.Header
import Mathlib.Data.List.Basic

/-!
# A line has one form

After its scope, a symbol header starts with a modifier or with the keyword of its form. No word
among these starts another one, so what stands there decides the form: a line has the form of at
most one kind of header (`form_eq_of_parse?`), and the kind of a header tells whether it has the
form of a function (`kind_of_parse?`).
-/

namespace KotlinDoc.Proofs

/-! ## Words at the start of a text -/

theorem after?_eq_some {word s rest : Text} :
    Text.after? word s = some rest ↔ word ++ rest = s :=
  List.isPrefixOf?_eq_some_iff_append_eq

theorem eq_append_of_spaced? {word s : Text} {found : Text × Text}
    (spaced : Word.spaced? word s = some found) : word <+: found.1 ∧ s = found.1 ++ found.2 := by
  unfold Word.spaced? at spaced
  split at spaced
  · cases spaced
  · rename_i rest after
    dsimp only at spaced
    split at spaced
    · cases spaced
    · cases spaced
      refine ⟨List.prefix_append _ _, ?_⟩
      rw [List.append_assoc, List.takeWhile_append_dropWhile]
      exact (after?_eq_some.mp after).symm

theorem isPrefix_of_spaced? {word s : Text} {found : Text × Text}
    (spaced : Word.spaced? word s = some found) : word <+: s := by
  obtain ⟨start, rfl⟩ := eq_append_of_spaced? spaced
  exact start.trans (List.prefix_append _ _)

theorem isPrefix_of_phrase? {words : List Text} {s : Text} {found : Text × Text}
    (phrase : Word.phrase? words s = some found) : ∀ word ∈ words.head?, word <+: s := by
  intro word first
  match words with
  | [] => cases first
  | [only] =>
      obtain rfl : only = word := by simpa using first
      obtain ⟨rest, after, -⟩ := Option.map_eq_some_iff.mp phrase
      exact ⟨rest, after?_eq_some.mp after⟩
  | own :: next :: more =>
      obtain rfl : own = word := by simpa using first
      simp only [Word.phrase?, bind, Option.bind_eq_some_iff] at phrase
      obtain ⟨found, spaced, -⟩ := phrase
      exact isPrefix_of_spaced? spaced

theorem optional_cases (words : List Text) (s : Text) :
    (Word.optional words s).2 = s ∨
      ∃ word ∈ words, ∃ found, Word.spaced? word s = some found ∧
        (Word.optional words s).2 = found.2 := by
  unfold Word.optional
  cases tried : words.findSome? (Word.spaced? · s) with
  | none => exact .inl rfl
  | some found =>
      obtain ⟨word, member, spaced⟩ := List.exists_of_findSome?_eq_some tried
      exact .inr ⟨word, member, found, spaced, rfl⟩

/-! ## Forms -/

theorem mem_all (form : SymbolForm) : form ∈ SymbolForm.all := by
  cases form <;> decide

def firstWords (form : SymbolForm) : List Text :=
  form.keywords.filterMap fun keyword => keyword.1.head?

def afterScope (line : Text) : Text :=
  (Word.optional Header.scopeWords line.trimLeft).2

theorem kind_and_word_of_parse? {form : SymbolForm} {line : Text} {found : SymbolHeader × Text}
    (parsed : SymbolHeader.parse? form line = some found) :
    found.1.kind ∈ form.keywords.map Prod.snd ∧
      ∃ word ∈ firstWords form, word <+: (Word.optional form.modifiers (afterScope line)).2 := by
  unfold SymbolHeader.parse? SymbolHeader.parseNamed? at parsed
  simp only [bind, Option.bind_eq_some_iff, Prod.exists] at parsed
  obtain ⟨keyword, rest, kind, read, after, -, named⟩ := parsed
  have same : found.1.kind = kind := by
    split at named
    · obtain ⟨name, -, header⟩ := Option.bind_eq_some_iff.mp named
      split at header <;> cases header <;> rfl
    · cases named
  obtain ⟨⟨words, own⟩, member, phrase⟩ := List.exists_of_findSome?_eq_some read
  obtain ⟨written, spelled, equal⟩ := Option.map_eq_some_iff.mp phrase
  obtain rfl : own = kind := congrArg Prod.snd equal
  refine ⟨same ▸ List.mem_map_of_mem member, ?_⟩
  cases words with
  | nil => cases form <;> simp [SymbolForm.keywords] at member
  | cons word more =>
      refine ⟨word, List.mem_filterMap.mpr ⟨_, member, rfl⟩, ?_⟩
      exact isPrefix_of_phrase? spelled word rfl

def openingWords : List Text :=
  SymbolForm.all.flatMap fun form => form.modifiers ++ firstWords form

theorem mem_openingWords {form : SymbolForm} {word : Text}
    (member : word ∈ form.modifiers ++ firstWords form) : word ∈ openingWords :=
  List.mem_flatMap.mpr ⟨form, mem_all form, member⟩

theorem openingWord_unique {word other s : Text} (member : word ∈ openingWords)
    (too : other ∈ openingWords) (starts : word <+: s) (alike : other <+: s) : word = other := by
  have free : ∀ word ∈ openingWords, ∀ other ∈ openingWords, word <+: other → word = other := by
    decide
  rcases List.prefix_or_prefix_of_prefix starts alike with shorter | longer
  · exact free word member other too shorter
  · exact (free other too word member longer).symm

theorem form_of_firstWord {form other : SymbolForm} {word : Text} (member : word ∈ firstWords form)
    (too : word ∈ firstWords other) : form = other := by
  have apart : ∀ form ∈ SymbolForm.all, ∀ other ∈ SymbolForm.all, ∀ word ∈ firstWords form,
      word ∈ firstWords other → form = other := by
    decide
  exact apart form (mem_all form) other (mem_all other) word member too

theorem firstWord_notMem_modifiers {form other : SymbolForm} {word : Text}
    (member : word ∈ firstWords form) : word ∉ other.modifiers := by
  have apart : ∀ form ∈ SymbolForm.all, ∀ other ∈ SymbolForm.all, ∀ word ∈ firstWords form,
      word ∉ other.modifiers := by
    decide
  exact apart form (mem_all form) other (mem_all other) word member

/-- A line has at most one form: the word after the scope decides whether there is a modifier, and
the word after that decides the form. -/
theorem form_eq_of_parse? {line : Text} {form other : SymbolForm} {found alike : SymbolHeader × Text}
    (parsed : SymbolHeader.parse? form line = some found)
    (too : SymbolHeader.parse? other line = some alike) : form = other := by
  obtain ⟨-, word, first, starts⟩ := kind_and_word_of_parse? parsed
  obtain ⟨-, word', first', starts'⟩ := kind_and_word_of_parse? too
  have opening := mem_openingWords (List.mem_append_right form.modifiers first)
  have opening' := mem_openingWords (List.mem_append_right other.modifiers first')
  rcases optional_cases form.modifiers (afterScope line) with
      plain | ⟨modifier, own, rest, spaced, modified⟩ <;>
    rcases optional_cases other.modifiers (afterScope line) with
      plain' | ⟨modifier', own', rest', spaced', modified'⟩
  · rw [plain] at starts
    rw [plain'] at starts'
    obtain rfl := openingWord_unique opening opening' starts starts'
    exact form_of_firstWord first first'
  · rw [plain] at starts
    have modifies := mem_openingWords (List.mem_append_left (firstWords other) own')
    obtain rfl := openingWord_unique opening modifies starts (isPrefix_of_spaced? spaced')
    exact absurd own' (firstWord_notMem_modifiers first)
  · rw [plain'] at starts'
    have modifies := mem_openingWords (List.mem_append_left (firstWords form) own)
    obtain rfl := openingWord_unique opening' modifies starts' (isPrefix_of_spaced? spaced)
    exact absurd own (firstWord_notMem_modifiers first')
  · -- Both forms take the same modifier, so they go on at the same place.
    have modifies := mem_openingWords (List.mem_append_left (firstWords form) own)
    have modifies' := mem_openingWords (List.mem_append_left (firstWords other) own')
    obtain rfl := openingWord_unique modifies modifies' (isPrefix_of_spaced? spaced)
      (isPrefix_of_spaced? spaced')
    obtain rfl : rest = rest' := Option.some.inj (spaced.symm.trans spaced')
    rw [modified] at starts
    rw [modified'] at starts'
    obtain rfl := openingWord_unique opening opening' starts starts'
    exact form_of_firstWord first first'

theorem kind_of_parse? {form : SymbolForm} {line : Text} {found : SymbolHeader × Text}
    (parsed : SymbolHeader.parse? form line = some found) :
    found.1.kind = .function ↔ form = .function := by
  have kinds := (kind_and_word_of_parse? parsed).1
  revert kinds
  generalize found.1.kind = kind
  cases form <;> cases kind <;> decide

/-! ## Headers -/

def header? (line : Text) : Option SymbolHeader :=
  SymbolForm.all.findSome? fun form => (SymbolHeader.parse? form line).map Prod.fst

theorem parse?_of_header? {line : Text} {header : SymbolHeader} (read : header? line = some header) :
    ∃ form rest, SymbolHeader.parse? form line = some (header, rest) := by
  obtain ⟨form, -, found⟩ := List.exists_of_findSome?_eq_some read
  obtain ⟨⟨own, rest⟩, parsed, rfl⟩ := Option.map_eq_some_iff.mp found
  exact ⟨form, rest, parsed⟩

theorem filterMap_eq_findSome? {α β : Type} {f : α → Option β} {things : List α}
    (distinct : things.Nodup)
    (unique : ∀ thing ∈ things, ∀ other ∈ things, (f thing).isSome → (f other).isSome →
      thing = other) : things.filterMap f = (things.findSome? f).toList := by
  induction things with
  | nil => rfl
  | cons thing things ih =>
      obtain ⟨fresh, distinct⟩ := List.nodup_cons.mp distinct
      cases found : f thing with
      | none =>
          rw [List.filterMap_cons_none found, List.findSome?_cons_of_isNone (by simp [found])]
          exact ih distinct fun first member second too =>
            unique first (List.mem_cons_of_mem _ member) second (List.mem_cons_of_mem _ too)
      | some value =>
          have others : things.filterMap f = [] := by
            rw [List.filterMap_eq_nil_iff]
            intro other member
            by_contra present
            have same := unique thing List.mem_cons_self other (List.mem_cons_of_mem _ member)
              (by simp [found]) (Option.isSome_iff_ne_none.mpr present)
            exact fresh (same ▸ member)
          rw [List.filterMap_cons_some found, List.findSome?_cons_of_isSome (by simp [found]), others,
            found]
          rfl

theorem headers_eq_header? (line : Text) :
    SymbolForm.all.filterMap (fun form => (SymbolHeader.parse? form line).map Prod.fst) =
      (header? line).toList := by
  apply filterMap_eq_findSome? (by decide)
  intro form _ other _ has too
  obtain ⟨header, read⟩ := Option.isSome_iff_exists.mp has
  obtain ⟨header', read'⟩ := Option.isSome_iff_exists.mp too
  obtain ⟨found, parsed, -⟩ := Option.map_eq_some_iff.mp read
  obtain ⟨found', parsed', -⟩ := Option.map_eq_some_iff.mp read'
  exact form_eq_of_parse? parsed parsed'

theorem header?_of_parse? {form : SymbolForm} {line rest : Text} {header : SymbolHeader}
    (parsed : SymbolHeader.parse? form line = some (header, rest)) : header? line = some header := by
  have member : header ∈ (header? line).toList := by
    rw [← headers_eq_header?]
    exact List.mem_filterMap.mpr ⟨form, mem_all form, by simp [parsed]⟩
  simpa using member

end KotlinDoc.Proofs
