import KotlinDoc.Proofs.Domain.CallableRoundTrip
import KotlinDoc.Proofs.Index.Declaration
import KotlinDoc.Proofs.Source.SymbolForms

namespace KotlinDoc.Proofs

open Domain

/-! ## Declared parameters -/

structure PropertyKeyword where
  word : DeclarationWord
  gap : Text
  property : word ≠ .function
  separated : Blanks gap ∧ gap ≠ []

def PropertyKeyword.text (keyword : PropertyKeyword) : Text :=
  keyword.word.member.text ++ keyword.gap

structure DeclaredParameter extends TypedParameter where
  before : Text
  keyword : Option PropertyKeyword
  after : Text
  spaced : Blanks before ∧ Blanks after
  token : ∀ value ∈ default, ∀ c ∈ ("\x7b\x7d\"/|" : Text), c ∉ value.text

namespace DeclaredParameter

def keywordText (parameter : DeclaredParameter) : Text :=
  (parameter.keyword.map PropertyKeyword.text).getD []

def text (parameter : DeclaredParameter) : Text :=
  parameter.before ++
    (parameter.keywordText ++ (parameter.toTypedParameter.text ++ parameter.after))

end DeclaredParameter

def listText (parameters : List DeclaredParameter) : Text :=
  Text.joined "," (parameters.map DeclaredParameter.text)

theorem isMark_of_isBlank {c : Char} (blank : isBlank c = true) : isMark c = false := by
  by_contra mark
  have solid : ("[]()<>," : Text).all (!isBlank ·) = true := by decide +kernel
  have member : c ∈ ("[]()<>," : Text) := List.contains_iff_mem.mp (eq_true_of_ne_false mark)
  have unblank := List.all_eq_true.mp solid c member
  simp [blank] at unblank

theorem nested_of_blanks {inside : Bool} {s : Text} (blank : Blanks s) : Nested inside s :=
  .of_unmarked fun c member => isMark_of_isBlank (blank c member)

theorem PropertyKeyword.nested (keyword : PropertyKeyword) : Nested false keyword.text := by
  have word : Nested false keyword.word.member.text := by
    cases keyword.word <;>
      exact .of_unmarked (by simp [isMark, MemberWord.text, DeclarationWord.member])
  exact word.append (nested_of_blanks keyword.separated.1)

theorem DeclaredParameter.text_nested (parameter : DeclaredParameter) :
    Nested false parameter.text := by
  have keyword : Nested false parameter.keywordText := by
    unfold keywordText
    cases parameter.keyword with
    | none => exact .nil false
    | some keyword => exact keyword.nested
  have ending : Nested false (parameter.toTypedParameter.text ++ parameter.after) :=
    parameter.toTypedParameter.text_nested.append (nested_of_blanks parameter.spaced.2)
  exact (nested_of_blanks parameter.spaced.1).append (keyword.append ending)

theorem listText_nested (parameters : List DeclaredParameter) :
    Nested true (listText parameters) := by
  refine .joinedWith (.comma (.nil true)) (List.forall_mem_map.mpr fun parameter _ => ?_)
  exact parameter.text_nested.within

theorem PropertyKeyword.notMem (keyword : PropertyKeyword) {c : Char} (solid : isBlank c = false)
    (other : isWord c = false) : c ∉ keyword.text := by
  unfold text
  rw [List.mem_append, not_or]
  refine ⟨fun member => ?_, notMem_of_blanks keyword.separated.1 solid⟩
  have word : keyword.word.member.text.all isWord = true := by
    cases keyword.word <;> decide +kernel
  rw [List.all_eq_true.mp word c member] at other
  cases other

theorem DeclaredParameter.keywordText_notMem (parameter : DeclaredParameter) {c : Char}
    (solid : isBlank c = false) (other : isWord c = false) : c ∉ parameter.keywordText := by
  unfold keywordText
  cases parameter.keyword with
  | none => exact List.not_mem_nil
  | some keyword => exact keyword.notMem solid other

theorem DeclaredParameter.notMem (parameter : DeclaredParameter) {c : Char}
    (solid : isBlank c = false) (other : isWord c = false)
    (mark : c ∉ KotlinType.punctuation) (colon : c ≠ ':') (equals : c ≠ '=')
    (token : ∀ value ∈ parameter.default, c ∉ value.text) : c ∉ parameter.text := by
  have space : c ≠ ' ' := by
    rintro rfl
    cases solid
  have keyword : c ∉ parameter.keywordText := parameter.keywordText_notMem solid other
  have value : c ∉ parameter.toTypedParameter.defaultText :=
    parameter.toTypedParameter.defaultText_notMem space equals token
  simp [text, TypedParameter.text, notMem_of_blanks parameter.spaced.1 solid,
    notMem_of_blanks parameter.spaced.2 solid, keyword, value, parameter.name.notMem other,
    parameter.type.notMem_text other mark, colon, space]

/-! ## Keywords at the start of a text -/

theorem spaced?_eq_some {word s written rest : Text}
    (spaced : Word.spaced? word s = some (written, rest)) :
    ∃ blanks, Blanks blanks ∧ blanks ≠ [] ∧ s = word ++ (blanks ++ rest) ∧
      ∀ c ∈ rest.head?, isBlank c = false := by
  unfold Word.spaced? at spaced
  split at spaced
  · cases spaced
  · rename_i after start
    dsimp only at spaced
    split at spaced
    · cases spaced
    · rename_i filled
      cases spaced
      refine ⟨after.takeWhile isBlank, fun _ => List.mem_takeWhile_imp, by simpa using filled, ?_,
        ?_⟩
      · rw [List.takeWhile_append_dropWhile]
        exact (after?_eq_some.mp start).symm
      · intro c first
        have stop := List.head?_dropWhile_not isBlank after
        rw [Option.mem_def.mp first] at stop
        exact stop

theorem spaced?_unspaced {word y t : Text} {c : Char} (unspaced : ∀ d ∈ y, isBlank d = false)
    (solid : isBlank c = false) (other : c ∉ word) : Word.spaced? word (y ++ c :: t) = none := by
  by_contra some
  obtain ⟨⟨written, rest⟩, spaced⟩ := Option.ne_none_iff_exists'.mp some
  obtain ⟨blanks, blank, filled, same, -⟩ := spaced?_eq_some spaced
  obtain ⟨b, blanks, rfl⟩ := List.exists_cons_of_ne_nil filled
  have first : isBlank b = true := blank b List.mem_cons_self
  rcases List.append_eq_append_iff.mp same with ⟨z, rfl, later⟩ | ⟨z, rfl, later⟩
  · cases z with
    | nil =>
        cases later
        simp [first] at solid
    | cons d z =>
        cases later
        exact other (by simp)
  · cases z with
    | nil =>
        cases later
        simp [first] at solid
    | cons d z =>
        obtain ⟨rfl, -⟩ := List.cons.inj later
        have inside := unspaced b (by simp)
        simp [first] at inside

theorem rest_of_spaced? {word y blanks u written rest : Text}
    (keyword : ∀ c ∈ word, isBlank c = false) (unspaced : ∀ c ∈ y, isBlank c = false)
    (blank : Blanks blanks) (filled : blanks ≠ []) (solid : ∀ c ∈ u.head?, isBlank c = false)
    (spaced : Word.spaced? word (y ++ (blanks ++ u)) = some (written, rest)) : rest = u := by
  obtain ⟨others, othersBlank, othersFilled, same, otherSolid⟩ := spaced?_eq_some spaced
  have stop {s t : Text} (blank : Blanks s) (filled : s ≠ []) :
      ∀ c ∈ (s ++ t).head?, (!isBlank c) = false := by
    intro c first
    rw [List.head?_append_of_ne_nil _ filled] at first
    simp [blank c (List.mem_of_mem_head? first)]
  have tails : blanks ++ u = others ++ rest := by
    have dropped := congrArg (List.dropWhile (!isBlank ·)) same
    rwa [dropWhile_append_stop (by simpa using unspaced) (stop blank filled),
      dropWhile_append_stop (by simpa using keyword) (stop othersBlank othersFilled)] at dropped
  have dropped := congrArg (List.dropWhile isBlank) tails
  rw [dropWhile_append_stop blank solid, dropWhile_append_stop othersBlank otherSolid] at dropped
  exact dropped.symm

def propertyWords : List Text :=
  [("var" : Text), "val"] ++ Header.scopeWords

theorem parse?_cases {line : Text} {found : PropertyHeader × Text}
    (parsed : PropertyHeader.parse? line = some found) :
    ∃ word ∈ propertyWords, ∃ written rest,
      Word.spaced? word (Text.trimLeft line) = some (written, rest) ∧
        ((∃ word ∈ propertyWords, ∃ found, Word.spaced? word rest = some found) ∨
          ∃ found, Word.identifier? rest = some found) := by
  simp only [PropertyHeader.parse?, Option.bind_eq_bind, Option.bind_eq_some_iff] at parsed
  obtain ⟨⟨keyword, s⟩, tried, name, read, -⟩ := parsed
  obtain ⟨word, member, spaced⟩ := List.exists_of_findSome?_eq_some tried
  have known : word ∈ propertyWords := List.mem_append_left _ member
  rcases optional_cases Header.scopeWords (Text.trimLeft line) with
    none | ⟨scope, written, found, some, rest⟩
  · rw [none] at spaced
    exact ⟨word, known, _, _, spaced, .inr ⟨name, read⟩⟩
  · rw [rest] at spaced
    exact ⟨scope, List.mem_append_right _ written, _, _, some, .inl ⟨word, known, _, spaced⟩⟩

theorem mem_propertyWord {word : Text} (known : word ∈ propertyWords) :
    ∀ c ∈ word, isBlank c = false ∧ c ≠ ':' ∧ c ≠ '=' := by
  have all : propertyWords.all (·.all fun c => !isBlank c && c != ':' && c != '=') = true := by
    decide +kernel
  intro c member
  have plain := List.all_eq_true.mp (List.all_eq_true.mp all word known) c member
  simpa [and_assoc] using plain

theorem spaced?_word_colon {word y t : Text} (known : word ∈ propertyWords)
    (unspaced : ∀ d ∈ y, isBlank d = false) : Word.spaced? word (y ++ ':' :: t) = none :=
  spaced?_unspaced unspaced (by decide) fun member => (mem_propertyWord known ':' member).2.1 rfl

theorem trimLeft_unspaced {blanks y : Text} {c : Char} (blank : Blanks blanks)
    (unspaced : ∀ d ∈ y, isBlank d = false) (solid : isBlank c = false) (t : Text) :
    Text.trimLeft (blanks ++ (y ++ c :: t)) = y ++ c :: t := by
  rw [trimLeft_append blank]
  apply trimLeft_eq_self
  intro d first
  cases y with
  | nil =>
      cases first
      exact solid
  | cons e y =>
      cases first
      exact unspaced d List.mem_cons_self

theorem parse?_plain {blanks y : Text} (blank : Blanks blanks)
    (unspaced : ∀ d ∈ y, isBlank d = false) (t : Text) :
    PropertyHeader.parse? (blanks ++ (y ++ ':' :: t)) = none := by
  by_contra some
  obtain ⟨found, parsed⟩ := Option.ne_none_iff_exists'.mp some
  obtain ⟨word, known, written, rest, spaced, -⟩ := parse?_cases parsed
  rw [trimLeft_unspaced blank unspaced (by decide), spaced?_word_colon known unspaced] at spaced
  cases spaced

theorem parse?_unnamed {blanks : Text} (blank : Blanks blanks) (keyword : PropertyKeyword)
    {name : Identifier} (unnamed : ¬ Named false name.text) (t : Text) :
    PropertyHeader.parse? (blanks ++ (keyword.text ++ (name.text ++ ':' :: t))) = none := by
  have letters : ∀ c ∈ keyword.word.member.text, isBlank c = false := by
    have all : keyword.word.member.text.all (!isBlank ·) = true := by
      cases keyword.word <;> decide +kernel
    simpa using List.all_eq_true.mp all
  have unspaced : ∀ c ∈ name.text, isBlank c = false :=
    fun c member => isBlank_of_isWord (name.word c member)
  have start : ∀ c ∈ (keyword.text ++ (name.text ++ ':' :: t)).head?, isBlank c = false := by
    have filled : keyword.word.member.text ≠ [] := by
      cases keyword.word <;> decide
    intro c first
    rw [PropertyKeyword.text, List.append_assoc, List.head?_append_of_ne_nil _ filled] at first
    exact letters c (List.mem_of_mem_head? first)
  have solid : ∀ c ∈ (name.text ++ ':' :: t).head?, isBlank c = false := by
    intro c first
    rw [List.head?_append_of_ne_nil _ name.nonempty] at first
    exact name.head_solid c first
  by_contra some
  obtain ⟨found, parsed⟩ := Option.ne_none_iff_exists'.mp some
  obtain ⟨word, known, written, rest, spaced, next⟩ := parse?_cases parsed
  rw [trimLeft_append blank, trimLeft_eq_self start, PropertyKeyword.text,
    List.append_assoc] at spaced
  obtain rfl := rest_of_spaced? (fun c member => (mem_propertyWord known c member).1) letters
    keyword.separated.1 keyword.separated.2 solid spaced
  rcases next with ⟨other, also, again, more⟩ | ⟨⟨own, rest⟩, read⟩
  · rw [spaced?_word_colon also unspaced] at more
    cases more
  · obtain ⟨named, same, ended⟩ := identifier?_eq_some_iff.mp read
    have whole : ∀ c ∈ own, isWord c = true := fun c member =>
      isWord_of_isAsciiWord ((named.written c member).resolve_right (by simp))
    have longest := congrArg (List.takeWhile isWord) same
    rw [takeWhile_append_stop name.word (by simp; decide),
      takeWhile_append_stop whole ended] at longest
    exact unnamed (longest ▸ named)

theorem spaced?_unspaced_end {word y : Text} (unspaced : ∀ d ∈ y, isBlank d = false) :
    Word.spaced? word y = none := by
  by_contra some
  obtain ⟨⟨written, rest⟩, spaced⟩ := Option.ne_none_iff_exists'.mp some
  obtain ⟨blanks, blank, filled, rfl, -⟩ := spaced?_eq_some spaced
  obtain ⟨b, blanks, rfl⟩ := List.exists_cons_of_ne_nil filled
  have inside := unspaced b (by simp)
  rw [blank b List.mem_cons_self] at inside
  cases inside

theorem unstarted {u : Text} (stop : ∀ c ∈ u.head?, c = '=') :
    (∀ word ∈ propertyWords, Word.spaced? word u = none) ∧ Word.identifier? u = none := by
  have filled : ∀ word ∈ propertyWords, word ≠ [] := by decide
  constructor
  · intro word known
    by_contra some
    obtain ⟨found, spaced⟩ := Option.ne_none_iff_exists'.mp some
    obtain ⟨c, more, rfl⟩ := List.exists_cons_of_ne_nil (filled word known)
    obtain ⟨rest, rfl⟩ := isPrefix_of_spaced? spaced
    exact (mem_propertyWord known c List.mem_cons_self).2.2 (stop c rfl)
  · cases u with
    | nil => rfl
    | cons c u =>
        obtain rfl := stop c rfl
        rfl

theorem parse?_later {y blanks u : Text} (filled : y ≠ []) (unspaced : ∀ c ∈ y, isBlank c = false)
    (blank : Blanks blanks) (separated : blanks = [] → u = []) (stop : ∀ c ∈ u.head?, c = '=') :
    PropertyHeader.parse? (' ' :: (y ++ (blanks ++ u))) = none := by
  have space : Blanks [' '] := by decide
  have start : ∀ c ∈ (y ++ (blanks ++ u)).head?, isBlank c = false := by
    intro c first
    rw [List.head?_append_of_ne_nil _ filled] at first
    exact unspaced c (List.mem_of_mem_head? first)
  have solid : ∀ c ∈ u.head?, isBlank c = false := by
    intro c first
    rw [stop c first]
    decide
  have trimmed : Text.trimLeft (' ' :: (y ++ (blanks ++ u))) = y ++ (blanks ++ u) :=
    (trimLeft_append space _).trans (trimLeft_eq_self start)
  by_contra some
  obtain ⟨found, parsed⟩ := Option.ne_none_iff_exists'.mp some
  obtain ⟨word, known, written, rest, spaced, next⟩ := parse?_cases parsed
  rw [trimmed] at spaced
  by_cases none : blanks = []
  · rw [none, separated none, List.nil_append, List.append_nil,
      spaced?_unspaced_end unspaced] at spaced
    cases spaced
  · obtain rfl := rest_of_spaced? (fun c member => (mem_propertyWord known c member).1) unspaced
      blank none solid spaced
    obtain ⟨noWord, noName⟩ := unstarted stop
    rcases next with ⟨other, also, again, more⟩ | ⟨own, read⟩
    · rw [noWord other also] at more
      cases more
    · rw [noName] at read
      cases read

/-! ## Blanks in types -/

/-- Blanks stand after commas only, one after each, and something else follows them. -/
inductive Spread : Text → Prop where
  | nil : Spread []
  | solid {c : Char} {s : Text} (blank : isBlank c = false) (comma : c ≠ ',') (rest : Spread s) :
      Spread (c :: s)
  | comma {c : Char} {s : Text} (blank : isBlank c = false) (comma : c ≠ ',') (rest : Spread s) :
      Spread (',' :: ' ' :: c :: s)

def Started (s : Text) : Prop :=
  ∃ c t, s = c :: t ∧ isBlank c = false ∧ c ≠ ',' ∧ Spread t

namespace Spread

theorem append {s t : Text} (first : Spread s) (second : Spread t) : Spread (s ++ t) := by
  induction first with
  | nil => exact second
  | solid blank comma _ ih => exact .solid blank comma ih
  | comma blank comma _ ih => exact .comma blank comma ih

theorem of_words {s : Text} (words : ∀ c ∈ s, isWord c = true ∨ c = '.') : Spread s := by
  induction s with
  | nil => exact .nil
  | cons c s ih =>
      obtain ⟨here, later⟩ := List.forall_mem_cons.mp words
      have plain : isBlank c = false ∧ c ≠ ',' := by
        rcases here with word | rfl
        · refine ⟨isBlank_of_isWord word, ?_⟩
          rintro rfl
          exact absurd word (by decide)
        · decide
      exact .solid plain.1 plain.2 (ih later)

theorem of_started {s : Text} (started : Started s) : Spread s := by
  obtain ⟨c, t, rfl, blank, comma, rest⟩ := started
  exact .solid blank comma rest

end Spread

theorem Started.append {s t : Text} (started : Started s) (rest : Spread t) : Started (s ++ t) := by
  obtain ⟨c, s, rfl, blank, comma, inner⟩ := started
  exact ⟨c, s ++ t, rfl, blank, comma, inner.append rest⟩

theorem Started.joined {first : Text} {texts : List Text}
    (started : ∀ s ∈ first :: texts, Started s) : Started (Text.joined ", " (first :: texts)) := by
  induction texts generalizing first with
  | nil => simpa [Text.joined] using started
  | cons second texts ih =>
      obtain ⟨head, later⟩ := List.forall_mem_cons.mp started
      obtain ⟨c, t, written, blank, comma, rest⟩ := ih later
      rw [joined_cons_cons, written, List.append_assoc]
      exact head.append (.comma blank comma rest)

theorem Spread.joined {texts : List Text} (started : ∀ s ∈ texts, Started s) :
    Spread (Text.joined ", " texts) := by
  cases texts with
  | nil => exact .nil
  | cons first texts => exact .of_started (.joined started)

theorem Identifier.started (identifier : Identifier) : Started identifier.text := by
  obtain ⟨c, s, written⟩ := List.exists_cons_of_ne_nil identifier.nonempty
  have words : Spread identifier.text := .of_words fun c member => .inl (identifier.word c member)
  have word : isWord c = true := identifier.word c (written ▸ List.mem_cons_self)
  have comma : c ≠ ',' := by
    rintro rfl
    exact absurd word (by decide)
  rw [written] at words ⊢
  cases words with
  | solid blank _ rest => exact ⟨c, s, rfl, blank, comma, rest⟩
  | comma => exact absurd rfl comma

mutual

theorem type_started : (type : KotlinType) → Started type.text
  | .named first more => by
      refine (Identifier.started first).append (.of_words fun c member => ?_)
      obtain ⟨part, -, here⟩ := List.mem_flatMap.mp member
      rcases List.mem_cons.mp here with rfl | inner
      · exact .inr rfl
      · exact .inl (part.word c inner)
  | .generic name arguments =>
      (Identifier.started name).append (.solid (by decide) (by decide)
        ((Spread.joined (types_started arguments)).append (.solid (by decide) (by decide) .nil)))
  | .array element => ⟨'[', _, rfl, by decide, by decide,
      (Spread.of_started (type_started element)).append (.solid (by decide) (by decide) .nil)⟩
  | .tuple elements => ⟨'(', _, rfl, by decide, by decide,
      (Spread.joined (types_started elements)).append (.solid (by decide) (by decide) .nil)⟩
  | .nullable type => (type_started type).append (.solid (by decide) (by decide) .nil)

theorem types_started : (types : List KotlinType) → ∀ s ∈ KotlinType.texts types, Started s
  | [], _, member => by simp [KotlinType.texts] at member
  | type :: types, s, member => by
      rcases List.mem_cons.mp member with rfl | rest
      · exact type_started type
      · exact types_started types s rest

end

end KotlinDoc.Proofs
