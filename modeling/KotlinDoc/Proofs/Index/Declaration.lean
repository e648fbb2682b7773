import KotlinDoc.Index.Member
import KotlinDoc.Proofs.Text.Cutting
import KotlinDoc.Proofs.Text.Trimming

namespace KotlinDoc.Proofs

/-! ## Scopes -/

inductive ScopeWord where
  | private_
  | public_
  | external_
  | open_
  | internal_
  | protected_
deriving Repr, DecidableEq

namespace ScopeWord

def text : ScopeWord → Text
  | .private_ => "private"
  | .public_ => "public"
  | .external_ => "external"
  | .open_ => "open"
  | .internal_ => "internal"
  | .protected_ => "protected"

def visibility : ScopeWord → Visibility
  | .private_ => .fileOnly
  | .internal_ => .moduleOnly
  | .protected_ => .subclasses
  | .public_ | .external_ | .open_ => .everyone

def ofProperty : List ScopeWord :=
  [.private_, .public_, .open_, .internal_, .protected_]

def ofFunction : List ScopeWord :=
  [.private_, .public_, .external_, .open_, .internal_, .protected_]

theorem mem_ofProperty {word : ScopeWord} (inner : word ≠ .external_) : word ∈ ofProperty := by
  cases word <;> simp_all [ofProperty]

theorem mem_ofFunction (word : ScopeWord) : word ∈ ofFunction := by
  cases word <;> decide

theorem after?_other {word other : ScopeWord} (different : other ≠ word) (s : Text) :
    Text.after? other.text (word.text ++ s) = none := by
  cases word <;> cases other <;> first | rfl | exact absurd rfl different

end ScopeWord

structure Scope where
  word : ScopeWord
  blanks : Text
  blank : Blanks blanks
  spaced : blanks ≠ []

def Scope.text (scope : Scope) : Text :=
  scope.word.text ++ scope.blanks

theorem ofScope_text (scope : Scope) :
    Visibility.ofScope (some scope.text) = scope.word.visibility := by
  have trimmed : Text.trim scope.text = scope.word.text := by
    unfold Scope.text
    rw [trim_append_right _ scope.blank]
    cases scope.word <;> decide
  unfold Visibility.ofScope
  simp only [trimmed]
  cases scope.word <;> decide

/-! ## Words at the start of a text -/

theorem after?_append (word s : Text) : Text.after? word (word ++ s) = some s := by
  simp [Text.after?]

theorem spaced?_append (word : Text) {blanks s : Text} (blank : Blanks blanks)
    (spaced : blanks ≠ []) (solid : ∀ c ∈ s.head?, isBlank c = false) :
    Word.spaced? word (word ++ (blanks ++ s)) = some (word ++ blanks, s) := by
  have taken : (blanks ++ s).takeWhile isBlank = blanks := takeWhile_append_stop blank solid
  have dropped : (blanks ++ s).dropWhile isBlank = s := dropWhile_append_stop blank solid
  simp [Word.spaced?, after?_append, taken, dropped, spaced]

theorem spaced?_eq_none {word s : Text} (other : Text.after? word s = none) :
    Word.spaced? word s = none := by
  simp [Word.spaced?, other]

theorem optional_written {words : List ScopeWord} {scope : Scope} (member : scope.word ∈ words)
    {s : Text} (solid : ∀ c ∈ s.head?, isBlank c = false) :
    Word.optional (words.map ScopeWord.text) (scope.text ++ s) = (some scope.text, s) := by
  have found : (words.map ScopeWord.text).findSome? (Word.spaced? · (scope.text ++ s)) =
      some (scope.text, s) := by
    -- No scope word starts another one, so the words tried before the written one fail.
    induction words with
    | nil => cases member
    | cons word words ih =>
        rw [List.map_cons, List.findSome?_cons]
        by_cases same : word = scope.word
        · have written := spaced?_append scope.word.text scope.blank scope.spaced solid
          rw [← List.append_assoc] at written
          simp only [same, Scope.text, written]
        · have other : Word.spaced? word.text (scope.text ++ s) = none := by
            rw [Scope.text, List.append_assoc]
            exact spaced?_eq_none (ScopeWord.after?_other same _)
          rw [other]
          exact ih ((List.mem_cons.mp member).resolve_left fun equal => same equal.symm)
  rw [Word.optional, found]

theorem optional_unwritten {words : List ScopeWord} {s : Text}
    (absent : ∀ word ∈ words, Text.after? word.text s = none) :
    Word.optional (words.map ScopeWord.text) s = (none, s) := by
  have missing : (words.map ScopeWord.text).findSome? (Word.spaced? · s) = none := by
    rw [List.findSome?_eq_none_iff]
    intro text written
    obtain ⟨word, member, rfl⟩ := List.mem_map.mp written
    exact spaced?_eq_none (absent word member)
  rw [Word.optional, missing]

/-! ## Names -/

theorem isAscii_of_isAsciiWord {c : Char} (word : isAsciiWord c = true) : c.toNat < 0x80 := by
  rcases Bool.or_eq_true_iff.mp word with alphanum | underscore
  · rcases Bool.or_eq_true_iff.mp alphanum with alpha | digit
    · rcases Bool.or_eq_true_iff.mp alpha with upper | lower
      · exact Nat.lt_of_le_of_lt (of_decide_eq_true upper).2 (by decide)
      · have last := (Bool.and_eq_true_iff.mp lower).2
        exact Nat.lt_of_le_of_lt (of_decide_eq_true last) (by decide)
    · have last := (Bool.and_eq_true_iff.mp digit).2
      exact Nat.lt_of_le_of_lt (of_decide_eq_true last) (by decide)
  · rw [beq_iff_eq.mp underscore]
    decide

theorem isWord_of_isAsciiWord {c : Char} (word : isAsciiWord c = true) : isWord c = true := by
  rw [isWord, if_pos (isAscii_of_isAsciiWord word), word]

theorem isAsciiWord_of_isInitial {c : Char} (initial : Word.isInitial c = true) :
    isAsciiWord c = true := by
  simp only [Word.isInitial, Bool.or_eq_true] at initial
  simp only [isAsciiWord, Char.isAlphanum, Bool.or_eq_true]
  exact initial.imp_left Or.inl

/-- The name class of the patterns for headers and for properties: a letter of ASCII or an
underscore, then letters, digits and underscores of ASCII. The names of functions have `dots` as
well, but not at the end. `Domain.Identifier` is wider: it is for names in signatures that are cut
out at punctuation and matched with no pattern, so that any word characters will do. -/
structure Named (dots : Bool) (name : Text) : Prop where
  starts : ∃ c ∈ name.head?, Word.isInitial c = true
  written : ∀ c ∈ name, isAsciiWord c = true ∨ (dots = true ∧ c = '.')
  ends : ∀ c ∈ name.getLast?, isAsciiWord c = true

theorem Named.solid {dots : Bool} {name : Text} (named : Named dots name) (s : Text) :
    ∀ c ∈ (name ++ s).head?, isBlank c = false := by
  obtain ⟨d, start, initial⟩ := named.starts
  intro c first
  have same : d = c := by
    rw [List.head?_append, Option.mem_def.mp start] at first
    exact Option.some.inj first
  exact same ▸ isBlank_of_isWord (isWord_of_isAsciiWord (isAsciiWord_of_isInitial initial))

theorem Named.after?_template {dots : Bool} {name : Text} (named : Named dots name) (s : Text) :
    Text.after? "<T>" (name ++ s) = none := by
  obtain ⟨d, start, initial⟩ := named.starts
  cases name with
  | nil => cases start
  | cons c name =>
      obtain rfl : c = d := by simpa using start
      have other : '<' ≠ c := by
        rintro rfl
        exact absurd initial (by decide)
      simp [Text.after?, List.isPrefixOf?, other]

def Unnamed (s : Text) : Prop :=
  ∀ c ∈ s.head?, isWord c = false ∧ c ≠ '.'

instance : (s : Text) → Decidable (Unnamed s)
  | [] => isTrue nofun
  | c :: _ => decidable_of_iff (isWord c = false ∧ c ≠ '.') (by simp [Unnamed])

theorem isBoundary_of_ended {last : Char} (word : isAsciiWord last = true) {s : Text}
    (ended : ∀ c ∈ s.head?, isWord c = false) : isBoundary last s = true := by
  cases s with
  | nil => exact isWord_of_isAsciiWord word
  | cons c s => simp [isBoundary, isWord_of_isAsciiWord word, ended c rfl]

theorem isAsciiWord_of_ended {s : Text} (ended : ∀ c ∈ s.head?, isWord c = false) :
    ∀ c ∈ s.head?, isAsciiWord c = false := by
  intro c first
  by_contra word
  have := isWord_of_isAsciiWord (eq_true_of_ne_false word)
  rw [ended c first] at this
  cases this

theorem identifier?_append {name s : Text} (named : Named false name)
    (ended : ∀ c ∈ s.head?, isWord c = false) : Word.identifier? (name ++ s) = some (name, s) := by
  obtain ⟨c, first, initial⟩ := named.starts
  cases name with
  | nil => cases first
  | cons d name =>
      obtain rfl : d = c := by simpa using first
      have word : ∀ c ∈ name, isAsciiWord c = true := fun c member =>
        (named.written c (List.mem_cons_of_mem _ member)).resolve_right (by simp)
      have taken := takeWhile_append_stop word (isAsciiWord_of_ended ended)
      have dropped := dropWhile_append_stop word (isAsciiWord_of_ended ended)
      obtain ⟨last, same⟩ : ∃ last, (d :: name).getLast? = some last :=
        ⟨_, List.getLast?_cons⟩
      have boundary := isBoundary_of_ended (named.ends last same) ended
      simp only [List.cons_append, Word.identifier?, initial, if_true, taken, dropped,
        Word.bounded?, same, boundary]

theorem identifier?_eq_some_iff {s name rest : Text} :
    Word.identifier? s = some (name, rest) ↔
      Named false name ∧ s = name ++ rest ∧ ∀ c ∈ rest.head?, isWord c = false := by
  constructor
  · intro read
    cases s with
    | nil => cases read
    | cons c s =>
        simp only [Word.identifier?] at read
        split at read
        · rename_i initial
          have all : ∀ d ∈ c :: s.takeWhile isAsciiWord, isAsciiWord d = true := by
            intro d member
            rcases List.mem_cons.mp member with rfl | later
            · exact isAsciiWord_of_isInitial initial
            · exact List.mem_takeWhile_imp later
          unfold Word.bounded? at read
          split at read
          · rename_i last isLast
            split at read
            · rename_i boundary
              cases read
              have ends (d : Char) (final : d ∈ (c :: s.takeWhile isAsciiWord).getLast?) :
                  isAsciiWord d = true := all d (List.mem_of_mem_getLast? final)
              refine ⟨⟨⟨c, rfl, initial⟩, fun d member => .inl (all d member), ends⟩, ?_, ?_⟩
              · rw [List.cons_append, List.takeWhile_append_dropWhile]
              · intro d first
                obtain ⟨t, tail⟩ := List.head?_eq_some_iff.mp first
                rw [tail, isBoundary, isWord_of_isAsciiWord (ends last isLast)] at boundary
                simpa using boundary
            · cases read
          · cases read
        · cases read
  · rintro ⟨named, rfl, ended⟩
    exact identifier?_append named ended

theorem Unnamed.ended {s : Text} (unnamed : Unnamed s) : ∀ c ∈ s.head?, isWord c = false :=
  fun c first => (unnamed c first).1

theorem dotted?_unnamed {s : Text} (unnamed : Unnamed s) : Word.dotted? s = none := by
  cases s with
  | nil => rfl
  | cons c s =>
      have word := isAsciiWord_of_ended unnamed.ended c rfl
      simp [Word.dotted?, word, (unnamed c rfl).2]

theorem dotted?_append {name s : Text} (nonempty : name ≠ [])
    (written : ∀ c ∈ name, isAsciiWord c = true ∨ c = '.')
    (ends : ∀ c ∈ name.getLast?, isAsciiWord c = true) (unnamed : Unnamed s) :
    Word.dotted? (name ++ s) = some (name, s) := by
  -- A longer name is tried first, and only at the last character there is none.
  induction name with
  | nil => exact absurd rfl nonempty
  | cons c name ih =>
      have part : (isAsciiWord c || c == '.') = true := by
        simpa using written c List.mem_cons_self
      cases name with
      | nil =>
          have boundary := isBoundary_of_ended (ends c rfl) unnamed.ended
          simp only [List.cons_append, List.nil_append, Word.dotted?, part, if_true,
            dotted?_unnamed unnamed, boundary]
      | cons d name =>
          have rest := ih (List.cons_ne_nil d name)
            (fun e member => written e (List.mem_cons_of_mem c member))
            (fun e last => ends e (by simpa using last))
          rw [List.cons_append, Word.dotted?, if_pos part, rest]

theorem dottedIdentifier?_named {name s : Text} (named : Named true name) (unnamed : Unnamed s) :
    Word.dottedIdentifier? (name ++ s) = some (name, s) := by
  obtain ⟨c, first, initial⟩ := named.starts
  cases name with
  | nil => cases first
  | cons d name =>
      obtain rfl : d = c := by simpa using first
      have whole := dotted?_append (List.cons_ne_nil d name)
        (fun e member => (named.written e member).imp_right And.right) named.ends unnamed
      rw [List.cons_append] at whole ⊢
      rw [Word.dottedIdentifier?, if_pos initial, whole]

/-! ## Declarations -/

inductive DeclarationWord where
  | function
  | val
  | var
deriving Repr, DecidableEq

namespace DeclarationWord

def member : DeclarationWord → MemberWord
  | .function => .function
  | .val => .val
  | .var => .var

def isFunction : DeclarationWord → Bool
  | .function => true
  | .val | .var => false

def scopes (word : DeclarationWord) : List ScopeWord :=
  if word.isFunction then ScopeWord.ofFunction else ScopeWord.ofProperty

theorem isFunction_eq_false {word : DeclarationWord} (property : word ≠ .function) :
    word.isFunction = false := by
  cases word with
  | function => exact absurd rfl property
  | val => rfl
  | var => rfl

theorem after?_scope (word : DeclarationWord) (scope : ScopeWord) (s : Text) :
    Text.after? scope.text (word.member.text ++ s) = none := by
  cases word <;> cases scope <;> rfl

theorem solid (word : DeclarationWord) (s : Text) :
    ∀ c ∈ (word.member.text ++ s).head?, isBlank c = false := by
  intro c first
  cases word <;> (obtain rfl := Option.some.inj first; decide)

end DeclarationWord

/-- A declaration on one line, taken apart: `rest` is what stands between the name and the first
opening brace, `tail` what stands from there on. -/
structure Declaration where
  indent : Text
  scope : Option Scope
  word : DeclarationWord
  gap : Text
  name : Text
  rest : Text
  tail : Text
  indented : Blanks indent
  allowed : ∀ written ∈ scope, written.word ∈ word.scopes
  separated : Blanks gap ∧ gap ≠ []
  named : Named word.isFunction name
  unnamed : Unnamed (rest ++ tail)
  unbraced : '{' ∉ rest
  braced : ∀ c ∈ tail.head?, c = '{'

namespace Declaration

def unscoped (declaration : Declaration) : Text :=
  declaration.word.member.text ++
    (declaration.gap ++ (declaration.name ++ (declaration.rest ++ declaration.tail)))

def written (declaration : Declaration) : Text :=
  ((declaration.scope.map Scope.text).getD []) ++ declaration.unscoped

def text (declaration : Declaration) : Text :=
  declaration.indent ++ declaration.written

def visibility (declaration : Declaration) : Visibility :=
  match declaration.scope with
  | none => .everyone
  | some scope => scope.word.visibility

def member (declaration : Declaration) (docstring : List Text) (line : Int) : Member where
  visibility := declaration.visibility
  line := line
  kind := .plain declaration.word.member
  name := declaration.name
  docstring := docstring
  rest := trimmed? declaration.rest
  origin := .body none
  raw := declaration.text

theorem ofScope_scope (declaration : Declaration) :
    Visibility.ofScope (declaration.scope.map Scope.text) = declaration.visibility := by
  unfold visibility
  cases declaration.scope with
  | none => rfl
  | some scope => exact ofScope_text scope

theorem trimLeft_text (declaration : Declaration) :
    Text.trimLeft declaration.text = declaration.written := by
  rw [text, trimLeft_append declaration.indented]
  unfold written unscoped
  cases declaration.scope with
  | none => cases declaration.word <;> exact trimLeft_cons (by decide) _
  | some scope =>
      simp only [Option.map_some, Option.getD_some, Scope.text, List.append_assoc]
      cases scope.word <;> exact trimLeft_cons (by decide) _

theorem optional_scope (declaration : Declaration) {words : List ScopeWord}
    (allowed : ∀ scope ∈ declaration.scope, scope.word ∈ words) :
    Word.optional (words.map ScopeWord.text) declaration.written =
      (declaration.scope.map Scope.text, declaration.unscoped) := by
  unfold written
  cases present : declaration.scope with
  | none => exact optional_unwritten fun scope _ => declaration.word.after?_scope scope _
  | some scope => exact optional_written (allowed scope present) (declaration.word.solid _)

theorem optional_function (declaration : Declaration) :
    Word.optional Header.functionScopeWords declaration.written =
      (declaration.scope.map Scope.text, declaration.unscoped) :=
  declaration.optional_scope fun scope _ => scope.word.mem_ofFunction

/-- As no property is external, this word is left when the scope of a property has been read. -/
theorem optional_property (declaration : Declaration) :
    ∃ scope s, Word.optional Header.scopeWords declaration.written = (scope, s) ∧
      (s = declaration.unscoped ∨ ∃ t, s = ScopeWord.external_.text ++ t) := by
  by_cases inner : ∀ scope ∈ declaration.scope, scope.word ≠ .external_
  · exact ⟨_, _, declaration.optional_scope fun scope present =>
      ScopeWord.mem_ofProperty (inner scope present), .inl rfl⟩
  · push Not at inner
    obtain ⟨scope, present, external⟩ := inner
    have start : declaration.written =
        ScopeWord.external_.text ++ (scope.blanks ++ declaration.unscoped) := by
      rw [written, Option.mem_def.mp present, Option.map_some, Option.getD_some, Scope.text,
        external, List.append_assoc]
    have absent : ∀ word ∈ ScopeWord.ofProperty,
        Text.after? word.text declaration.written = none := by
      intro word member
      rw [start]
      refine ScopeWord.after?_other (fun same => ?_) _
      rw [same] at member
      exact absurd member (by decide)
    exact ⟨none, _, optional_unwritten absent, .inr ⟨_, start⟩⟩

theorem spaced?_word (declaration : Declaration) :
    Word.spaced? declaration.word.member.text declaration.unscoped =
      some (declaration.word.member.text ++ declaration.gap,
        declaration.name ++ (declaration.rest ++ declaration.tail)) := by
  obtain ⟨blank, spaced⟩ := declaration.separated
  exact spaced?_append _ blank spaced (declaration.named.solid _)

theorem braces_rest (declaration : Declaration) :
    Header.beforeBrace (declaration.rest ++ declaration.tail) = declaration.rest ∧
      Header.fromBrace (declaration.rest ++ declaration.tail) = declaration.tail := by
  have inside : ∀ c ∈ declaration.rest, (c != '{') = true := by
    intro c member
    have other : c ≠ '{' := fun same => declaration.unbraced (same ▸ member)
    simpa using other
  have stop : ∀ c ∈ declaration.tail.head?, (c != '{') = false := by
    intro c first
    simp [declaration.braced c first]
  exact ⟨takeWhile_append_stop inside stop, dropWhile_append_stop inside stop⟩

/-! ## Recognition -/

theorem function_parse? (declaration : Declaration)
    (function : declaration.word = .function) :
    FunctionHeader.parse? declaration.text =
      some (⟨declaration.scope.map Scope.text, none, declaration.name, declaration.rest⟩,
        declaration.tail) := by
  have word := declaration.spaced?_word
  have named := declaration.named
  rw [function] at word named
  change Word.spaced? "fun" _ = _ at word
  have solid := trimLeft_eq_self (named.solid (declaration.rest ++ declaration.tail))
  have name := dottedIdentifier?_named named declaration.unnamed
  unfold FunctionHeader.parse?
  simp only [trimLeft_text, optional_function, word, named.after?_template, solid, name,
    braces_rest, Option.bind_eq_bind, Option.bind_some]
  rfl

theorem function_parse?_eq_none (declaration : Declaration)
    (property : declaration.word ≠ .function) :
    FunctionHeader.parse? declaration.text = none := by
  have other : Word.spaced? "fun" declaration.unscoped = none := by
    apply spaced?_eq_none
    unfold unscoped
    cases word : declaration.word with
    | function => exact absurd word property
    | val => rfl
    | var => rfl
  unfold FunctionHeader.parse?
  simp only [trimLeft_text, optional_function, other, Option.bind_eq_bind, Option.bind_none]

theorem initial_parse?_eq_none (declaration : Declaration) :
    InitialHeader.parse? declaration.text = none := by
  obtain ⟨scope, s, optional, start⟩ := declaration.optional_property
  have absent : [InitialWord.init, .constructor, .primary].findSome? (fun word =>
      (Text.after? word.text s).map fun rest => (word, rest)) = none := by
    rcases start with rfl | ⟨t, rfl⟩
    · unfold unscoped
      cases declaration.word <;> rfl
    · rfl
  unfold InitialHeader.parse?
  simp only [trimLeft_text, optional, absent, Option.bind_eq_bind, Option.bind_none]

theorem property_parse?_eq_none (declaration : Declaration)
    (function : declaration.word = .function) :
    PropertyHeader.parse? declaration.text = none := by
  obtain ⟨scope, s, optional, start⟩ := declaration.optional_property
  have absent : [("var" : Text), "val"].findSome? (Word.spaced? · s) = none := by
    rcases start with rfl | ⟨t, rfl⟩
    · unfold unscoped
      rw [function]
      rfl
    · rfl
  unfold PropertyHeader.parse?
  simp only [trimLeft_text, optional, absent, Option.bind_eq_bind, Option.bind_none]

theorem property_parse? (declaration : Declaration) (property : declaration.word ≠ .function) :
    ∃ computed after, PropertyHeader.parse? declaration.text =
      some (⟨declaration.scope.map Scope.text, declaration.word.member.text ++ declaration.gap,
        declaration.name, declaration.rest, computed⟩, after) := by
  have allowed := declaration.allowed
  have named := declaration.named
  rw [DeclarationWord.scopes, DeclarationWord.isFunction_eq_false property] at allowed
  rw [DeclarationWord.isFunction_eq_false property] at named
  have scope : Word.optional Header.scopeWords declaration.written = _ :=
    declaration.optional_scope allowed
  have word : [("var" : Text), "val"].findSome? (Word.spaced? · declaration.unscoped) =
      some (declaration.word.member.text ++ declaration.gap,
        declaration.name ++ (declaration.rest ++ declaration.tail)) := by
    have written := declaration.spaced?_word
    cases word : declaration.word with
    | function => exact absurd word property
    | val =>
        have other : Word.spaced? "var" declaration.unscoped = none := by
          rw [unscoped, word]
          rfl
        rw [word] at written
        change Word.spaced? "val" _ = _ at written
        rw [List.findSome?_cons, other, List.findSome?_cons, written]
    | var =>
        rw [word] at written
        change Word.spaced? "var" _ = _ at written
        rw [List.findSome?_cons, written]
  have name := identifier?_append named declaration.unnamed.ended
  -- The two results differ in what they keep of the opening brace.
  unfold PropertyHeader.parse?
  simp only [trimLeft_text, scope, word, name, braces_rest, Option.bind_eq_bind, Option.bind_some]
  cases declaration.tail with
  | nil => exact ⟨_, _, rfl⟩
  | cons brace tail => exact ⟨_, _, rfl⟩

theorem ofHeader_plain {header : MemberHeader} {word : DeclarationWord}
    (kind : header.kind false = .plain word.member) (docstring : List Text) (line : Int)
    (raw : Text) :
    Member.ofHeader false docstring line raw header =
      [⟨.ofScope header.scope, line, .plain word.member, header.name, docstring,
        trimmed? header.rest, .body (header.rawValue.bind trimmed?), raw⟩] := by
  unfold Member.ofHeader
  simp only [kind]
  cases word <;> rfl

theorem ofLine_declaration (declaration : Declaration) (docstring : List Text) (line : Int) :
    (MemberHeader.ofLine false declaration.text).flatMap
      (Member.ofHeader false docstring line declaration.text) =
        [declaration.member docstring line] := by
  rw [member, ← declaration.ofScope_scope]
  by_cases function : declaration.word = .function
  · have header : MemberHeader.ofLine false declaration.text = [.function
        ⟨declaration.scope.map Scope.text, none, declaration.name, declaration.rest⟩] := by
      simp [MemberHeader.ofLine, declaration.function_parse? function, initial_parse?_eq_none,
        declaration.property_parse?_eq_none function]
    have kind : (MemberHeader.function
        ⟨declaration.scope.map Scope.text, none, declaration.name, declaration.rest⟩).kind false =
        .plain declaration.word.member := by
      rw [function]
      rfl
    rw [header, List.flatMap_singleton, ofHeader_plain kind]
    rfl
  · obtain ⟨computed, after, read⟩ := declaration.property_parse? function
    have header : MemberHeader.ofLine false declaration.text = [.property
        ⟨declaration.scope.map Scope.text, declaration.word.member.text ++ declaration.gap,
          declaration.name, declaration.rest, computed⟩] := by
      simp [MemberHeader.ofLine, declaration.function_parse?_eq_none function,
        initial_parse?_eq_none, read]
    have kind : (MemberHeader.property
        ⟨declaration.scope.map Scope.text, declaration.word.member.text ++ declaration.gap,
          declaration.name, declaration.rest, computed⟩).kind false =
        .plain declaration.word.member := by
      cases word : declaration.word with
      | function => exact absurd word function
      | val => rfl
      | var => rfl
    rw [header, List.flatMap_singleton, ofHeader_plain kind]
    rfl

end Declaration

end KotlinDoc.Proofs
