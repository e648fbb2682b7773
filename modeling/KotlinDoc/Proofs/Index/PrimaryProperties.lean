import KotlinDoc.Proofs.Index.Constructors
import KotlinDoc.Proofs.Index.Rewording
import KotlinDoc.Proofs.Source.ClassForms
import KotlinDoc.Proofs.Source.HeaderReading

namespace KotlinDoc.Proofs

/-! ## Parameters that declare properties -/

structure Token (s : Text) : Prop where
  filled : s ≠ []
  solid : Solid s
  plain : ∀ c ∈ s, c ∉ (",:=()\x7b\x7d\"/" : Text)

instance (s : Text) : Decidable (Token s) :=
  decidable_of_iff (s ≠ [] ∧ Solid s ∧
    s.all (fun c => !(",:=()\x7b\x7d\"/" : Text).contains c) = true)
    ⟨fun h => ⟨h.1, h.2.1, by simpa using h.2.2⟩, fun h => ⟨h.filled, h.solid, by simpa using h.plain⟩⟩

structure PropertyParameter where
  scope : Option ScopeWord
  word : DeclarationWord
  name : Text
  type : Text
  default : Option Text
  allowed : scope ≠ some .external_
  property : word ≠ .function
  named : Named false name
  typed : Token type
  valued : ∀ value ∈ default, Token value

def spacedScope (word : ScopeWord) : Scope :=
  ⟨word, " ", space_blanks, space_filled⟩

namespace PropertyParameter

variable (parameter : PropertyParameter)

def rest : Text :=
  ": " ++ parameter.type ++ (match parameter.default with
    | none => []
    | some value => " = " ++ value)

def text : Text :=
  ((parameter.scope.map spacedScope).map Scope.text).getD [] ++
    (parameter.word.member.text ++ ' ' :: (parameter.name ++ parameter.rest))

def visibility : Visibility :=
  match parameter.scope with
  | none => .everyone
  | some scope => scope.visibility

theorem unbraced_rest : '{' ∉ parameter.rest := by
  have type : '{' ∉ parameter.type := fun member => parameter.typed.plain _ member (by decide)
  unfold rest
  split
  · simp [type]
  · rename_i value present
    have value : '{' ∉ value := fun member => (parameter.valued value present).plain _ member (by decide)
    simp [type, value]

theorem trim_rest : Text.trim parameter.rest = parameter.rest := by
  have ends {s : Text} (token : Token s) (front : Text) :
      ∀ c ∈ (front ++ s).getLast?, isBlank c = false := by
    intro c last
    rw [List.getLast?_append_of_ne_nil _ token.filled] at last
    exact token.solid c (List.mem_of_mem_getLast? last)
  unfold rest
  split
  · rename_i absent
    apply trim_eq_self
    · intro c first
      cases first
      decide
    · rw [List.append_nil]
      exact ends parameter.typed _
  · rename_i value present
    apply trim_eq_self
    · intro c first
      cases first
      decide
    · rw [← List.append_assoc]
      exact ends (parameter.valued value present) _

theorem scope_allowed : ∀ written ∈ parameter.scope.map spacedScope,
    written.word ∈ parameter.word.scopes := by
  intro written present
  obtain ⟨scope, own, rfl⟩ := Option.map_eq_some_iff.mp present
  rw [DeclarationWord.scopes, DeclarationWord.isFunction_eq_false parameter.property]
  apply ScopeWord.mem_ofProperty
  rintro rfl
  exact parameter.allowed own

theorem name_named : Named parameter.word.isFunction parameter.name := by
  rw [DeclarationWord.isFunction_eq_false parameter.property]
  exact parameter.named

theorem rest_unnamed : Unnamed (parameter.rest ++ []) := by
  intro c first
  cases first
  decide

def declaration (indent : Text) (indented : Blanks indent) : Declaration where
  indent := indent
  scope := parameter.scope.map spacedScope
  word := parameter.word
  gap := " "
  name := parameter.name
  rest := parameter.rest
  tail := []
  indented := indented
  allowed := parameter.scope_allowed
  separated := space_separated
  named := parameter.name_named
  unnamed := parameter.rest_unnamed
  unbraced := parameter.unbraced_rest
  braced := nofun

theorem text_declaration {indent : Text} (indented : Blanks indent) :
    (parameter.declaration indent indented).text = indent ++ parameter.text := by
  simp [Declaration.text, Declaration.written, Declaration.unscoped, text, declaration]

theorem visibility_declaration {indent : Text} (indented : Blanks indent) :
    (parameter.declaration indent indented).visibility = parameter.visibility := by
  obtain ⟨scope, _⟩ := parameter
  cases scope <;> rfl

theorem ofText_eq {indent : Text} (indented : Blanks indent) :
    ∃ header, ConstructorParameter.ofText (indent ++ parameter.text) =
        .property header (indent ++ parameter.text) ∧
      Visibility.ofScope header.scope = parameter.visibility ∧ header.word = parameter.word.member ∧
      header.name = parameter.name ∧ header.rest = parameter.rest := by
  obtain ⟨computed, after, parsed⟩ :=
    (parameter.declaration indent indented).property_parse? parameter.property
  rw [text_declaration] at parsed
  refine ⟨_, by rw [ConstructorParameter.ofText, parsed], ?_, ?_, rfl, rfl⟩
  · rw [← parameter.visibility_declaration indented]
    exact (parameter.declaration indent indented).ofScope_scope
  · show (if Text.startsWith "var" (parameter.word.member.text ++ " ") then _ else _) = _
    cases word : parameter.word with
    | function => exact absurd word parameter.property
    | val => rfl
    | var => rfl

def signature : Text :=
  parameter.name ++ parameter.rest

def member (raw : Text) : Member where
  visibility := parameter.visibility
  line := 3
  kind := .plain parameter.word.member
  name := parameter.name
  docstring := []
  rest := some parameter.rest
  origin := .primaryConstructor
  raw := raw

theorem written_ofText {indent : Text} (indented : Blanks indent) :
    (ConstructorParameter.ofText (indent ++ parameter.text)).written = parameter.signature := by
  obtain ⟨header, read, -, -, name, rest⟩ := parameter.ofText_eq indented
  rw [read, ConstructorParameter.written, name, rest, trim_rest]
  rfl

theorem member?_ofText {indent : Text} (indented : Blanks indent) :
    (ConstructorParameter.ofText (indent ++ parameter.text)).member? [[]] 3 =
      some (parameter.member (indent ++ parameter.text)) := by
  obtain ⟨header, read, scope, word, name, rest⟩ := parameter.ofText_eq indented
  have shown : trimmed? parameter.rest = some parameter.rest := by
    have filled : parameter.rest.isEmpty = false := rfl
    rw [trimmed?, filled, trim_rest]
    rfl
  have undescribed : DocComment.description NamedTag.property.word parameter.name [[]] = [] := rfl
  rw [read]
  simp only [ConstructorParameter.member?, ConstructorParameter.description, scope, word, name, rest,
    shown, undescribed]
  rfl

theorem docLine_ofText {indent : Text} (indented : Blanks indent) :
    (ConstructorParameter.ofText (indent ++ parameter.text)).docLine [[]] = [] := by
  obtain ⟨header, read, -⟩ := parameter.ofText_eq indented
  rw [read]
  rfl

theorem notMem {c : Char} (mark : c ∈ (",()\x7b\x7d\"/" : Text)) : c ∉ parameter.text := by
  have known : c = ',' ∨ c = '(' ∨ c = ')' ∨ c = '{' ∨ c = '}' ∨ c = '"' ∨ c = '/' := by simpa using mark
  have marks : (",()\x7b\x7d\"/" : Text) ⊆ (",:=()\x7b\x7d\"/" : Text) := by decide
  have scope (word : ScopeWord) : c ∉ word.text ++ [' '] := by
    rcases known with rfl | rfl | rfl | rfl | rfl | rfl | rfl <;> cases word <;> decide
  have word (word : DeclarationWord) : c ∉ word.member.text := by
    rcases known with rfl | rfl | rfl | rfl | rfl | rfl | rfl <;> cases word <;> decide
  have name : c ∉ parameter.name := by
    apply parameter.named.notMem
    rcases known with rfl | rfl | rfl | rfl | rfl | rfl | rfl <;> rfl
  have others : c ≠ ' ' ∧ c ≠ ':' ∧ c ≠ '=' := by
    rcases known with rfl | rfl | rfl | rfl | rfl | rfl | rfl <;> decide
  have type : c ∉ parameter.type := fun member => parameter.typed.plain c member (marks mark)
  have rest : c ∉ parameter.rest := by
    unfold PropertyParameter.rest
    split
    · simp [type, others]
    · rename_i value present
      have value : c ∉ value := fun member =>
        (parameter.valued value present).plain c member (marks mark)
      simp [type, value, others]
  have front : c ∉ ((parameter.scope.map spacedScope).map Scope.text).getD [] := by
    cases parameter.scope with
    | none => exact List.not_mem_nil
    | some own => exact scope own
  unfold text
  rw [List.mem_append, not_or]
  exact ⟨front, by simp [word, name, rest, others]⟩

end PropertyParameter

/-! ## Lists of parameters -/

def parameterList (parameters : List PropertyParameter) : Text :=
  Text.joined ", " (parameters.map PropertyParameter.text)

def withPieces : List PropertyParameter → List (Text × PropertyParameter)
  | [] => []
  | first :: others =>
    (first.text, first) :: others.map fun parameter => (' ' :: parameter.text, parameter)

theorem withPieces_snd (parameters : List PropertyParameter) :
    (withPieces parameters).map Prod.snd = parameters := by
  cases parameters with
  | nil => rfl
  | cons first others => simp [withPieces, Function.comp_def]

theorem withPieces_fst {parameters : List PropertyParameter} {entry : Text × PropertyParameter}
    (member : entry ∈ withPieces parameters) :
    ∃ indent, Blanks indent ∧ entry.1 = indent ++ entry.2.text := by
  cases parameters with
  | nil => cases member
  | cons first others =>
      rcases List.mem_cons.mp member with rfl | later
      · exact ⟨[], fun _ inside => absurd inside List.not_mem_nil, rfl⟩
      · obtain ⟨parameter, -, rfl⟩ := List.mem_map.mp later
        exact ⟨[' '], space_blanks, rfl⟩

theorem pieces_single {s : Text} (single : ',' ∉ s) : Text.pieces ',' s = [s] :=
  piecesAt_of_none fun _ member => beq_eq_false_iff_ne.mpr fun same => single (same ▸ member)

theorem pieces_joined {indent first : Text} {others : List Text} (blank : ',' ∉ indent)
    (plain : ∀ s ∈ first :: others, ',' ∉ s) :
    Text.pieces ',' (indent ++ Text.joined ", " (first :: others)) =
      (indent ++ first) :: others.map (' ' :: ·) := by
  have single : ',' ∉ indent ++ first := by
    simp [blank, plain first List.mem_cons_self]
  induction others generalizing indent first with
  | nil => simpa [Text.joined] using pieces_single single
  | cons second others ih =>
      have later := (List.forall_mem_cons.mp plain).2
      have cut : indent ++ Text.joined ", " (first :: second :: others) =
          (indent ++ first) ++ ',' :: ([' '] ++ Text.joined ", " (second :: others)) := by
        rw [joined_cons_cons]
        simp
      have front := pieces_single single
      have rest := @ih [' '] second (by decide) later (by simp [later second List.mem_cons_self])
      unfold Text.pieces at front rest ⊢
      rw [cut, piecesAt_append (by decide), front, rest]
      simp

theorem pieces_parameterList {parameters : List PropertyParameter} (filled : parameters ≠ []) :
    Text.pieces ',' (parameterList parameters) = (withPieces parameters).map Prod.fst := by
  obtain ⟨first, others, rfl⟩ := List.exists_cons_of_ne_nil filled
  have plain : ∀ s ∈ first.text :: others.map PropertyParameter.text, ',' ∉ s := by
    refine List.forall_mem_cons.mpr ⟨first.notMem (by decide), List.forall_mem_map.mpr ?_⟩
    exact fun parameter _ => parameter.notMem (by decide)
  have cut := @pieces_joined [] _ _ List.not_mem_nil plain
  simpa [parameterList, withPieces, Function.comp_def] using cut

def propertyMembers (parameters : List PropertyParameter) : List Member :=
  (withPieces parameters).map fun entry => entry.2.member entry.1

def constructorMember (parameters : List PropertyParameter) : Member where
  visibility := .everyone
  line := 2
  kind := .plain (.initial .constructor)
  name := "constructor"
  docstring := ["Main constructor", ""]
  rest := some (enclosed (Text.joined ", " (parameters.map PropertyParameter.signature)))
  origin := .body none
  raw := InitialWord.primary.text ++ enclosed (parameterList parameters)

theorem list_enclosed {parameters : List PropertyParameter} (filled : parameters ≠ []) :
    ConstructorParameter.list (enclosed (parameterList parameters)) =
      (withPieces parameters).map fun entry => ConstructorParameter.ofText entry.1 := by
  unfold enclosed ConstructorParameter.list
  rw [trim_enclosed]
  simp [pieces_parameterList filled, Function.comp_def]

section

variable (parameters : List PropertyParameter)

theorem written_withPieces :
    ((withPieces parameters).map fun entry => ConstructorParameter.ofText entry.1).map (·.written) =
      parameters.map PropertyParameter.signature := by
  conv_rhs => rw [← withPieces_snd parameters]
  rw [List.map_map, List.map_map]
  apply List.map_congr_left
  intro entry member
  obtain ⟨indent, indented, same⟩ := withPieces_fst member
  simp [same, entry.2.written_ofText indented]

theorem member?_withPieces :
    ((withPieces parameters).map fun entry => ConstructorParameter.ofText entry.1).filterMap
        (·.member? [[]] 3) = propertyMembers parameters := by
  unfold propertyMembers
  rw [List.filterMap_map, ← List.filterMap_eq_map]
  apply List.filterMap_congr
  intro entry member
  obtain ⟨indent, indented, same⟩ := withPieces_fst member
  simp [same, entry.2.member?_ofText indented]

theorem primaryDocstring_withPieces :
    Member.primaryDocstring [[]]
        ((withPieces parameters).map fun entry => ConstructorParameter.ofText entry.1) =
      [("Main constructor" : Text), ""] := by
  have undescribed : ∀ parameter ∈ (withPieces parameters).map fun entry =>
      ConstructorParameter.ofText entry.1, parameter.docLine [[]] = [] := by
    refine List.forall_mem_map.mpr fun entry member => ?_
    obtain ⟨indent, indented, same⟩ := withPieces_fst member
    rw [same, entry.2.docLine_ofText indented]
  have nothing (kept : ConstructorParameter → Bool) :
      (((withPieces parameters).map fun entry => ConstructorParameter.ofText entry.1).filter
        kept).flatMap (·.docLine [[]]) = [] :=
    List.flatMap_eq_nil_iff.mpr fun parameter member =>
      undescribed parameter (List.mem_filter.mp member).1
  unfold Member.primaryDocstring
  rw [nothing, nothing]
  rfl

end

theorem ofPrimary_eq {parameters : List PropertyParameter} (filled : parameters ≠ []) :
    Member.ofPrimary ⟨none, .primary, enclosed (parameterList parameters)⟩ [[]] 2
        (InitialWord.primary.text ++ enclosed (parameterList parameters)) =
      constructorMember parameters :: propertyMembers parameters := by
  have some : (enclosed (parameterList parameters)).isEmpty = false := rfl
  have shown : trimmed? (("(" : Text) ++
      Text.joined ", " (parameters.map PropertyParameter.signature) ++ ")") =
      _ := trimmed?_enclosed (Text.joined ", " (parameters.map PropertyParameter.signature))
  unfold Member.ofPrimary
  simp only [some, Bool.false_eq_true, if_false, list_enclosed filled, written_withPieces,
    primaryDocstring_withPieces, shown]
  rw [← member?_withPieces]
  rfl

/-! ## The line of the constructor -/

def Uncompanied (last first : Char) : Prop :=
  last = 'n' → first ≠ 'o'

theorem outside_of_spaced {line : Text} (spaced : Spaced Uncompanied line) : Outside line := by
  unfold Outside
  rw [spaced.unspaced_eq, ← Bool.not_eq_true, has_iff_isInfix]
  -- The phrase has a space between `n` and `o`, which no space of the line is.
  intro inside
  have around : ['n', ' ', 'o'] <:+: "companion object".toList := by decide
  exact spaced.fit_of_infix (by decide) (around.trans inside) rfl rfl

theorem Token.spaced {fit : Char → Char → Prop} {s : Text} (token : Token s) : Spaced fit s :=
  .word token.solid token.filled

theorem spaced_name {name : Text} (named : Named false name) (c : Char) (solid : isBlank c = false) :
    Spaced Uncompanied (name ++ [c]) :=
  .word (List.forall_mem_append.mpr ⟨named.solid_text, by simpa using solid⟩) (by simp)

theorem PropertyParameter.spaced_text (parameter : PropertyParameter) :
    Spaced Uncompanied parameter.text := by
  have equals : Spaced Uncompanied "=" := .word (by decide) (by decide)
  have name := spaced_name parameter.named ':' (by decide)
  have named : Spaced Uncompanied (parameter.name ++ parameter.rest) := by
    unfold PropertyParameter.rest
    cases present : parameter.default with
    | none =>
        have typed := name.join parameter.typed.spaced (by simp [Uncompanied])
        simpa using typed
    | some value =>
        have valued := equals.join (parameter.valued value present).spaced (by simp [Uncompanied])
        have typed := parameter.typed.spaced.join valued (by simp [Uncompanied])
        have whole := name.join typed (by simp [Uncompanied])
        simpa using whole
  have keyword (word : DeclarationWord) : Spaced Uncompanied word.member.text :=
    .word (by cases word <;> decide) (by cases word <;> decide)
  have visible (scope : ScopeWord) : Spaced Uncompanied scope.text :=
    .word (by cases scope <;> decide) (by cases scope <;> decide)
  have declared : Spaced Uncompanied
      (parameter.word.member.text ++ ' ' :: (parameter.name ++ parameter.rest)) := by
    refine (keyword _).join named fun last ending first _ same => ?_
    subst same
    cases word : parameter.word with
    | function => exact absurd word parameter.property
    | val => rw [word] at ending; cases ending
    | var => rw [word] at ending; cases ending
  unfold PropertyParameter.text
  cases parameter.scope with
  | none => exact declared
  | some scope =>
      have whole : Spaced Uncompanied (scope.text ++ ' ' ::
          (parameter.word.member.text ++ ' ' :: (parameter.name ++ parameter.rest))) := by
        refine (visible scope).join declared fun last _ first start _ same => ?_
        subst same
        cases word : parameter.word <;> (rw [word] at start; cases start)
      simpa [spacedScope, Scope.text] using whole

theorem parameterList_notMem (parameters : List PropertyParameter) {c : Char}
    (mark : c ∈ ("()\x7b\x7d\"/" : Text)) : c ∉ parameterList parameters := by
  have marks : ("()\x7b\x7d\"/" : Text) ⊆ (",()\x7b\x7d\"/" : Text) := by decide
  intro member
  rcases mem_joined member with separator | ⟨s, text, inside⟩
  · have apart : (", " : Text).all (fun c => !("()\x7b\x7d\"/" : Text).contains c) = true := by decide
    have other := List.all_eq_true.mp apart c separator
    rw [List.contains_iff_mem.mpr mark] at other
    cases other
  · obtain ⟨parameter, -, rfl⟩ := List.mem_map.mp text
    exact parameter.notMem (marks mark) inside

theorem spaced_parameterList {parameters : List PropertyParameter} (filled : parameters ≠ []) :
    Spaced Uncompanied (parameterList parameters) := by
  induction parameters with
  | nil => exact absurd rfl filled
  | cons first others ih =>
      cases others with
      | nil => simpa [parameterList, Text.joined] using first.spaced_text
      | cons second others =>
          have comma : Spaced Uncompanied "," := .word (by decide) (by decide)
          have whole := (first.spaced_text.append comma).join (ih (List.cons_ne_nil _ _))
            (by simp [Uncompanied])
          unfold parameterList at whole ⊢
          rw [List.map_cons, List.map_cons, joined_cons_cons]
          simpa using whole

theorem spaced_enclosed {front : Text} (solid : Solid front) {parameters : List PropertyParameter}
    (filled : parameters ≠ []) : Spaced Uncompanied (front ++ enclosed (parameterList parameters)) := by
  have opening : Spaced Uncompanied (front ++ ['(']) :=
    .word (List.forall_mem_append.mpr ⟨solid, (by decide : Solid ['('])⟩) (by simp)
  have closing : Spaced Uncompanied [')'] := .word (by decide) (by decide)
  have whole := (opening.append (spaced_parameterList filled)).append closing
  simpa [enclosed] using whole

section

variable {parameters : List PropertyParameter}

theorem primary_notMem (parameters : List PropertyParameter) {c : Char}
    (mark : c ∈ ("\x7b\x7d\"/" : Text)) :
    c ∉ InitialWord.primary.text ++ enclosed (parameterList parameters) := by
  have marks : ("\x7b\x7d\"/" : Text) ⊆ ("()\x7b\x7d\"/" : Text) := by decide
  have known : c = '{' ∨ c = '}' ∨ c = '"' ∨ c = '/' := by simpa using mark
  have others : c ∉ InitialWord.primary.text ∧ c ≠ '(' ∧ c ≠ ')' := by
    rcases known with rfl | rfl | rfl | rfl <;> decide
  simp [enclosed, others, parameterList_notMem parameters (marks mark)]

theorem level_primary (filled : parameters ≠ []) :
    Level false (InitialWord.primary.text ++ enclosed (parameterList parameters)) where
  parens := by
    have excess := excess_of_plain (primary_notMem parameters (by decide))
      (primary_notMem parameters (by decide)) '(' ')'
    have word : InitialWord.primary.text.count '(' = 0 ∧ InitialWord.primary.text.count ')' = 0 := by
      decide
    have opening : (parameterList parameters).count '(' = 0 :=
      List.count_eq_zero.mpr (parameterList_notMem parameters (by decide))
    have closing : (parameterList parameters).count ')' = 0 :=
      List.count_eq_zero.mpr (parameterList_notMem parameters (by decide))
    unfold Source.parenExcess
    rw [excess]
    simp [enclosed, word, opening, closing]
  braces := excess_eq_zero (primary_notMem parameters (by decide)) (primary_notMem parameters (by decide))
  outside _ := outside_of_spaced (spaced_enclosed (by decide) filled)

theorem trimRight_enclosed (front list : Text) :
    Text.trimRight (front ++ enclosed list) = front ++ enclosed list := by
  have shape : front ++ enclosed list = (front ++ '(' :: list) ++ [')'] := by
    simp [enclosed]
  rw [shape]
  exact trimRight_concat _ (by decide)

theorem ofLine_primary (parameters : List PropertyParameter) :
    MemberHeader.ofLine false (InitialWord.primary.text ++ enclosed (parameterList parameters)) =
      [.initial ⟨none, .primary, enclosed (parameterList parameters)⟩] := by
  have initial : InitialHeader.parse?
      (InitialWord.primary.text ++ enclosed (parameterList parameters)) =
      some (⟨none, .primary, enclosed (parameterList parameters)⟩, []) :=
    parse?_primary (parameterList_notMem parameters (by decide))
  have function : FunctionHeader.parse?
      (InitialWord.primary.text ++ enclosed (parameterList parameters)) = none := rfl
  have property : PropertyHeader.parse?
      (InitialWord.primary.text ++ enclosed (parameterList parameters)) = none := rfl
  simp [MemberHeader.ofLine, initial, function, property]

theorem ofSites_primary (filled : parameters ≠ []) :
    Member.ofSites false 0 (Site.list
        (KotlinDoc.Declaration.constructorLines [] (enclosed (parameterList parameters)) ++ [[]])) =
      constructorMember parameters :: propertyMembers parameters := by
  have comment : ∀ line ∈ [DocComment.opening, DocComment.closing],
      Silent false (Text.trimRight line) := by decide
  have blank : Silent false (Text.trimRight []) := by decide
  have level : Level false (Text.trimRight
      (InitialWord.primary.text ++ enclosed (parameterList parameters))) := by
    rw [trimRight_enclosed]
    exact level_primary filled
  have undocumented : Member.inlineDoc?
      (InitialWord.primary.text ++ enclosed (parameterList parameters)) = none := by
    have noSlash : Text.find? ('/' :: "**<")
        (InitialWord.primary.text ++ enclosed (parameterList parameters)) = none :=
      find?_eq_none (primary_notMem parameters (by decide))
    exact congrArg (Option.map _) noSlash
  have above : DocComment.above [DocComment.closing, DocComment.opening] = [[]] := by decide
  have lines : KotlinDoc.Declaration.constructorLines [] (enclosed (parameterList parameters)) ++ [[]] =
      [DocComment.opening, DocComment.closing] ++
        [InitialWord.primary.text ++ enclosed (parameterList parameters), []] := rfl
  rw [Member.ofSites, Site.list, lines, scan_silents comment within_start, scan_level level,
    trimRight_enclosed, ofLine_undocumented undocumented, ofLine_primary, List.flatMap_singleton,
    scan_silent blank within_start, Site.listBelow, Member.scan, List.append_nil]
  show Member.ofHeader false (DocComment.above [DocComment.closing, DocComment.opening]) 2 _
    (.initial _) = _
  rw [above]
  exact ofPrimary_eq filled

end

/-! ## Classes -/

structure PrimaryClass where
  word : ClassWord
  name : Text
  parameters : List PropertyParameter
  ordinary : word ≠ .enum
  named : Named false name
  unreserved : Text.startsWith "fun" name = false
  filled : parameters ≠ []

namespace PrimaryClass

variable (source : PrimaryClass)

def text : Text :=
  source.word.text ++ ' ' :: (source.name ++ enclosed (parameterList source.parameters))

theorem balanced (parameters : List PropertyParameter) : Balanced (parameterList parameters) := by
  have opening : '(' ∉ parameterList parameters := parameterList_notMem parameters (by decide)
  have closing : ')' ∉ parameterList parameters := parameterList_notMem parameters (by decide)
  refine ⟨fun before inside => ?_, ?_, parameterList_notMem parameters (by decide)⟩
  · rw [List.count_eq_zero.mpr fun member => closing (inside.subset member)]
    exact Nat.zero_le _
  · rw [List.count_eq_zero.mpr opening, List.count_eq_zero.mpr closing]

def front : Text :=
  source.word.text ++ ' ' :: source.name

theorem front_notMem {c : Char} (mark : c ∈ ("()\x7b\x7d:/" : Text)) : c ∉ source.front := by
  have marks : ("()\x7b\x7d:/" : Text).all (fun c => !isAsciiWord c && c != ' ') = true := by decide
  have word : source.word.text.all (fun c => isAsciiWord c || c == ' ') = true := by
    cases source.word <;> decide
  have other := List.all_eq_true.mp marks c mark
  simp only [Bool.and_eq_true, Bool.not_eq_true', bne_iff_ne] at other
  intro member
  rcases List.mem_append.mp member with letter | rest
  · have own := List.all_eq_true.mp word c letter
    simp [other] at own
  · rcases List.mem_cons.mp rest with space | name
    · exact other.2 space
    · exact source.named.notMem other.1 name

theorem front_plain : Unbracketed source.front ∧ ':' ∉ source.front := by
  have marks : ("()\x7b\x7d" : Text) ⊆ ("()\x7b\x7d:/" : Text) := by decide
  exact ⟨fun c member mark => source.front_notMem (marks mark) member, source.front_notMem (by decide)⟩

def header : WrittenHeader where
  front := source.front
  plainFront := source.front_plain
  parameters := some ⟨parameterList source.parameters, balanced source.parameters⟩
  middle := []
  plainMiddle := unbracketed_nil
  supertypes := none

theorem header_text : source.header.text = source.text := by
  simp [WrittenHeader.text, header, WrittenHeader.constructor, WrittenHeader.derived,
    WrittenHeader.arguments, WrittenHeader.rest, text, front]

theorem spaced_text : Spaced Uncompanied source.text := by
  have class_ : Spaced Uncompanied "class" := .word (by decide) (by decide)
  have word : Spaced Uncompanied source.word.text ∧ source.word.text.getLast? = some 's' := by
    cases source.word with
    | plain => exact ⟨class_, rfl⟩
    | data =>
        have data : Spaced Uncompanied "data" := .word (by decide) (by decide)
        exact ⟨data.join class_ (by simp [Uncompanied]), rfl⟩
    | enum =>
        have enum : Spaced Uncompanied "enum" := .word (by decide) (by decide)
        exact ⟨enum.join class_ (by simp [Uncompanied]), rfl⟩
  refine word.1.join (spaced_enclosed source.named.solid_text source.filled) ?_
  rw [word.2]
  rintro _ ⟨⟩ first _ same
  cases same

theorem startsDeclaration_text : Source.startsDeclaration source.text = true := by
  have shape : source.text = source.front ++ enclosed (parameterList source.parameters) := by
    simp [text, front]
  have plain : '/' ∉ source.text := by
    have front : '/' ∉ source.front := source.front_notMem (by decide)
    have inner : '/' ∉ parameterList source.parameters :=
      parameterList_notMem source.parameters (by decide)
    rw [shape]
    simp [enclosed, front, inner]
  have inside : ("class" : Text) ++ [' '] <:+: source.text := by
    unfold text
    cases source.word with
    | plain => exact ⟨[], _, rfl⟩
    | data => exact ⟨"data ", _, rfl⟩
    | enum => exact ⟨"enum ", _, rfl⟩
  exact startsDeclaration_of_infix plain source.spaced_text (by decide) inside

theorem allowsName (t : Text) : source.word.form.allowsName (source.name ++ '(' :: t) = true := by
  have other : Text.startsWith "fun" (source.name ++ '(' :: t) = false := by
    rw [startsWith_append (by decide), source.unreserved]
  cases word : source.word with
  | plain => exact congrArg Bool.not other
  | data => exact congrArg Bool.not other
  | enum => exact absurd word source.ordinary

theorem parse?_line {line : Text} (written : Text.trim line = source.text) :
    ∃ header rest, SymbolHeader.parse? source.word.form line = some (header, rest) ∧
      header.kind = source.word.kind := by
  obtain ⟨indent, after, indented, -, whole⟩ := exists_blanks_trim line
  have ended : ∀ c ∈ ('(' :: (parameterList source.parameters ++ [')'] ++ after)).head?,
      isWord c = false := by
    rintro _ ⟨⟩
    decide
  have parsed := source.word.parse?_line indented source.named ended rfl (source.allowsName _)
  have same : indent ++ (source.word.text ++
      ' ' :: (source.name ++ '(' :: (parameterList source.parameters ++ [')'] ++ after))) = line := by
    rw [whole, written, text]
    simp [enclosed]
  rw [same] at parsed
  exact ⟨_, _, parsed, rfl⟩

end PrimaryClass

/-- A class that is only a header has its primary constructor as a member, and then the properties
that the constructor declares. -/
theorem membersOf_primary (source : PrimaryClass) (file : Text) {before : List Text}
    (undocumented : DocComment.above before.reverse = []) {line : Text}
    (written : Text.trim line = source.text) {blanks rest : List Text}
    (blank : ∀ line ∈ blanks, Blanks line) (ends : EndsBodiless rest) :
    membersOf file (before ++ line :: (blanks ++ rest)) before.length =
      [some (constructorMember source.parameters :: propertyMembers source.parameters)] := by
  obtain ⟨header, left, parsed, kind⟩ := source.parse?_line written
  have declares : Source.startsDeclaration line = true := by
    rw [← startsDeclaration_trim, written, source.startsDeclaration_text]
  obtain ⟨lastLine, read⟩ := ofLines_bodiless source.header (written.trans source.header_text.symm)
    declares blank ends
  have noEnum : (header.kind == .enumClass) = false := by
    rw [kind]
    cases word : source.word with
    | plain => rfl
    | data => rfl
    | enum => exact absurd word source.ordinary
  have constructor : source.header.constructor = enclosed (parameterList source.parameters) := rfl
  have filled : (enclosed (parameterList source.parameters)).isEmpty = false := rfl
  rw [membersOf_append file before _ source.word.form_ne_function parsed]
  simp only [KotlinDoc.Declaration.membersAt, line_listBelow, read, noEnum, constructor, filled,
    undocumented, Bool.false_eq_true, if_false, ofSites_primary source.filled]

def pointX : PropertyParameter where
  scope := some .private_
  word := .val
  name := "x"
  type := "Int"
  default := some "0"
  allowed := by decide
  property := DeclarationWord.noConfusion
  named := by decide
  typed := by decide
  valued := by
    rintro _ ⟨⟩
    decide

def pointY : PropertyParameter where
  scope := none
  word := .var
  name := "y"
  type := "T?"
  default := none
  allowed := by decide
  property := DeclarationWord.noConfusion
  named := by decide
  typed := by decide
  valued := nofun

def point : PrimaryClass where
  word := .data
  name := "P"
  parameters := [pointX, pointY]
  ordinary := by decide
  named := by decide
  unreserved := by decide
  filled := List.cons_ne_nil _ _

theorem membersOf_primary_point :
    membersOf "Shapes.kt"
        (["package shapes".toList, []] ++
          "  data class P(private val x: Int = 0, var y: T?)".toList ::
            (["  ".toList] ++ ["class Line".toList])) 2 =
      [some
        [{ visibility := .everyone
           line := 2
           kind := .plain (.initial .constructor)
           name := "constructor"
           docstring := ["Main constructor", ""]
           rest := some (enclosed "x: Int = 0, y: T?")
           origin := .body none
           raw := "firstconstructor" ++ enclosed "private val x: Int = 0, var y: T?" },
         { visibility := .fileOnly
           line := 3
           kind := .plain .val
           name := "x"
           docstring := []
           rest := some ": Int = 0"
           origin := .primaryConstructor
           raw := "private val x: Int = 0" },
         { visibility := .everyone
           line := 3
           kind := .plain .var
           name := "y"
           docstring := []
           rest := some ": T?"
           origin := .primaryConstructor
           raw := " var y: T?" }]] := by
  have undocumented : DocComment.above ["package shapes".toList, []].reverse = [] := by decide
  have written : Text.trim
      "  data class P(private val x: Int = 0, var y: T?)".toList = point.text := by decide
  have blank : ∀ line ∈ ["  ".toList], Blanks line := by decide
  have ends : EndsBodiless ["class Line".toList] := by
    rintro _ ⟨⟩
    decide
  have parameters : parameterList point.parameters = "private val x: Int = 0, var y: T?" := by decide
  have signature : Text.joined ", " (point.parameters.map PropertyParameter.signature) =
      ("x: Int = 0, y: T?" : Text) := by decide
  have members := membersOf_primary point "Shapes.kt" undocumented written blank ends
  rw [constructorMember, parameters, signature] at members
  exact members

end KotlinDoc.Proofs
