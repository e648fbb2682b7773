import KotlinDoc.Proofs.Index.OwnText
import KotlinDoc.Proofs.Index.WrittenParameters

namespace KotlinDoc.Proofs

open Domain

/-! ## Lines that declare a constructor -/

theorem scan_through {allowed : Int → Text → Prop} {depth final : Int} {lines : List Text}
    (leads : Leads allowed depth lines final) (above : List Text) (position : Int) :
    ∃ members, ∀ rest,
      Member.scan false ⟨depth, 0⟩ position 0 (Site.listBelow above (lines ++ rest)) =
        members ++ Member.scan false ⟨final, 0⟩ (position + lines.length) 0
          (Site.listBelow (lines.reverse ++ above) rest) := by
  induction leads generalizing above position with
  | nil depth => exact ⟨[], by simp⟩
  | @step depth final lines line inside outside _ _ ih =>
      obtain ⟨members, after⟩ := ih (line.lines.reverse ++ above) (position + line.lines.length)
      refine ⟨addedMembers false ⟨depth, 0⟩ ⟨line.first, above⟩ (position + line.more.length)
        line.text ++ members, fun rest => ?_⟩
      rw [List.append_assoc, scan_inside line above _ position inside outside, after]
      simp [Int.add_assoc, List.append_assoc]

theorem ofLine_initial {text : Text} {header : InitialHeader} {left : Text}
    (parsed : InitialHeader.parse? text = some (header, left))
    (noInlineDoc : Text.find? "/**<" text = none) (depth : Int) (site : Site) (position : Int) :
    ∃ docstring, Member.ofHeader false docstring position text (.initial header) ⊆
      Member.ofLine false ⟨depth, 0⟩ site position text := by
  refine ⟨DocComment.above site.above, ?_⟩
  have docstring : Member.docstringAt false site text = DocComment.above site.above := by
    simp only [Member.docstringAt, Member.inlineDoc?, noInlineDoc, Option.map_none]
    rfl
  have shown : (DocComment.above site.above).contains Member.suppression = false := by
    rw [← Bool.not_eq_true, List.contains_iff_mem]
    intro suppressed
    have unannotated := above_unannotated _ _ suppressed
    exact absurd unannotated (by decide)
  have header : MemberHeader.initial header ∈ MemberHeader.ofLine false text := by
    simp [MemberHeader.ofLine, parsed]
  intro member made
  unfold Member.ofLine
  simp only [docstring, shown, Bool.false_eq_true, if_false]
  exact List.mem_flatMap.mpr ⟨_, header, made⟩

theorem ofHeader_subset_scan {allowed : Int → Text → Prop} {front : List Text}
    (leads : Leads allowed 1 front 1) (line : LogicalLine)
    (opens : 0 ≤ Source.braceExcess line.text) (outside : Outside line.text)
    {header : InitialHeader} {left : Text}
    (parsed : InitialHeader.parse? line.text = some (header, left))
    (noInlineDoc : Text.find? "/**<" line.text = none) (above rest : List Text) (position : Int) :
    ∃ docstring number, Member.ofHeader false docstring number line.text (.initial header) ⊆
      Member.scan false .start position 0
        (Site.listBelow above (front ++ (line.lines ++ rest))) := by
  obtain ⟨members, before⟩ := scan_through leads above position
  have inside : 0 < 1 + Source.braceExcess line.text := by omega
  have read : ¬ (1 < 1 + Source.braceExcess line.text ∧ Source.braceExcess line.text = 0) := by
    omega
  obtain ⟨docstring, made⟩ := ofLine_initial parsed noInlineDoc (1 + Source.braceExcess line.text)
    ⟨line.first, front.reverse ++ above⟩ (position + front.length + line.more.length)
  refine ⟨docstring, position + front.length + line.more.length, fun member found => ?_⟩
  have start : Member.Nesting.start = ⟨1, 0⟩ := rfl
  rw [start, before, scan_logicalLine line _ _ _ inside outside, if_neg read]
  exact List.mem_append_right _ (List.mem_append_left _ (made found))

theorem initial_parse? {indent gap s : Text} {scope : Option Scope} (word : InitialWord)
    (indented : Blanks indent) (allowed : ∀ written ∈ scope, written.word ≠ .external_)
    (gapped : Blanks gap) (solid : ∀ c ∈ s.head?, isBlank c = false) :
    InitialHeader.parse?
        (indent ++ ((scope.map Scope.text).getD [] ++ (word.text ++ (gap ++ s)))) =
      some (⟨scope.map Scope.text, word, Header.beforeBrace s⟩, Header.fromBrace s) := by
  have wordSolid : ∀ c ∈ (word.text ++ (gap ++ s)).head?, isBlank c = false := by
    intro c first
    cases word <;> (obtain rfl := Option.some.inj first; decide)
  have trimmed : Text.trimLeft
      (indent ++ ((scope.map Scope.text).getD [] ++ (word.text ++ (gap ++ s)))) =
      (scope.map Scope.text).getD [] ++ (word.text ++ (gap ++ s)) := by
    rw [trimLeft_append indented]
    cases scope with
    | none => exact trimLeft_eq_self wordSolid
    | some scope =>
        simp only [Option.map_some, Option.getD_some, Scope.text, List.append_assoc]
        cases scope.word <;> exact trimLeft_cons (by decide) _
  have optional : Word.optional Header.scopeWords
      ((scope.map Scope.text).getD [] ++ (word.text ++ (gap ++ s))) =
      (scope.map Scope.text, word.text ++ (gap ++ s)) := by
    cases present : scope with
    | none =>
        have absent : ∀ other ∈ ScopeWord.ofProperty,
            Text.after? other.text (word.text ++ (gap ++ s)) = none := by
          intro other _
          cases word <;> cases other <;> rfl
        exact optional_unwritten absent
    | some scope =>
        exact optional_written (ScopeWord.mem_ofProperty (allowed scope present)) wordSolid
  have found : ([InitialWord.init, .constructor, .primary].findSome? fun other =>
      (Text.after? other.text (word.text ++ (gap ++ s))).map fun rest => (other, rest)) =
      some (word, gap ++ s) := by
    have own := after?_append word.text (gap ++ s)
    cases word with
    | init => simp [own]
    | constructor =>
        have init : Text.after? InitialWord.init.text
          (InitialWord.constructor.text ++ (gap ++ s)) = none := rfl
        simp [init, own]
    | primary =>
        have init : Text.after? InitialWord.init.text
          (InitialWord.primary.text ++ (gap ++ s)) = none := rfl
        have secondary : Text.after? InitialWord.constructor.text
          (InitialWord.primary.text ++ (gap ++ s)) = none := rfl
        simp [init, secondary, own]
  have gapless : Text.trimLeft (gap ++ s) = s := by
    rw [trimLeft_append gapped, trimLeft_eq_self solid]
  unfold InitialHeader.parse?
  simp only [trimmed, optional, found, gapless, Option.bind_eq_bind, Option.bind_some]
  rfl

structure IsConstructor (member : Member) (raw rest : Text) : Prop where
  kind : member.kind = .plain (.initial .constructor)
  name : member.name = "constructor"
  rest : member.rest = some rest
  raw : member.raw = raw

theorem trim_enclosed (s : Text) : Text.trim ('(' :: (s ++ [')'])) = '(' :: (s ++ [')']) := by
  apply trim_eq_self
  · intro c first
    cases first
    decide
  · intro c last
    rw [KotlinType.getLast?_enclosed] at last
    cases last
    decide

theorem trimmed?_enclosed (s : Text) :
    trimmed? ('(' :: (s ++ [')'])) = some ('(' :: (s ++ [')'])) := by
  simp [trimmed?, trim_enclosed]

theorem exists_primary (docstring : List Text) (number : Int) (raw : Text) (scope : Option Text)
    (list : Text) :
    ∃ member ∈ Member.ofHeader false docstring number raw
        (.initial ⟨scope, .primary, '(' :: (list ++ [')'])⟩),
      IsConstructor member raw ('(' :: (writtenList list ++ [')'])) := by
  have parameters : ConstructorParameter.list ('(' :: (list ++ [')'])) =
      (Text.pieces ',' list).map ConstructorParameter.ofText := by
    rw [ConstructorParameter.list, trim_enclosed]
    simp
  refine ⟨_, List.mem_cons_self, rfl, rfl, ?_, rfl⟩
  have written : trimmed? ((("(" : Text) ++ Text.joined ", "
      ((ConstructorParameter.list ('(' :: (list ++ [')']))).map (·.written))) ++ ")") =
      some ('(' :: (writtenList list ++ [')'])) := by
    rw [parameters, List.map_map]
    exact trimmed?_enclosed (writtenList list)
  exact written

theorem throughParen_append {s : Text} (unclosed : ')' ∉ s) (t : Text) :
    Member.throughParen (s ++ ')' :: t) = s ++ [')'] := by
  have first : Text.find? ")" (s ++ ')' :: t) = some s.length := by
    show Text.find? [')'] _ = _
    rw [find?_append unclosed, find?_cons_self]
    simp
  unfold Member.throughParen
  rw [first]
  simp [List.take_append, List.take_of_length_le]

theorem exists_secondary (docstring : List Text) (number : Int) (raw : Text) (scope : Option Text)
    (list rest : Text) :
    ∃ member ∈ Member.ofHeader false docstring number raw
        (.initial ⟨scope, .constructor, '(' :: (list ++ ')' :: rest)⟩),
      IsConstructor member raw (Member.throughParen ('(' :: (list ++ ')' :: rest))) := by
  refine ⟨_, List.mem_singleton_self _, rfl, rfl, ?_, rfl⟩
  obtain ⟨s, t, same, unclosed⟩ := List.eq_append_cons_of_mem
    (show ')' ∈ list ++ ')' :: rest by simp)
  have cut : Member.throughParen ('(' :: (list ++ ')' :: rest)) = '(' :: (s ++ [')']) := by
    rw [same]
    exact throughParen_append (s := '(' :: s) (by simp [unclosed]) t
  have trimmed : trimmed? (Member.throughParen ('(' :: (list ++ ')' :: rest))) =
      some (Member.throughParen ('(' :: (list ++ ')' :: rest))) := by
    rw [cut, trimmed?_enclosed]
  exact trimmed

/-! ## Primary constructors -/

structure ClassSource where
  before : List Text
  line : Text
  more : List Text
  after : List Text
  form : SymbolForm
  header : SymbolHeader
  left : Text
  parsed : SymbolHeader.parse? form line = some (header, left)
  other : form ≠ .function
  ordinary : header.kind ≠ .enumClass

namespace ClassSource

def lines (source : ClassSource) : List Text :=
  source.before ++ (source.line :: source.more ++ source.after)

def docstring (source : ClassSource) : List Text :=
  DocComment.above source.before.reverse

def members (source : ClassSource) (file : Text) : List (Option (List Member)) :=
  membersOf file source.lines source.before.length

end ClassSource

def primaryLine (parameters : List DeclaredParameter) : Text :=
  InitialWord.primary.text ++ '(' :: (listText parameters ++ [')'])

/-- A class with a primary constructor. The documentation of the class leaves the depth of braces as
it is. -/
structure PrimaryConstructor extends ClassSource where
  front : Text
  parameters : List DeclaredParameter
  rest : Text
  written : headerText (line :: more) = front ++ '(' :: (listText parameters ++ ')' :: rest)
  plainFront : ∀ c ∈ front, c ∉ ("():\x7b" : Text)
  plainRest : ∀ c ∈ (rest.takeWhile (· != '{')).takeWhile (· != ':'), c ≠ '(' ∧ c ≠ ')'
  alone : Alone {} 0 (line :: more)
  ends : EndsHeader {} 0 (line :: more) after
  quiet : Leads (fun _ _ => True) 1
    (DocComment.opening :: (DocComment.above before.reverse ++ [DocComment.closing])) 1
  outside : Outside (primaryLine parameters)

theorem listText_notMem (parameters : List DeclaredParameter) {c : Char}
    (token : c ∈ ("\x7b\x7d\"/" : Text)) : c ∉ listText parameters := by
  have tokens : ("\x7b\x7d\"/" : Text) ⊆ ("\x7b\x7d\"/|" : Text) := by decide
  have known : c = '{' ∨ c = '}' ∨ c = '"' ∨ c = '/' := by simpa using token
  intro member
  rcases mem_joined member with separator | ⟨s, text, inside⟩
  · rcases known with rfl | rfl | rfl | rfl <;> exact absurd separator (by decide)
  · obtain ⟨parameter, -, rfl⟩ := List.mem_map.mp text
    have value : ∀ value ∈ parameter.default, c ∉ value.text :=
      fun value present => parameter.token value present c (tokens token)
    rcases known with rfl | rfl | rfl | rfl <;>
      exact parameter.notMem (by decide) (by decide) (by decide) (by decide) (by decide) value
        inside

theorem primaryLine_notMem (parameters : List DeclaredParameter) {c : Char}
    (token : c ∈ ("\x7b\x7d\"/" : Text)) : c ∉ primaryLine parameters := by
  have list := listText_notMem parameters token
  have known : c = '{' ∨ c = '}' ∨ c = '"' ∨ c = '/' := by simpa using token
  have others : c ∉ InitialWord.primary.text ∧ c ≠ '(' ∧ c ≠ ')' := by
    rcases known with rfl | rfl | rfl | rfl <;> decide
  unfold primaryLine
  simp [others, list]

theorem trimRight_primaryLine (parameters : List DeclaredParameter) :
    Text.trimRight (primaryLine parameters) = primaryLine parameters := by
  have shape : primaryLine parameters =
      (InitialWord.primary.text ++ '(' :: listText parameters) ++ [')'] := by
    simp [primaryLine]
  rw [shape]
  exact trimRight_concat _ (by decide)

theorem parenExcess_primaryLine (parameters : List DeclaredParameter) :
    Source.parenExcess (primaryLine parameters) = 0 := by
  have excess := excess_of_plain (primaryLine_notMem parameters (by decide))
    (primaryLine_notMem parameters (by decide)) '(' ')'
  have balanced := (listText_nested parameters).count_parens
  have opening : InitialWord.primary.text.count '(' = 0 := by decide
  have closing : InitialWord.primary.text.count ')' = 0 := by decide
  unfold Source.parenExcess
  rw [excess]
  unfold primaryLine
  simp [opening, closing, balanced]

theorem braceExcess_primaryLine (parameters : List DeclaredParameter) :
    Source.braceExcess (primaryLine parameters) = 0 := by
  have excess := excess_of_plain (primaryLine_notMem parameters (by decide))
    (primaryLine_notMem parameters (by decide)) '{' '}'
  have opening : (primaryLine parameters).count '{' = 0 :=
    List.count_eq_zero.mpr (primaryLine_notMem parameters (by decide))
  have closing : (primaryLine parameters).count '}' = 0 :=
    List.count_eq_zero.mpr (primaryLine_notMem parameters (by decide))
  unfold Source.braceExcess
  rw [excess, opening, closing]
  rfl

def primaryLogicalLine (parameters : List DeclaredParameter) : LogicalLine where
  first := primaryLine parameters
  more := []
  short := short_nil
  continues := by
    rw [trimRight_primaryLine]
    exact parenExcess_primaryLine parameters

theorem text_primaryLogicalLine (parameters : List DeclaredParameter) :
    (primaryLogicalLine parameters).text = primaryLine parameters :=
  trimRight_primaryLine parameters

theorem parse?_primary {list : Text} (unbraced : '{' ∉ list) :
    InitialHeader.parse? (InitialWord.primary.text ++ '(' :: (list ++ [')'])) =
      some (⟨none, .primary, '(' :: (list ++ [')'])⟩, []) := by
  have all : ∀ c ∈ '(' :: (list ++ [')']), (c != '{') = true := by
    intro c member
    rw [bne_iff_ne]
    rintro rfl
    simp [unbraced] at member
  have before : Header.beforeBrace ('(' :: (list ++ [')'])) = '(' :: (list ++ [')']) :=
    List.takeWhile_eq_self_iff.mpr all
  have from_ : Header.fromBrace ('(' :: (list ++ [')'])) = [] :=
    List.dropWhile_eq_nil_iff.mpr all
  have blank : Blanks [] := nofun
  have unscoped : ∀ written ∈ (none : Option Scope), written.word ≠ .external_ := nofun
  have parsed := initial_parse? .primary blank unscoped blank
    (s := '(' :: (list ++ [')'])) (by intro c first; cases first; decide)
  rw [before, from_] at parsed
  exact parsed

theorem parse?_primaryLine (parameters : List DeclaredParameter) :
    InitialHeader.parse? (primaryLine parameters) =
      some (⟨none, .primary, '(' :: (listText parameters ++ [')'])⟩, []) :=
  parse?_primary (listText_notMem parameters (by decide))

theorem membersAt_constructor {kind : SymbolKind} (ordinary : kind ≠ .enumClass)
    (site : Site) (below : List Site) {constructor : Text}
    (same : (ClassHeader.ofLines (site.line :: below.map (·.line))).constructor = constructor)
    (filled : constructor ≠ []) (docstring : List Text) (number : Nat) :
    ∃ rest, KotlinDoc.Declaration.membersAt kind docstring number site below =
      some (Member.scan false .start 0 0 (Site.listBelow []
        (KotlinDoc.Declaration.constructorLines docstring constructor ++ rest))) := by
  have noEnum : (kind == .enumClass) = false := beq_eq_false_iff_ne.mpr ordinary
  have some : constructor.isEmpty = false := by simpa using filled
  unfold KotlinDoc.Declaration.membersAt
  simp only [same, noEnum, some, Bool.false_eq_true, if_false]
  split
  · exact ⟨_, rfl⟩
  · exact ⟨_, rfl⟩

theorem PrimaryConstructor.exists_member (primary : PrimaryConstructor) (file : Text) :
    ∃ members member, primary.members file = [some members] ∧ member ∈ members ∧
      IsConstructor member (primaryLine primary.parameters)
        ('(' :: (writtenList (listText primary.parameters) ++ [')'])) := by
  have here : (Site.list primary.lines).drop primary.before.length =
      ⟨primary.line, primary.before.reverse⟩ ::
        Site.listBelow (primary.line :: primary.before.reverse) (primary.more ++ primary.after) := by
    rw [ClassSource.lines, Site.list, drop_listBelow, List.take_left, List.drop_left,
      List.append_nil]
    rfl
  have constructor : (ClassHeader.ofLines (primary.line ::
      (Site.listBelow (primary.line :: primary.before.reverse)
        (primary.more ++ primary.after)).map (·.line))).constructor =
      '(' :: (listText primary.parameters ++ [')']) := by
    have written := constructor_ofLines primary.alone primary.ends primary.written
      primary.plainFront (listText_nested _) (listText_notMem _ (by decide)) primary.plainRest
    rw [line_listBelow]
    exact written
  obtain ⟨rest, read⟩ := membersAt_constructor primary.ordinary
    ⟨primary.line, primary.before.reverse⟩ _ constructor (List.cons_ne_nil _ _) primary.docstring
    primary.before.length
  have line := text_primaryLogicalLine primary.parameters
  have level : 0 ≤ Source.braceExcess (primaryLogicalLine primary.parameters).text := by
    have balanced := braceExcess_primaryLine primary.parameters
    rw [← line] at balanced
    omega
  have noSlash : Text.find? ('/' :: "**<") (primaryLine primary.parameters) = none :=
    find?_eq_none (primaryLine_notMem _ (by decide))
  obtain ⟨docstring, number, included⟩ := ofHeader_subset_scan primary.quiet
    (primaryLogicalLine primary.parameters) level (line ▸ primary.outside)
    (line ▸ parse?_primaryLine primary.parameters) (line ▸ noSlash) [] rest 0
  obtain ⟨member, made, isConstructor⟩ := exists_primary docstring number
    (primaryLine primary.parameters) none (listText primary.parameters)
  have members : primary.members file = [KotlinDoc.Declaration.membersAt primary.header.kind
      primary.docstring primary.before.length ⟨primary.line, primary.before.reverse⟩
      (Site.listBelow (primary.line :: primary.before.reverse) (primary.more ++ primary.after))] :=
    membersOf_eq file here primary.other primary.parsed
  -- The documentation of the class stands before the line of the constructor.
  have lines : KotlinDoc.Declaration.constructorLines primary.docstring
      ('(' :: (listText primary.parameters ++ [')'])) ++ rest =
      DocComment.opening :: (DocComment.above primary.before.reverse ++ [DocComment.closing]) ++
        ((primaryLogicalLine primary.parameters).lines ++ rest) := by
    simp [KotlinDoc.Declaration.constructorLines, ClassSource.docstring, LogicalLine.lines,
      primaryLogicalLine, primaryLine]
  rw [members, read, lines]
  rw [line] at included
  exact ⟨_, member, rfl, included made, isConstructor⟩

/-! ## Secondary constructors -/

/-- A class with a secondary constructor at the depth of its body. The lines before it, from which
members are read too, lead back to that depth. -/
structure SecondaryConstructor extends ClassSource where
  opened : (ClassHeader.ofLines (line :: more)).hasBody = true
  front : List Text
  declaration : LogicalLine
  back : List Text
  body : memberLines header.kind (DocComment.above before.reverse) (line :: more) =
    front ++ (declaration.lines ++ back)
  quiet : Leads (fun _ _ => True) 1 front 1
  indent : Text
  scope : Option Scope
  gap : Text
  parameters : List DeclaredParameter
  rest : Text
  written : declaration.text = indent ++ ((scope.map Scope.text).getD [] ++
    (InitialWord.constructor.text ++ (gap ++ '(' :: (listText parameters ++ ')' :: rest))))
  spaced : Blanks indent ∧ Blanks gap
  allowed : ∀ word ∈ scope, word.word ≠ .external_
  plain : ∀ parameter ∈ parameters, parameter.keyword = none
  noInlineDoc : Text.find? "/**<" declaration.text = none
  outside : Outside declaration.text
  opens : 0 ≤ Source.braceExcess declaration.text

theorem SecondaryConstructor.parse? (secondary : SecondaryConstructor) :
    InitialHeader.parse? secondary.declaration.text =
      some (⟨secondary.scope.map Scope.text, .constructor,
        '(' :: (listText secondary.parameters ++ ')' :: Header.beforeBrace secondary.rest)⟩,
        Header.fromBrace secondary.rest) := by
  have unbraced : ∀ c ∈ '(' :: (listText secondary.parameters ++ [')']), (c != '{') = true := by
    intro c member
    rw [bne_iff_ne]
    rintro rfl
    simp [listText_notMem secondary.parameters (c := '{') (by decide)] at member
  have shape : '(' :: (listText secondary.parameters ++ ')' :: secondary.rest) =
      '(' :: (listText secondary.parameters ++ [')']) ++ secondary.rest := by
    simp
  have before :
      Header.beforeBrace ('(' :: (listText secondary.parameters ++ ')' :: secondary.rest)) =
        '(' :: (listText secondary.parameters ++ ')' :: Header.beforeBrace secondary.rest) := by
    rw [shape, Header.beforeBrace, List.takeWhile_append_of_pos unbraced]
    simp [Header.beforeBrace]
  have from_ : Header.fromBrace ('(' :: (listText secondary.parameters ++ ')' :: secondary.rest)) =
      Header.fromBrace secondary.rest := by
    rw [shape, Header.fromBrace, List.dropWhile_append_of_pos unbraced]
    rfl
  rw [secondary.written, ← before, ← from_]
  exact initial_parse? .constructor secondary.spaced.1 secondary.allowed secondary.spaced.2
    (by intro c first; cases first; decide)

theorem SecondaryConstructor.exists_member (secondary : SecondaryConstructor) (file : Text) :
    ∃ members member, secondary.members file = [some members] ∧ member ∈ members ∧
      IsConstructor member secondary.declaration.text
        (Member.throughParen ('(' :: (listText secondary.parameters ++
          ')' :: Header.beforeBrace secondary.rest))) := by
  have noEnum : (secondary.header.kind == .enumClass) = false :=
    beq_eq_false_iff_ne.mpr secondary.ordinary
  obtain ⟨position, above, below, -, read⟩ := membersOf_own file secondary.before secondary.other
    secondary.parsed secondary.opened
  have members := read secondary.after
  rw [noEnum, secondary.body, List.append_assoc, List.append_assoc] at members
  obtain ⟨docstring, number, included⟩ := ofHeader_subset_scan secondary.quiet secondary.declaration
    secondary.opens secondary.outside secondary.parse? secondary.noInlineDoc above
    (secondary.back ++ below secondary.after) position
  obtain ⟨member, made, isConstructor⟩ := exists_secondary docstring number
    secondary.declaration.text (secondary.scope.map Scope.text) (listText secondary.parameters)
    (Header.beforeBrace secondary.rest)
  exact ⟨_, member, members, included made, isConstructor⟩

end KotlinDoc.Proofs
