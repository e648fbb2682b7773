import KotlinDoc.Proofs.Index.LineBreaks
import KotlinDoc.Proofs.Page.Documentable

/-!
# The layout of a page

What is written for an entry belongs to its directive if the directive is one line, its option and a
blank line follow, and all other text is indented deeper. Within a symbol that is so, since every
directive stands behind the indent of the symbol that is written once more before its text. At the
top level that indent is empty: options and documentation there stand as far left as the directive
(`directives_nested_iff`).
-/

namespace KotlinDoc.Proofs.Page

/-! ## Blocks of lines -/

structure Block where
  isDirective : Bool
  noIndex : Bool
  lines : List Text

def separator : Block :=
  ⟨false, false, [[]]⟩

section

variable (selection : Selection)

def symbolBlock (indent : Text) (entry : SymbolEntry) : Block where
  isDirective := true
  noIndex := selection.noIndex
  lines := (entry.directive (selection.symbolStyle indent)).map (indent ++ ·)

def memberBlock (indent : Text) (entry : MemberEntry) : Block where
  isDirective := !entry.isEnumCase
  noIndex := selection.noIndex || selection.noIndexMembers
  lines := (entry.directive (selection.memberStyle indent)).map (indent ++ Document.step ++ ·)

def innerBlocks (indent : Text) (declaration : KotlinDoc.Declaration) (inner : List Block) :
    List Block :=
  match declaration.members with
  | none => []
  | some members =>
    ((members.map Member.entry).filter selection.showsMember).map (memberBlock selection indent) ++
      inner

def declarationBlocks (indent : Text) (declaration : KotlinDoc.Declaration) (inner : List Block) :
    List Block :=
  if selection.showsSymbol (declaration.entry []) then
    [symbolBlock selection indent (declaration.entry [])] ++
      (if selection.members then innerBlocks selection indent declaration inner else []) ++
      [separator]
  else []

def symbolBlocks (symbol : Symbol) : List Block :=
  declarationBlocks selection [] symbol.declaration
    (symbol.children.flatMap fun child => declarationBlocks selection Document.step child [])

def blocks (symbols : List Symbol) : List Block :=
  symbols.flatMap (symbolBlocks selection)

end

section

variable {selection : Selection}

theorem memberLines_eq_blocks (indent : Text) (entries : List MemberEntry) :
    Document.memberLines selection indent entries =
      ((entries.filter selection.showsMember).map (memberBlock selection indent)).flatMap
        (·.lines) := by
  rw [List.flatMap_map]
  rfl

theorem entryLines_eq_blocks {indent : Text} (declaration : KotlinDoc.Declaration)
    {children : List SymbolEntry} {inner : List Block}
    (within : Document.lines selection (indent ++ Document.step) children =
      inner.flatMap (·.lines)) :
    Document.entryLines selection indent (declaration.entry children) =
      (declarationBlocks selection indent declaration inner).flatMap (·.lines) := by
  have inside : Document.inner selection indent (declaration.entry children) =
      (innerBlocks selection indent declaration inner).flatMap (·.lines) := by
    unfold Document.inner innerBlocks
    rw [show (declaration.entry children).children = children from rfl, within,
      show (declaration.entry children).members = declaration.members.map (·.map Member.entry)
        from rfl]
    cases declaration.members with
    | none => rfl
    | some members =>
        rw [List.flatMap_append, ← memberLines_eq_blocks]
        rfl
  rw [entryLines_eq, inside, declarationBlocks,
    show selection.showsSymbol (declaration.entry children) =
      selection.showsSymbol (declaration.entry []) from rfl]
  cases selection.showsSymbol (declaration.entry []) with
  | false => rfl
  | true =>
      simp only [if_true, List.flatMap_append, List.flatMap_singleton]
      cases selection.members <;> rfl

theorem lines_eq_flatMap (indent : Text) (entries : List SymbolEntry) :
    Document.lines selection indent entries =
      entries.flatMap (Document.entryLines selection indent) := by
  induction entries with
  | nil => rfl
  | cons entry entries ih => rw [Document.lines, List.flatMap_cons, ih]

theorem lines_eq_blocks (symbols : List Symbol) :
    Document.lines selection [] (symbols.map Symbol.entry) =
      (blocks selection symbols).flatMap (·.lines) := by
  rw [lines_eq_flatMap, List.flatMap_map, blocks, List.flatMap_assoc]
  congr 1
  funext symbol
  apply entryLines_eq_blocks
  rw [lines_eq_flatMap, List.flatMap_map, List.flatMap_assoc]
  congr 1
  funext child
  exact entryLines_eq_blocks child rfl

end

/-! ## Nested directives -/

/-- The lines as they are on the page, where a line break within a line starts a new one. -/
def physical (lines : List Text) : List Text :=
  lines.flatMap (Text.pieces '\n')

def indentation (line : Text) : Nat :=
  (line.takeWhile isBlank).length

/-- The first line is a directive of one line on the page; its option follows if there is one, then
a blank line, and all text after the directive stands deeper. -/
def IsNested (noIndex : Bool) : List Text → Prop
  | [] => False
  | opening :: own =>
    Unbroken opening ∧
    (if noIndex then [":noindex:".toList] else []) ++ [[]] <+: (physical own).map Text.trim ∧
    ∀ line ∈ physical own, ¬ Blanks line → indentation opening < indentation line

theorem physical_unbroken {lines : List Text} (unbroken : ∀ line ∈ lines, Unbroken line) :
    physical lines = lines := by
  induction lines with
  | nil => rfl
  | cons line lines ih =>
      obtain ⟨here, later⟩ := List.forall_mem_cons.mp unbroken
      have whole : Text.pieces '\n' line = [line] :=
        piecesAt_of_none fun c member => by
          simp only [beq_eq_false_iff_ne]
          rintro rfl
          exact here member
      show Text.pieces '\n' line ++ physical lines = _
      rw [whole, ih later]
      rfl

theorem flatMap_pieces (s : Text) :
    (Text.pieces '\n' s).flatMap (· ++ "\n".toList) = s ++ "\n".toList := by
  induction s with
  | nil => rfl
  | cons c s ih =>
      unfold Text.pieces at ih ⊢
      rw [Text.piecesAt]
      split
      · rename_i newline
        rw [List.flatMap_cons, ih, eq_of_beq newline]
        rfl
      · split
        · rename_i none
          exact absurd none (piecesAt_ne_nil _ s)
        · rename_i piece pieces cut
          rw [cut, List.flatMap_cons] at ih
          rw [List.flatMap_cons, List.cons_append, List.cons_append, ih]
          rfl

theorem text_physical (lines : List Text) :
    Document.text (physical lines) = Document.text lines := by
  unfold physical Document.text
  rw [List.flatMap_assoc]
  congr 1
  funext line
  exact flatMap_pieces line

/-! ### Margins -/

def spaces (n : Nat) : Text :=
  List.replicate n ' '

theorem blanks_spaces (n : Nat) : Blanks (spaces n) := by
  intro c member
  rw [(List.mem_replicate.mp member).2]
  decide

theorem unbroken_spaces (n : Nat) : Unbroken (spaces n) := by
  intro member
  exact absurd (List.mem_replicate.mp member).2 (by decide)

theorem indentation_spaces (n : Nat) (line : Text) :
    indentation (spaces n ++ line) = n + indentation line := by
  unfold indentation
  rw [List.takeWhile_append_of_pos (blanks_spaces n), List.length_append]
  simp [spaces]

theorem indentation_cons {c : Char} (solid : isBlank c = false) (line : Text) :
    indentation (c :: line) = 0 := by
  simp [indentation, solid]

theorem indentation_trim (s : Text) : indentation (Text.trim s) = 0 := by
  unfold Text.trim
  cases started : Text.trimLeft s with
  | nil => rfl
  | cons c t =>
      have solid : isBlank c = false := by
        have first := List.head?_dropWhile_not isBlank s
        rw [show s.dropWhile isBlank = c :: t from started] at first
        simpa using first
      rw [trimRight_cons solid]
      exact indentation_cons solid _

theorem blanks_append {s t : Text} (blank : Blanks s) : Blanks (s ++ t) ↔ Blanks t := by
  unfold Blanks
  rw [List.forall_mem_append]
  exact and_iff_right blank

section

variable (kind signature : Text) {docs : List Text} (unbroken : ∀ line ∈ docs, Unbroken line)

theorem unbroken_opening : Unbroken (Directive.opening kind signature) ↔
    Unbroken kind ∧ Unbroken signature := by
  unfold Directive.opening Unbroken
  simp only [List.mem_append, not_or]
  have front : '\n' ∉ ".. kotlin:".toList := by decide
  have between : '\n' ∉ ":: ".toList := by decide
  tauto

theorem indentation_opening : indentation (Directive.opening kind signature) = 0 :=
  indentation_cons (by decide) _

omit kind signature in
theorem unbroken_options (m : Nat) (noIndex : Bool) :
    ∀ line ∈ Directive.options (spaces m) noIndex, Unbroken line := by
  have option : Unbroken ":noindex:".toList := by decide
  have blank : Unbroken [] := List.not_mem_nil
  cases noIndex with
  | false => exact List.forall_mem_singleton.mpr blank
  | true =>
      exact List.forall_mem_cons.mpr
        ⟨(unbroken_spaces m).append option, List.forall_mem_singleton.mpr blank⟩

theorem trim_options (m : Nat) (noIndex : Bool) :
    (Directive.options (spaces m) noIndex).map Text.trim =
      (if noIndex then [":noindex:".toList] else []) ++ [[]] := by
  cases noIndex with
  | false => rfl
  | true =>
      show [Text.trim (spaces m ++ ":noindex:".toList), []] = _
      rw [trim_append_left (blanks_spaces m)]
      rfl

theorem deeper_options (m : Nat) (noIndex : Bool) :
    (∀ line ∈ Directive.options (spaces m) noIndex, ¬ Blanks line → 0 < indentation line) ↔
      (noIndex = true → 0 < m) := by
  have blank : Blanks [] := fun _ member => absurd member List.not_mem_nil
  have last : ∀ line ∈ [([] : Text)], ¬ Blanks line → 0 < indentation line :=
    List.forall_mem_singleton.mpr (absurd blank)
  cases noIndex with
  | false => exact iff_of_true last nofun
  | true =>
      have option : ¬ Blanks ":noindex:".toList := by decide
      have flush : indentation ":noindex:".toList = 0 := rfl
      show (∀ line ∈ (spaces m ++ ":noindex:".toList) :: [([] : Text)], _) ↔ _
      rw [List.forall_mem_cons, indentation_spaces, blanks_append (blanks_spaces m), flush,
        and_iff_left last]
      exact ⟨fun deeper _ => deeper option, fun deeper _ => deeper rfl⟩

include unbroken in
theorem isNested_directive (n m : Nat) (noIndex : Bool) :
    IsNested noIndex ((spaces n ++ Directive.opening kind signature) ::
        (Directive.options (spaces m) noIndex ++ docs).map (spaces n ++ ·)) ↔
      (Unbroken kind ∧ Unbroken signature) ∧ (noIndex = true → 0 < m) ∧
        ∀ line ∈ docs, ¬ Blanks line → 0 < indentation line := by
  have own : physical ((Directive.options (spaces m) noIndex ++ docs).map (spaces n ++ ·)) =
      (Directive.options (spaces m) noIndex ++ docs).map (spaces n ++ ·) := by
    apply physical_unbroken
    rw [List.forall_mem_map, List.forall_mem_append]
    exact ⟨fun line member => (unbroken_spaces n).append (unbroken_options m noIndex line member),
      fun line member => (unbroken_spaces n).append (unbroken line member)⟩
  have first : Unbroken (spaces n ++ Directive.opening kind signature) ↔
      Unbroken kind ∧ Unbroken signature := by
    rw [← unbroken_opening]
    exact ⟨fun whole => whole.of_subset (List.subset_append_right _ _), (unbroken_spaces n).append⟩
  have trimmed : ∀ lines : List Text, (lines.map (spaces n ++ ·)).map Text.trim =
      lines.map Text.trim := by
    intro lines
    rw [List.map_map]
    exact List.map_congr_left fun line _ => trim_append_left (blanks_spaces n) line
  rw [IsNested, own, first, trimmed, List.map_append, trim_options]
  simp only [List.forall_mem_map, List.forall_mem_append, indentation_spaces, indentation_opening,
    blanks_append (blanks_spaces n), Nat.add_zero, Nat.lt_add_right_iff_pos, deeper_options,
    List.prefix_append, true_and]

end

/-! ## Documentation -/

theorem unbroken_firstLine (s : Text) : Unbroken (Text.firstLine s) := by
  intro member
  have kept := List.mem_takeWhile_imp member
  simp at kept

theorem unbroken_name? {s : Text} {found : Text × Text} (read : NamedTag.name? s = some found) :
    Unbroken found.1 := by
  have word : Unbroken (s.takeWhile isAsciiWord) :=
    unbroken_of_words fun c member => .inl (List.mem_takeWhile_imp member)
  unfold NamedTag.name? at read
  dsimp only at read
  split at read
  · cases read
    exact word
  · obtain ⟨rest, -, rfl⟩ := Option.map_eq_some_iff.mp read
    exact word

theorem unbroken_split? {s : Text} {found : Text × Text} (read : NamedTag.split? s = some found) :
    Unbroken found.1 := by
  unfold NamedTag.split? at read
  split at read
  · rename_i named here
    cases read
    exact unbroken_name? here
  · split at read
    · cases read
      exact List.not_mem_nil
    · obtain ⟨rest, -, later⟩ := Option.bind_eq_some_iff.mp read
      exact unbroken_name? later

theorem flush_of_mem_proseMarkup {isClass : Bool} {line written : Text} (unbroken : Unbroken line)
    (member : written ∈ DocComment.proseMarkup isClass line) :
    Unbroken written ∧ indentation written = 0 := by
  have colon : isBlank ':' = false := by decide
  have separator : Unbroken ": ".toList := by decide
  unfold DocComment.proseMarkup at member
  split at member
  · rename_i entry rest parsed
    split at member
    · cases member
    · rw [List.mem_singleton.mp member]
      simp only [NamedTag.parse?, bind, Option.bind_eq_some_iff] at parsed
      obtain ⟨s, -, ⟨name, t⟩, cut, made⟩ := parsed
      cases made
      have field : Unbroken ":parameter ".toList := by decide
      refine ⟨Unbroken.append ((field.append (unbroken_split? cut)).append separator)
        (unbroken_firstLine t), indentation_cons colon _⟩
  · split at member
    · cases member
    · split at member
      · rename_i field found
        rw [List.mem_singleton.mp member]
        obtain ⟨tag, -, parsed⟩ := List.exists_of_findSome?_eq_some found
        obtain ⟨⟨description, rest⟩, read, rfl⟩ := Option.map_eq_some_iff.mp parsed
        obtain ⟨s, -, made⟩ := Option.map_eq_some_iff.mp read
        cases made
        have first : Unbroken ":".toList := by decide
        have name : Unbroken tag.field := by cases tag <;> decide
        exact ⟨((first.append name).append separator).append (unbroken_firstLine _),
          indentation_cons colon _⟩
      · rw [List.mem_singleton.mp member]
        exact ⟨unbroken.trim, indentation_trim line⟩

theorem unbroken_unmargined {line : Text} (unbroken : Unbroken line) :
    Unbroken (DocComment.unmargined line) := by
  unfold DocComment.unmargined
  split
  · rename_i s starred
    refine unbroken.trim.of_subset ?_
    rw [starred]
    exact List.subset_cons_self _ _
  · exact unbroken.trim

theorem unbroken_markupFrom {isClass inCode : Bool} {docstring : List Text}
    (unbroken : ∀ line ∈ docstring, Unbroken line) :
    ∀ line ∈ DocComment.markupFrom isClass inCode docstring, Unbroken line := by
  induction docstring generalizing inCode with
  | nil => exact nofun
  | cons line docstring ih =>
      obtain ⟨here, later⟩ := List.forall_mem_cons.mp unbroken
      have text := unbroken_unmargined here
      have block : ∀ line ∈ DocComment.codeBlock, Unbroken line := by decide
      have margin : Unbroken "    ".toList := by decide
      rw [DocComment.markupFrom]
      split
      · rw [List.forall_mem_append]
        refine ⟨?_, ih later⟩
        split
        · exact nofun
        · exact block
      · split
        · exact List.forall_mem_cons.mpr ⟨margin.append text, ih later⟩
        · rw [List.forall_mem_append]
          exact ⟨fun line member => (flush_of_mem_proseMarkup text member).1, ih later⟩

theorem deeper_markup_iff (isClass : Bool) {docstring : List Text}
    (unbroken : ∀ line ∈ docstring, Unbroken line) :
    (∀ line ∈ DocComment.markup isClass docstring, ¬ Blanks line → 0 < indentation line) ↔
      ∀ line ∈ DocComment.markup isClass docstring, Blanks line := by
  refine ⟨fun deeper => ?_, fun blank line member solid => absurd (blank line member) solid⟩
  unfold DocComment.markup at deeper ⊢
  induction docstring with
  | nil => exact nofun
  | cons line docstring ih =>
      obtain ⟨here, later⟩ := List.forall_mem_cons.mp unbroken
      rw [DocComment.markupFrom] at deeper ⊢
      split at deeper
      · -- The line that opens a code block is not indented.
        have opening := deeper ".. code-block:: kotlin".toList List.mem_cons_self (by decide)
        exact absurd opening (by decide)
      · rw [if_neg ‹_›]
        simp only [Bool.false_eq_true, if_false, List.forall_mem_append] at deeper ⊢
        refine ⟨fun written member => ?_, ih later deeper.2⟩
        by_contra solid
        have flush := (flush_of_mem_proseMarkup (unbroken_unmargined here) member).2
        exact absurd (deeper.1 written member solid) (by omega)

/-! ## The blocks of an index -/

def Block.Nested (block : Block) : Prop :=
  block.isDirective = true → IsNested block.noIndex block.lines

theorem step_eq_spaces : Document.step = spaces 3 :=
  rfl

theorem unbroken_label (kind : SymbolKind) : Unbroken kind.label := by
  cases kind <;> decide

section

variable {selection : Selection}

theorem unbroken_signature {declaration : KotlinDoc.Declaration}
    (unbroken : UnbrokenDeclaration declaration) :
    Unbroken (declaration.entry []).signature ↔ Unbroken declaration.name := by
  have between : Unbroken " : ".toList := by decide
  unfold SymbolEntry.signature KotlinDoc.Declaration.entry
  cases typed : declaration.type with
  | none => rfl
  | some type =>
      cases type with
      | nil => rfl
      | cons c type =>
          show Unbroken (declaration.name ++ " : ".toList ++ (c :: type)) ↔ _
          refine ⟨fun whole => whole.of_subset ?_, fun name => ?_⟩
          · rw [List.append_assoc]
            exact List.subset_append_left _ _
          · exact (name.append between).append (unbroken.type (c :: type) typed)

def shownText (selection : Selection) (indent : Text) (declaration : KotlinDoc.Declaration) :
    List Text :=
  if selection.undocumented then []
  else (DocComment.markup (declaration.kind.label != "fun") declaration.docstring).map (indent ++ ·)

theorem unbroken_shownText (selection : Selection) {declaration : KotlinDoc.Declaration}
    (unbroken : UnbrokenDeclaration declaration) (n : Nat) :
    ∀ line ∈ shownText selection (spaces n) declaration, Unbroken line := by
  unfold shownText
  split
  · exact nofun
  · exact List.forall_mem_map.mpr fun line member =>
      (unbroken_spaces n).append (unbroken_markupFrom unbroken.docstring line member)

theorem deeper_shownText {declaration : KotlinDoc.Declaration}
    (unbroken : UnbrokenDeclaration declaration) (n : Nat) :
    (∀ line ∈ shownText selection (spaces n) declaration, ¬ Blanks line → 0 < indentation line) ↔
      (selection.undocumented = true ∨ 0 < n ∨
        ∀ line ∈ DocComment.markup (declaration.kind.label != "fun") declaration.docstring,
          Blanks line) := by
  unfold shownText
  cases selection.undocumented with
  | true => simp
  | false =>
      rw [← deeper_markup_iff _ unbroken.docstring]
      simp only [Bool.false_eq_true, if_false, List.forall_mem_map, indentation_spaces,
        blanks_append (blanks_spaces n), false_or]
      rcases Nat.eq_zero_or_pos n with rfl | pos
      · simp
      · exact iff_of_true (fun _ _ _ => Nat.add_pos_left pos _) (.inl pos)

theorem nested_symbolBlock {declaration : KotlinDoc.Declaration}
    (unbroken : UnbrokenDeclaration declaration) (n : Nat) :
    (symbolBlock selection (spaces n) (declaration.entry [])).Nested ↔
      Unbroken declaration.name ∧ (selection.noIndex = true → 0 < n) ∧
        (selection.undocumented = true ∨ 0 < n ∨
          ∀ line ∈ DocComment.markup (declaration.kind.label != "fun") declaration.docstring,
            Blanks line) := by
  have whole := isNested_directive declaration.kind.label (declaration.entry []).signature
    (unbroken_shownText selection unbroken n) n n selection.noIndex
  rw [deeper_shownText unbroken, unbroken_signature unbroken,
    and_iff_right (unbroken_label _)] at whole
  exact (imp_iff_right rfl).trans whole

theorem unbroken_directiveKind (entry : MemberEntry) : Unbroken entry.directiveKind := by
  unfold MemberEntry.directiveKind
  split
  · rename_i property
    unfold MemberEntry.isProperty at property
    rcases Bool.or_eq_true_iff.mp property with var | val
    · rw [eq_of_beq var]
      decide
    · rw [eq_of_beq val]
      decide
  · split_ifs <;> decide

theorem unbroken_memberSignature {member : Member} (unbroken : UnbrokenMember member) :
    Unbroken member.entry.signature := by
  have rest : Unbroken (member.entry.rest.getD []) := by
    show Unbroken (member.rest.getD [])
    cases written : member.rest with
    | none => exact List.not_mem_nil
    | some rest => exact unbroken.rest rest written
  unfold MemberEntry.signature
  dsimp only
  split
  · apply unbroken.name.append
    split
    · exact rest.of_subset (List.take_subset _ _)
    · exact rest
  · exact unbroken.name.append rest

def memberText (indent : Text) (member : Member) : List Text :=
  (DocComment.markup false member.docstring).map (indent ++ " " ++ ·) ++ [[]]

theorem unbroken_memberText {member : Member} (unbroken : UnbrokenMember member) (n : Nat) :
    ∀ line ∈ memberText (spaces n) member, Unbroken line := by
  have space : Unbroken " ".toList := by decide
  unfold memberText
  rw [List.forall_mem_append, List.forall_mem_map]
  exact ⟨fun line own => ((unbroken_spaces n).append space).append
      (unbroken_markupFrom unbroken.docstring line own),
    List.forall_mem_singleton.mpr List.not_mem_nil⟩

theorem deeper_memberText (member : Member) (n : Nat) :
    ∀ line ∈ memberText (spaces n) member, ¬ Blanks line → 0 < indentation line := by
  unfold memberText
  rw [List.forall_mem_append, List.forall_mem_map]
  refine ⟨fun line _ _ => ?_, List.forall_mem_singleton.mpr fun solid => ?_⟩
  case refine_2 => exact absurd (fun c member => by cases member) solid
  rw [List.append_assoc, indentation_spaces]
  exact Nat.add_pos_right n (Nat.succ_pos _)

theorem lines_memberBlock {member : Member} (case : member.entry.isEnumCase = false) (n : Nat) :
    (memberBlock selection (spaces n) member.entry).lines =
      (spaces (n + 3) ++ Directive.opening member.entry.directiveKind member.entry.signature) ::
        (Directive.options (spaces n) (selection.noIndex || selection.noIndexMembers) ++
          memberText (spaces n) member).map (spaces (n + 3) ++ ·) := by
  have margin : spaces n ++ Document.step = spaces (n + 3) := by
    rw [step_eq_spaces]
    exact List.replicate_append_replicate
  unfold memberBlock MemberEntry.directive
  rw [case, margin]
  rfl

theorem nested_memberBlock {member : Member} (unbroken : UnbrokenMember member) (n : Nat) :
    (memberBlock selection (spaces n) member.entry).Nested ↔
      member.kind = .entry ∨ 0 < n ∨ (selection.noIndex || selection.noIndexMembers) = false := by
  unfold Block.Nested
  show ((!member.entry.isEnumCase) = true → _) ↔ _
  rw [← isEnumCase_entry]
  cases case : member.entry.isEnumCase with
  | true => exact iff_of_true nofun (.inl rfl)
  | false =>
      have whole := isNested_directive member.entry.directiveKind member.entry.signature
        (unbroken_memberText unbroken n) (n + 3) n (selection.noIndex || selection.noIndexMembers)
      rw [and_iff_right ⟨unbroken_directiveKind _, unbroken_memberSignature unbroken⟩,
        and_iff_left (deeper_memberText member n)] at whole
      rw [lines_memberBlock case]
      refine (imp_iff_right rfl).trans (whole.trans ?_)
      cases selection.noIndex || selection.noIndexMembers <;> simp

theorem nested_declarationBlocks (indent : Text) (declaration : KotlinDoc.Declaration)
    (inner : List Block) :
    (∀ block ∈ declarationBlocks selection indent declaration inner, block.Nested) ↔
      (selection.showsSymbol (declaration.entry []) = true →
        (symbolBlock selection indent (declaration.entry [])).Nested ∧
        (selection.members = true → ∀ members ∈ declaration.members,
          (∀ member ∈ members, selection.showsMember member.entry = true →
            (memberBlock selection indent member.entry).Nested) ∧
          ∀ block ∈ inner, block.Nested)) := by
  have last : ∀ block ∈ [separator], block.Nested := List.forall_mem_singleton.mpr nofun
  unfold declarationBlocks
  cases selection.showsSymbol (declaration.entry []) with
  | false => exact iff_of_true nofun nofun
  | true =>
      rw [if_pos rfl, List.forall_mem_append, List.forall_mem_append, List.forall_mem_singleton,
        and_iff_left last, imp_iff_right rfl]
      refine and_congr_right fun _ => ?_
      cases selection.members with
      | false => exact iff_of_true nofun nofun
      | true =>
          unfold innerBlocks
          rw [if_pos rfl, imp_iff_right rfl]
          cases declaration.members with
          | none => exact iff_of_true nofun nofun
          | some members =>
              simp only [List.forall_mem_append, List.forall_mem_map, List.mem_filter, and_imp,
                Option.mem_some_iff, forall_eq']

end

section

variable {file s : Text} {symbol : Symbol} (read : symbol ∈ Symbol.index file (Lines.ofText s))

include read

theorem unbroken_of_mem_index : UnbrokenDeclaration symbol.declaration ∧
    ∀ child ∈ symbol.children, UnbrokenDeclaration child := by
  have all : ∀ declaration ∈ symbol.declaration :: symbol.children,
      UnbrokenDeclaration declaration :=
    fun declaration own => unbroken_index (List.mem_flatMap.mpr ⟨symbol, read, own⟩)
  exact List.forall_mem_cons.mp all

theorem nested_children (selection : Selection) :
    ∀ block ∈ symbol.children.flatMap fun child =>
      declarationBlocks selection Document.step child [], block.Nested := by
  intro block member
  obtain ⟨child, own, made⟩ := List.mem_flatMap.mp member
  have unbroken := (unbroken_of_mem_index read).2 child own
  have name := unbroken.name (deeper_index file _ symbol read child own).1
  rw [step_eq_spaces] at made
  refine (nested_declarationBlocks _ child []).mpr (fun _ => ⟨?_, fun _ members has => ?_⟩) block made
  · exact (nested_symbolBlock unbroken 3).mpr ⟨name, fun _ => Nat.succ_pos 2, .inr (.inl (by omega))⟩
  · refine ⟨fun member found _ => ?_, nofun⟩
    exact (nested_memberBlock (unbroken.members members has member found) 3).mpr
      (.inr (.inl (by omega)))

theorem nested_symbolBlocks_iff (selection : Selection) :
    (∀ block ∈ symbolBlocks selection symbol, block.Nested) ↔
      (selection.showsSymbol symbol.entry = true →
        Unbroken symbol.declaration.name ∧ selection.noIndex = false ∧
        (selection.undocumented = true ∨ ∀ line ∈ DocComment.markup
          (symbol.declaration.kind.label != "fun") symbol.declaration.docstring, Blanks line) ∧
        (selection.members = true → ∀ members ∈ symbol.declaration.members, ∀ member ∈ members,
          selection.showsMember member.entry = true → member.kind ≠ .entry →
            selection.noIndexMembers = false)) := by
  have unbroken := (unbroken_of_mem_index read).1
  have children := nested_children read selection
  unfold symbolBlocks
  rw [nested_declarationBlocks, show [] = spaces 0 from rfl, nested_symbolBlock unbroken]
  refine imp_congr Iff.rfl ?_
  simp only [Nat.lt_irrefl, false_or, imp_false, Bool.not_eq_true, and_assoc]
  refine and_congr_right fun _ => and_congr_right fun indexed => and_congr_right fun _ => ?_
  refine imp_congr_right fun _ => forall₂_congr fun members has => ?_
  rw [and_iff_left children]
  refine forall₂_congr fun member found => imp_congr_right fun _ => ?_
  rw [nested_memberBlock (unbroken.members members has member found), indexed]
  simp [or_iff_not_imp_left]

end

/-- A page is its blocks, and the directives of all are nested exactly if this holds of every symbol
that is shown: its name is one line, symbols go into the index, its documentation is left out or has
no text, and its members, enum entries apart, go into the index. What is declared within a symbol
does not matter. -/
theorem directives_nested_iff (selection : Selection) (symbols : List Symbol)
    (read : ∀ symbol ∈ symbols, ∃ file s, symbol ∈ Symbol.index file (Lines.ofText s)) :
    Document.text (Document.lines selection [] (symbols.map Symbol.entry)) =
      Document.text ((blocks selection symbols).flatMap fun block => physical block.lines) ∧
    ((∀ block ∈ blocks selection symbols, block.isDirective = true →
        IsNested block.noIndex block.lines) ↔
      ∀ symbol ∈ symbols, selection.showsSymbol symbol.entry = true →
        Unbroken symbol.declaration.name ∧ selection.noIndex = false ∧
        (selection.undocumented = true ∨ ∀ line ∈ DocComment.markup
          (symbol.declaration.kind.label != "fun") symbol.declaration.docstring, Blanks line) ∧
        (selection.members = true → ∀ members ∈ symbol.declaration.members, ∀ member ∈ members,
          selection.showsMember member.entry = true → member.kind ≠ .entry →
            selection.noIndexMembers = false)) := by
  constructor
  · rw [lines_eq_blocks, ← text_physical]
    unfold physical
    rw [List.flatMap_assoc]
  · unfold blocks
    rw [List.forall_mem_flatMap]
    refine forall₂_congr fun symbol member => ?_
    obtain ⟨file, s, found⟩ := read symbol member
    exact nested_symbolBlocks_iff found selection

theorem directives_nested_iff_documented :
    let symbols := Symbol.index "A.kt" (Lines.ofText
      "/** Shapes. */\nclass A \x7b\n/** Width. */\nval x = 1\n\x7d\n".toList)
    (∀ symbol ∈ symbols, ∃ file s, symbol ∈ Symbol.index file (Lines.ofText s)) ∧
    (¬ ∀ block ∈ blocks {} symbols, block.isDirective = true →
      IsNested block.noIndex block.lines) ∧
    (∀ block ∈ blocks { undocumented := true } symbols, block.isDirective = true →
      IsNested block.noIndex block.lines) ∧
    ¬ ∀ block ∈ blocks { undocumented := true, noIndexMembers := true } symbols,
      block.isDirective = true → IsNested block.noIndex block.lines := by
  have read : ∀ symbol ∈ Symbol.index "A.kt" (Lines.ofText
      "/** Shapes. */\nclass A \x7b\n/** Width. */\nval x = 1\n\x7d\n".toList),
      ∃ file s, symbol ∈ Symbol.index file (Lines.ofText s) :=
    fun symbol member => ⟨_, _, member⟩
  refine ⟨read, ?_, ?_, ?_⟩
  · rw [(directives_nested_iff _ _ read).2]
    decide +kernel
  · rw [(directives_nested_iff _ _ read).2]
    decide +kernel
  · rw [(directives_nested_iff _ _ read).2]
    decide +kernel

end KotlinDoc.Proofs.Page
