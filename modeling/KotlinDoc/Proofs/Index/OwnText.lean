import KotlinDoc.Proofs.Index.Forest
import KotlinDoc.Proofs.Index.Scanning
import KotlinDoc.Proofs.Source.HeaderLayout
import Mathlib.Algebra.Ring.Int.Defs

namespace KotlinDoc.Proofs

/-! ## The end of a body -/

def Closes (braces : Int) : List JoinedLine → Prop
  | [] => False
  | line :: lines =>
    braces + Source.braceExcess line.text ≤ 0 ∨ Closes (braces + Source.braceExcess line.text) lines

instance (braces : Int) : (lines : List JoinedLine) → Decidable (Closes braces lines)
  | [] => isFalse id
  | line :: lines =>
    have := instDecidableCloses (braces + Source.braceExcess line.text) lines
    inferInstanceAs (Decidable (_ ∨ _))

theorem closes_of_sum {braces : Int} {lines : List JoinedLine} (inside : 0 < braces)
    (sum : braces + (lines.map fun line => Source.braceExcess line.text).sum ≤ 0) :
    Closes braces lines := by
  induction lines generalizing braces with
  | nil => simp at sum; omega
  | cons line lines ih =>
      rw [List.map_cons, List.sum_cons] at sum
      by_cases closed : braces + Source.braceExcess line.text ≤ 0
      · exact .inl closed
      · exact .inr (ih (by omega) (by omega))

theorem scan_closes (inEnum : Bool) {nesting : Member.Nesting} {lines : List JoinedLine}
    (closes : Closes nesting.braces lines) (position : Int) (above after after' : List Text) :
    Member.scan inEnum nesting position 0
        (Site.listBelow above (lines.flatMap JoinedLine.lines ++ after)) =
      Member.scan inEnum nesting position 0
        (Site.listBelow above (lines.flatMap JoinedLine.lines ++ after')) := by
  induction lines generalizing nesting position above with
  | nil => cases closes
  | cons line lines ih =>
      rw [List.flatMap_cons, List.append_assoc, List.append_assoc, scan_joinedLine, scan_joinedLine]
      split
      · rfl
      · rename_i inside
        rw [ih (closes.resolve_left inside)]

theorem scan_open (inEnum : Bool) {nesting : Member.Nesting} {lines : List JoinedLine}
    (inside : 0 < nesting.braces) (unclosed : ¬ Closes nesting.braces lines) (position : Int)
    (above : List Text) :
    ∃ members, ∃ nesting' : Member.Nesting, ∃ position' above', 0 < nesting'.braces ∧
      ∀ after, Member.scan inEnum nesting position 0
          (Site.listBelow above (lines.flatMap JoinedLine.lines ++ after)) =
        members ++ Member.scan inEnum nesting' position' 0 (Site.listBelow above' after) := by
  induction lines generalizing nesting position above with
  | nil => exact ⟨[], nesting, position, above, inside, fun after => rfl⟩
  | cons line lines ih =>
      obtain ⟨here, later⟩ := not_or.mp unclosed
      have next : 0 < (nesting.after line.text).braces := Int.not_le.mp here
      obtain ⟨members, nesting', position', above', further, same⟩ :=
        ih next later (position + line.lines.length) (line.lines.reverse ++ above)
      refine ⟨addedMembers inEnum nesting ⟨line.first, above⟩ (position + line.more.length)
        line.text ++ members, nesting', position', above', further, ?_⟩
      intro after
      rw [List.flatMap_cons, List.append_assoc, scan_joinedLine, if_neg (Int.not_le.mpr next), same,
        List.append_assoc]

/-! ## Lines that declare a member -/

theorem scan_declaring (inEnum : Bool) {nesting : Member.Nesting} (inside : 0 < nesting.braces)
    (line : JoinedLine) (opens : 0 < Source.braceExcess line.text) {above : List Text}
    (shown : (Member.docstringAt inEnum ⟨line.first, above⟩ line.text).contains Member.suppression =
      false) (declares : MemberHeader.ofLine inEnum line.text ≠ []) (position : Int)
    (rest : List Text) :
    Member.scan inEnum nesting position 0 (Site.listBelow above (line.lines ++ rest)) ≠ [] := by
  have braces : (nesting.after line.text).braces = nesting.braces + Source.braceExcess line.text :=
    rfl
  have deeper : (nesting.braces == (nesting.after line.text).braces) = false := by
    rw [braces]
    simp
    omega
  obtain ⟨header, headers, written⟩ := List.exists_cons_of_ne_nil declares
  rw [scan_joinedLine, if_neg (by rw [braces]; omega)]
  simp only [addedMembers, deeper, Bool.and_false, Bool.false_eq_true, if_false, Member.ofLine,
    shown, written, List.flatMap_cons]
  simp [ofHeader_ne_nil]

def blankLine : LogicalLine where
  first := []
  more := []
  short := short_nil
  continues := by decide

def propertyLine : LogicalLine where
  first := "val x \x7b"
  more := []
  short := short_nil
  continues := by decide +kernel

def entryLine : LogicalLine where
  first := "case: x \x7b"
  more := []
  short := short_nil
  continues := by decide +kernel

def markedLine : LogicalLine where
  first := "case: case: x \x7b"
  more := []
  short := short_nil
  continues := by decide +kernel

theorem scan_property {nesting : Member.Nesting} (inside : 0 < nesting.braces) (position : Int)
    (above : List Text) :
    Member.scan false nesting position 0
      (Site.listBelow above (blankLine.lines ++ propertyLine.lines)) ≠ [] := by
  have level : (nesting.after []).braces = nesting.braces := by
    simp only [Member.Nesting.after, show Source.braceExcess [] = 0 from rfl, Int.add_zero]
  -- The blank line keeps a comment above it from the property.
  have shown : (Member.docstringAt false ⟨propertyLine.first, [] :: above⟩
      propertyLine.text).contains Member.suppression = false := by
    have none : Member.inlineDoc? propertyLine.text = none := by decide +kernel
    have detached : Detached ([] :: above) := by
      intro line first
      cases first
      decide
    simp only [Member.docstringAt, none, above_detached detached]
    rfl
  have read := scan_joinedLine false blankLine.joinedLine above propertyLine.lines nesting position
  have text : blankLine.joinedLine.text = [] := rfl
  rw [text, if_neg (by rw [level]; omega)] at read
  have declared := scan_declaring false (level.symm ▸ inside) propertyLine.joinedLine
    (by decide +kernel) shown (by decide +kernel) (position + 1) []
  intro none
  have both := read.symm.trans none
  exact declared (List.append_eq_nil_iff.mp both).2

theorem markFrom_single (comments : Int) (ended : Bool) (line : Text) :
    EnumBody.markFrom comments ended [line] = [line] ∨
      EnumBody.markFrom comments ended [line] = ["case: " ++ line] := by
  rw [EnumBody.markFrom, EnumBody.markFrom]
  split
  · exact .inl rfl
  · exact .inr rfl

theorem scan_entry {nesting : Member.Nesting} (inside : 0 < nesting.braces) (position : Int)
    (above : List Text) (comments : Int) (ended : Bool) :
    Member.scan true nesting position 0
      (Site.listBelow above (EnumBody.markFrom comments ended entryLine.lines)) ≠ [] := by
  have marked : EnumBody.markFrom comments ended entryLine.lines = entryLine.lines ∨
      EnumBody.markFrom comments ended entryLine.lines = markedLine.lines :=
    markFrom_single comments ended entryLine.first
  have shown (line : LogicalLine) (none : Member.inlineDoc? line.text = none) :
      (Member.docstringAt true ⟨line.first, above⟩ line.text).contains Member.suppression =
        false := by
    simp only [Member.docstringAt, none]
    rfl
  rcases marked with same | same <;> rw [same]
  · exact scan_declaring true inside entryLine.joinedLine (by decide +kernel)
      (shown entryLine (by decide +kernel)) (by decide +kernel) position []
  · exact scan_declaring true inside markedLine.joinedLine (by decide +kernel)
      (shown markedLine (by decide +kernel)) (by decide +kernel) position []

/-! ## Bodies -/

theorem markFrom_append (comments : Int) (ended : Bool) (own : List Text) :
    ∃ comments' ended', ∀ after, EnumBody.markFrom comments ended (own ++ after) =
      EnumBody.markFrom comments ended own ++ EnumBody.markFrom comments' ended' after := by
  induction own generalizing comments ended with
  | nil => exact ⟨comments, ended, fun after => rfl⟩
  | cons line own ih =>
      obtain ⟨comments', ended', same⟩ := ih (comments + Source.commentExcess (Text.trim line))
        (ended || (comments + Source.commentExcess (Text.trim line) == 0 &&
          Source.hasStopWord (Text.trim line)))
      refine ⟨comments', ended', fun after => ?_⟩
      simp only [List.cons_append, EnumBody.markFrom, same]

/-- The lines of a class whose members are not read: those of its header, but of an enum only the
first. -/
def unread (kind : SymbolKind) (own : List Text) : Nat :=
  if kind == .enumClass then 1 else (ClassHeader.ofLines own).lastLine + 1

def memberLines (kind : SymbolKind) (docstring own : List Text) : List Text :=
  let constructor := (ClassHeader.ofLines own).constructor
  if kind == .enumClass then EnumBody.mark own.tail
  else
    (if constructor.isEmpty then []
      else KotlinDoc.Declaration.constructorLines docstring constructor) ++
      own.drop (unread kind own)

inductive Below : Bool → (List Text → List Text) → Prop where
  | lines : Below false id
  | marked (comments : Int) (ended : Bool) : Below true (EnumBody.markFrom comments ended)

theorem Below.nil {inEnum : Bool} {below : List Text → List Text} (follow : Below inEnum below) :
    below [] = [] := by
  cases follow <;> rfl

theorem Below.exists_declaring {inEnum : Bool} {below : List Text → List Text}
    (follow : Below inEnum below) {nesting : Member.Nesting} (inside : 0 < nesting.braces)
    (position : Int) (above : List Text) :
    ∃ after, Member.scan inEnum nesting position 0 (Site.listBelow above (below after)) ≠ [] := by
  cases follow with
  | lines => exact ⟨_, scan_property inside position above⟩
  | marked comments ended => exact ⟨_, scan_entry inside position above comments ended⟩

theorem membersAt_own (kind : SymbolKind) {line : Text} {more : List Text}
    (opened : (ClassHeader.ofLines (line :: more)).hasBody = true) (docstring before : List Text)
    (number : Nat) :
    ∃ position above below, Below (kind == .enumClass) below ∧ ∀ after,
      KotlinDoc.Declaration.membersAt kind docstring number ⟨line, before⟩
          (Site.listBelow (line :: before) (more ++ after)) =
        some (Member.scan (kind == .enumClass) .start position 0
          (Site.listBelow above (memberLines kind docstring (line :: more) ++ below after))) := by
  have header (after : List Text) :
      ClassHeader.ofLines (line :: (more ++ after)) = ClassHeader.ofLines (line :: more) :=
    (readLines_append opened after).1
  have last : (ClassHeader.ofLines (line :: more)).lastLine ≤ more.length := by
    have := (readLines_append opened []).2
    rw [List.length_cons] at this
    unfold ClassHeader.ofLines
    omega
  cases enum : kind == .enumClass with
  | true =>
      obtain ⟨comments, ended, marked⟩ := markFrom_append 0 false more
      refine ⟨0, [], EnumBody.markFrom comments ended, .marked comments ended, fun after => ?_⟩
      simp only [KotlinDoc.Declaration.membersAt, line_listBelow, header, opened, enum, if_true,
        memberLines, EnumBody.mark, List.tail_cons, marked, Member.ofSites, Site.list]
  | false =>
      have rest (after : List Text) :
          (more ++ after).drop (ClassHeader.ofLines (line :: more)).lastLine =
            more.drop (ClassHeader.ofLines (line :: more)).lastLine ++ after :=
        List.drop_append_of_le_length last
      cases plain : (ClassHeader.ofLines (line :: more)).constructor.isEmpty with
      | true =>
          refine ⟨number + (ClassHeader.ofLines (line :: more)).lastLine + 1,
            (more.take (ClassHeader.ofLines (line :: more)).lastLine).reverse ++ line :: before,
            id, .lines, fun after => ?_⟩
          simp only [KotlinDoc.Declaration.membersAt, line_listBelow, header, opened, enum, if_true,
            Bool.false_eq_true, if_false, plain, memberLines, unread, List.nil_append,
            Member.ofSites, drop_listBelow, rest, List.drop_succ_cons, id,
            List.take_append_of_le_length last]
      | false =>
          refine ⟨0, [], id, .lines, fun after => ?_⟩
          simp only [KotlinDoc.Declaration.membersAt, line_listBelow, header, opened, enum, if_true,
            Bool.false_eq_true, if_false, plain, memberLines, unread, List.map_drop,
            Member.ofSites, rest, List.drop_succ_cons, id, Site.list, List.append_assoc]

/-! ## Files -/

def membersOf (file : Text) (lines : List Text) (number : Nat) : List (Option (List Member)) :=
  ((flat (Symbol.index file lines)).filter (·.line == number)).map (·.members)

/-- The members of the class whose text is `own` do not depend on what is below it in the file. -/
def OwnMembers (file : Text) (before own : List Text) : Prop :=
  ∀ after after', membersOf file (before ++ (own ++ after)) before.length =
    membersOf file (before ++ (own ++ after')) before.length

theorem membersOf_eq (file : Text) {lines : List Text} {number : Nat} {site : Site}
    {below : List Site} (here : (Site.list lines).drop number = site :: below)
    {form : SymbolForm} {header : SymbolHeader} {rest : Text} (other : form ≠ .function)
    (parsed : SymbolHeader.parse? form site.line = some (header, rest)) :
    membersOf file lines number =
      [KotlinDoc.Declaration.membersAt header.kind (DocComment.above site.above) number site
        below] := by
  obtain ⟨braces, found⟩ := filter_index file here other parsed
  have kind : (header.kind == .function) = false :=
    beq_eq_false_iff_ne.mpr fun function => other ((kind_of_parse? parsed).mp function)
  rw [membersOf, found, List.map_singleton, KotlinDoc.Declaration.ofHeader]
  simp only [kind, Bool.false_eq_true, if_false]

theorem membersOf_append (file : Text) (before : List Text) {line : Text} (below : List Text)
    {form : SymbolForm} {header : SymbolHeader} {rest : Text} (other : form ≠ .function)
    (parsed : SymbolHeader.parse? form line = some (header, rest)) :
    membersOf file (before ++ line :: below) before.length =
      [KotlinDoc.Declaration.membersAt header.kind (DocComment.above before.reverse) before.length
        ⟨line, before.reverse⟩ (Site.listBelow (line :: before.reverse) below)] := by
  have here : (Site.list (before ++ line :: below)).drop before.length =
      ⟨line, before.reverse⟩ :: Site.listBelow (line :: before.reverse) below := by
    rw [Site.list, drop_listBelow, List.take_left, List.drop_left, List.append_nil]
    rfl
  exact membersOf_eq file here other parsed

section

variable (file : Text) (before : List Text) {line : Text} {more : List Text} {form : SymbolForm}
  {header : SymbolHeader} {rest : Text} (other : form ≠ .function)
  (parsed : SymbolHeader.parse? form line = some (header, rest))
  (opened : (ClassHeader.ofLines (line :: more)).hasBody = true)

include other parsed opened

theorem membersOf_own :
    ∃ position above below, Below (header.kind == .enumClass) below ∧ ∀ after,
      membersOf file (before ++ (line :: more ++ after)) before.length =
        [some (Member.scan (header.kind == .enumClass) .start position 0
          (Site.listBelow above (memberLines header.kind (DocComment.above before.reverse)
            (line :: more) ++ below after)))] := by
  obtain ⟨position, above, below, follow, read⟩ := membersAt_own header.kind opened
    (DocComment.above before.reverse) before.reverse before.length
  refine ⟨position, above, below, follow, fun after => ?_⟩
  rw [List.cons_append, membersOf_append file before _ other parsed, read after]

theorem ownMembers_iff {read : List JoinedLine}
    (whole : memberLines header.kind (DocComment.above before.reverse) (line :: more) =
      read.flatMap JoinedLine.lines) :
    OwnMembers file before (line :: more) ↔ Closes 1 read := by
  obtain ⟨position, above, below, follow, members⟩ := membersOf_own file before other parsed opened
  rw [whole] at members
  constructor
  · intro own
    by_contra unclosed
    have started : 0 < Member.Nesting.start.braces := by decide
    obtain ⟨common, nesting, position', above', inside, scanned⟩ :=
      scan_open (header.kind == .enumClass) started unclosed position above
    obtain ⟨after, declares⟩ := follow.exists_declaring inside position' above'
    have same := own after []
    rw [members, members, scanned, scanned, follow.nil] at same
    exact declares (List.append_cancel_left (Option.some.inj (List.head_eq_of_cons_eq same)))
  · intro closes after after'
    rw [members, members, scan_closes _ closes]

end

def braceSum (lines : List Text) : Int :=
  (lines.map Source.braceExcess).sum

/-- The members of a class come from its own text just if the count of its braces, started at one,
falls to zero there. It does if the braces of the text balance and the lines that are not read leave
one open; it does not if the text ends with the line that opens the body. -/
theorem members_own_iff (file : Text) (before : List Text) {line : Text} {more : List Text}
    {form : SymbolForm} {header : SymbolHeader} {rest : Text} (other : form ≠ .function)
    (parsed : SymbolHeader.parse? form line = some (header, rest))
    (opened : (ClassHeader.ofLines (line :: more)).hasBody = true) {read : List JoinedLine}
    (whole : memberLines header.kind (DocComment.above before.reverse) (line :: more) =
      read.flatMap JoinedLine.lines) :
    (OwnMembers file before (line :: more) ↔ Closes 1 read) ∧
    (braceSum (line :: more) = 0 →
      0 < braceSum ((line :: more).take (unread header.kind (line :: more))) →
      (read.map fun line => Source.braceExcess line.text).sum =
        braceSum ((line :: more).drop (unread header.kind (line :: more))) →
      OwnMembers file before (line :: more)) ∧
    (header.kind ≠ .enumClass → (ClassHeader.ofLines (line :: more)).constructor = [] →
      more.length = (ClassHeader.ofLines (line :: more)).lastLine →
      ¬ OwnMembers file before (line :: more)) := by
  have own := ownMembers_iff file before other parsed opened whole
  refine ⟨own, ?_, ?_⟩
  · intro balanced open_ counted
    rw [own]
    apply closes_of_sum (by decide)
    have split : braceSum (line :: more) =
        braceSum ((line :: more).take (unread header.kind (line :: more))) +
          braceSum ((line :: more).drop (unread header.kind (line :: more))) := by
      unfold braceSum
      rw [← List.sum_append, ← List.map_append, List.take_append_drop]
    omega
  · intro kind plain single closed
    have nothing : memberLines header.kind (DocComment.above before.reverse) (line :: more) = [] := by
      have noEnum : (header.kind == .enumClass) = false := beq_eq_false_iff_ne.mpr kind
      simp [memberLines, unread, noEnum, plain, ← single]
    have empty : read = [] := by
      cases read with
      | nil => rfl
      | cons line read =>
          rw [nothing] at whole
          cases whole
    rw [own, empty] at closed
    exact closed

def radiusLine : LogicalLine where
  first := "    val radius = minOf("
  more := ["        1, 2)"]
  continues := by decide +kernel

def closingLine : LogicalLine where
  first := "\x7d"
  more := []
  short := short_nil
  continues := by decide +kernel

/-- An empty body takes the members of what follows; a body that is closed below its header does
not. -/
theorem members_own_iff_shapes :
    ¬ OwnMembers "Shapes.kt" [] ["class Unit \x7b\x7d"] ∧
      OwnMembers "Shapes.kt" ["class Unit \x7b\x7d", ""]
        ("class Circle \x7b" :: (radiusLine.lines ++ closingLine.lines)) := by
  have unit : SymbolHeader.parse? .plainClass "class Unit \x7b\x7d" =
      some (⟨none, "class", .classKind, "Unit", none, [' ']⟩, ['{', '}']) := by
    decide +kernel
  have circle : SymbolHeader.parse? .plainClass "class Circle \x7b" =
      some (⟨none, "class", .classKind, "Circle", none, [' ']⟩, ['{']) := by
    decide +kernel
  have nothing : memberLines .classKind (DocComment.above []) ["class Unit \x7b\x7d"] =
      ([] : List JoinedLine).flatMap JoinedLine.lines := by
    decide +kernel
  have body : memberLines .classKind (DocComment.above (["class Unit \x7b\x7d", ""] : List Text).reverse)
      ("class Circle \x7b" :: (radiusLine.lines ++ closingLine.lines)) =
      [radiusLine.joinedLine, closingLine.joinedLine].flatMap JoinedLine.lines := by
    decide +kernel
  constructor
  · exact (members_own_iff "Shapes.kt" [] (by decide) unit (by decide +kernel) nothing).2.2
      (by decide) (by decide +kernel) (by decide +kernel)
  · exact (members_own_iff "Shapes.kt" _ (by decide) circle (by decide +kernel) body).1.mpr
      (by decide +kernel)

end KotlinDoc.Proofs
