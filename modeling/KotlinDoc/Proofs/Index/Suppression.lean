import KotlinDoc.Doc.Markup
import KotlinDoc.Proofs.Doc.Extraction
import KotlinDoc.Proofs.Index.Stretches

/-!
# Declarations that are hidden

A tag in its documentation asks that a declaration be left out. Reading upwards passes over lines
that start with a tag, and keeps the star before one, so that the tag is never found in a block
above the declaration: just the comment on the line of the declaration itself can hide it
(`declaration_hidden_iff`).
-/

namespace KotlinDoc.Proofs

/-! ## Passages -/

structure Passage where
  stretch : Stretch
  nesting : Member.Nesting
deriving DecidableEq

def passages (nesting : Member.Nesting) : List Stretch → List Passage
  | [] => []
  | stretch :: rest => ⟨stretch, nesting⟩ :: passages (nesting.after stretch.text) rest

def passagesFrom (lines : List Text) (number : Nat) : List Passage :=
  passages .start (stretchesFrom lines number)

namespace Passage

variable (lines : List Text) (passage : Passage)

def site : Site :=
  ⟨lines.getD passage.stretch.start [], (lines.take passage.stretch.start).reverse⟩

def members : List Member :=
  if passage.stretch.braces ≤ 0 then []
  else addedMembers false passage.nesting (passage.site lines) (passage.stretch.next - 1)
    passage.stretch.text

/-- The passage starts with a header. It does not end the body, and it lies in the body itself or
opens or closes a brace. -/
structure Declares : Prop where
  inside : 0 < passage.stretch.braces
  level : passage.stretch.braces = 1 ∨ Source.braceExcess passage.stretch.text ≠ 0
  headed : MemberHeader.ofLine false passage.stretch.text ≠ []

instance : Decidable passage.Declares :=
  decidable_of_iff (0 < passage.stretch.braces ∧
      (passage.stretch.braces = 1 ∨ Source.braceExcess passage.stretch.text ≠ 0) ∧
      MemberHeader.ofLine false passage.stretch.text ≠ [])
    ⟨fun h => ⟨h.1, h.2.1, h.2.2⟩, fun h => ⟨h.inside, h.level, h.headed⟩⟩

end Passage

theorem membersOfStretches_eq (lines : List Text) (nesting : Member.Nesting)
    (stretches : List Stretch) :
    membersOfStretches false lines nesting stretches =
      (passages nesting stretches).flatMap (Passage.members lines) := by
  induction stretches generalizing nesting with
  | nil => rfl
  | cons stretch rest ih =>
      rw [membersOfStretches, ih, passages, List.flatMap_cons]
      rfl

theorem index?_passages (lines : List Text) (number : Nat) :
    Member.index? false lines number =
      some ((passagesFrom lines number).flatMap (Passage.members lines)) := by
  by_cases inside : number < lines.length
  · rw [index?_stretches false inside, membersOfStretches_eq]
    rfl
  · have none : lines.drop number = [] := List.drop_eq_nil_of_le (Nat.le_of_not_lt inside)
    have sites : (Site.list lines).drop number = [] := by
      rw [Site.list, drop_listBelow, none]
      rfl
    rw [index?_natCast, sites, passagesFrom, stretchesFrom, none]
    rfl

theorem braces_of_mem_passages {nesting : Member.Nesting} {number skip : Nat} {lines : List Text}
    {passage : Passage}
    (member : passage ∈ passages nesting (stretches nesting.braces number skip lines)) :
    passage.stretch.braces =
      passage.nesting.braces + Source.braceExcess passage.stretch.text := by
  induction lines generalizing nesting number skip with
  | nil => cases skip <;> cases member
  | cons line lines ih =>
      cases skip with
      | succ skip => exact ih member
      | zero =>
          rw [stretches] at member
          dsimp only at member
          rw [passages] at member
          rcases List.mem_cons.mp member with rfl | later
          · rfl
          · split at later
            · cases later
            · exact @ih (nesting.after (Lines.join line lines).1) _ _ later

/-! ## Members of a passage -/

theorem docstring_hides_iff (site : Site) (text : Text) :
    (Member.docstringAt false site text).contains Member.suppression = true ↔
      Member.inlineDoc? text = some Member.suppression := by
  unfold Member.docstringAt
  cases Member.inlineDoc? text with
  | some doc => simp [eq_comm]
  | none => simpa using suppression_notMem_above site.above

theorem ofLine_eq_nil_iff (nesting : Member.Nesting) (site : Site) (position : Int) (text : Text) :
    Member.ofLine false nesting site position text = [] ↔
      MemberHeader.ofLine false text = [] ∨
        Member.inlineDoc? text = some Member.suppression := by
  rw [← docstring_hides_iff site text]
  unfold Member.ofLine
  dsimp only
  split
  · rename_i hidden
    exact iff_of_true rfl (Or.inr hidden)
  · rename_i shown
    simp only [shown, Bool.false_eq_true, or_false, List.flatMap_eq_nil_iff, ofHeader_ne_nil]
    exact List.eq_nil_iff_forall_not_mem.symm

theorem members_eq_nil_iff {lines : List Text} {number : Nat} {passage : Passage}
    (member : passage ∈ passagesFrom lines number) :
    passage.members lines = [] ↔
      ¬ passage.Declares ∨
        Member.inlineDoc? passage.stretch.text = some Member.suppression := by
  have braces := braces_of_mem_passages member
  have after : (passage.nesting.after passage.stretch.text).braces = passage.stretch.braces :=
    braces.symm
  have declares : passage.Declares ↔ 0 < passage.stretch.braces ∧
      ¬ (1 < passage.stretch.braces ∧ passage.nesting.braces = passage.stretch.braces) ∧
      MemberHeader.ofLine false passage.stretch.text ≠ [] := by
    constructor
    · rintro ⟨inside, level, headed⟩
      exact ⟨inside, by omega, headed⟩
    · rintro ⟨inside, level, headed⟩
      exact ⟨inside, by omega, headed⟩
  rw [declares]
  unfold Passage.members addedMembers
  simp only [after]
  split
  · rename_i ended
    exact iff_of_true rfl (Or.inl fun ⟨inside, _⟩ => absurd inside (Int.not_lt.mpr ended))
  · split
    · rename_i deeper
      refine iff_of_true rfl (Or.inl fun ⟨_, level, _⟩ => level ?_)
      simpa using deeper
    · rename_i inside level
      rw [ofLine_eq_nil_iff]
      have level' : ¬ (1 < passage.stretch.braces ∧
          passage.nesting.braces = passage.stretch.braces) := by
        simpa using level
      simp only [Int.not_le.mp inside, level', true_and, not_false_eq_true, ne_eq,
        not_not]

/-! ## Documentation with the tag -/

/-- Below any lines, a declaration is hidden just if the comment on its own line is the tag: the tag
is not found in the lines above it, whatever they are. -/
theorem hidden_below_iff (above below : List Text) (number : Nat) :
    Member.suppression ∉ docBelow above ∧
    Member.index? false (above ++ below) number =
      some ((passagesFrom (above ++ below) number).flatMap (Passage.members (above ++ below))) ∧
    ∀ passage ∈ passagesFrom (above ++ below) number,
      passage.stretch.start = above.length →
        (passage.members (above ++ below) = [] ↔
          ¬ passage.Declares ∨
            Member.inlineDoc? passage.stretch.text = some Member.suppression) := by
  refine ⟨?_, index?_passages _ _, fun passage member _ => members_eq_nil_iff member⟩
  have read : docBelow above = DocComment.above above.reverse := by
    simpa using docBelow_append [] above
  rw [read]
  exact suppression_notMem_above _

def bareLine (line : Text) : Text :=
  let s := Text.trim (unended line)
  Text.trim (DocComment.unmargined ((Text.after? DocComment.opening s).getD s))

/-- The lines of a documentation comment, one of which is the tag that hides a declaration. -/
structure SuppressingDoc where
  lines : List Text
  opens : ∀ first ∈ lines.head?, Text.startsWith DocComment.opening (Text.trim first) = true
  closes : ∀ last ∈ lines.getLast?, Text.endsWith DocComment.closing (Text.trimRight last) = true
  tagged : ∃ line ∈ lines, bareLine line = Member.suppression

/-- Right below documentation with the tag, a declaration is hidden just if the comment on its own
line is the tag. Whatever the layout of the documentation is, the tag is not found in it and hides
nothing. -/
theorem declaration_hidden_iff (above below : List Text) (doc : SuppressingDoc) (number : Nat) :
    Member.suppression ∉ docBelow (above ++ doc.lines) ∧
    Member.index? false (above ++ doc.lines ++ below) number =
      some ((passagesFrom (above ++ doc.lines ++ below) number).flatMap
        (Passage.members (above ++ doc.lines ++ below))) ∧
    ∀ passage ∈ passagesFrom (above ++ doc.lines ++ below) number,
      passage.stretch.start = (above ++ doc.lines).length →
        (passage.members (above ++ doc.lines ++ below) = [] ↔
          ¬ passage.Declares ∨
            Member.inlineDoc? passage.stretch.text = some Member.suppression) :=
  hidden_below_iff (above ++ doc.lines) below number

theorem declaration_hidden_iff_layouts :
    (∃ doc : SuppressingDoc, doc.lines = ["/** @suppress */".toList] ∧
      ∃ passage ∈ passagesFrom (doc.lines ++ ["val a = 1".toList, "\x7d".toList]) 0,
        passage.members (doc.lines ++ ["val a = 1".toList, "\x7d".toList]) ≠ []) ∧
    (∃ doc : SuppressingDoc, doc.lines = ["/**".toList, " * @suppress".toList, " */".toList] ∧
      ∃ passage ∈ passagesFrom (doc.lines ++ ["fun f() \x7b".toList, "\x7d".toList]) 0,
        passage.members (doc.lines ++ ["fun f() \x7b".toList, "\x7d".toList]) ≠ []) ∧
    ∃ doc : SuppressingDoc, doc.lines = ["/**".toList, "@suppress".toList, "*/".toList] ∧
      ∃ passage ∈ passagesFrom (doc.lines ++ ["val c = 3 /**< @suppress */".toList]) 0,
        passage.Declares ∧
        passage.members (doc.lines ++ ["val c = 3 /**< @suppress */".toList]) = [] := by
  refine ⟨?_, ?_, ?_⟩
  · let doc : SuppressingDoc := ⟨["/** @suppress */".toList], by decide, by decide, by decide⟩
    let passage : Passage := ⟨⟨1, "val a = 1".toList, 2, 1⟩, ⟨1, 0⟩⟩
    have member : passage ∈ passagesFrom (doc.lines ++ ["val a = 1".toList, "\x7d".toList]) 0 := by
      decide +kernel
    have hidden := (declaration_hidden_iff [] ["val a = 1".toList, "\x7d".toList] doc 0).2.2 passage
      member rfl
    exact ⟨doc, rfl, passage, member, mt hidden.mp (by decide +kernel)⟩
  · let doc : SuppressingDoc := ⟨["/**".toList, " * @suppress".toList, " */".toList], by decide,
      by decide, by decide⟩
    let passage : Passage := ⟨⟨3, "fun f() \x7b".toList, 4, 2⟩, ⟨1, 0⟩⟩
    have member :
        passage ∈ passagesFrom (doc.lines ++ ["fun f() \x7b".toList, "\x7d".toList]) 0 := by
      decide +kernel
    have hidden := (declaration_hidden_iff [] ["fun f() \x7b".toList, "\x7d".toList] doc 0).2.2
      passage member rfl
    exact ⟨doc, rfl, passage, member, mt hidden.mp (by decide +kernel)⟩
  · let doc : SuppressingDoc := ⟨["/**".toList, "@suppress".toList, "*/".toList], by decide,
      by decide, by decide⟩
    let passage : Passage := ⟨⟨3, "val c = 3 /**< @suppress */".toList, 4, 1⟩, ⟨1, 0⟩⟩
    have member : passage ∈ passagesFrom (doc.lines ++ ["val c = 3 /**< @suppress */".toList]) 0 := by
      decide +kernel
    have hidden := (declaration_hidden_iff [] ["val c = 3 /**< @suppress */".toList] doc 0).2.2
      passage member rfl
    exact ⟨doc, rfl, passage, member, by decide +kernel, hidden.mpr (by decide +kernel)⟩

end KotlinDoc.Proofs
