import KotlinDoc.Proofs.Doc.CodeFences
import KotlinDoc.Proofs.Text.Cutting
import KotlinDoc.Proofs.Text.Trimming
import Mathlib.Data.List.Forall2

namespace KotlinDoc.Proofs

open DocComment

def margined (line : Text) : Text :=
  " * " ++ line

/-- A line without blanks at its ends and without a star in front. -/
structure Flush (line : Text) : Prop where
  trimmed : Text.trim line = line
  starless : line.head? ≠ some '*'

instance (line : Text) : Decidable (Flush line) :=
  decidable_of_iff (Text.trim line = line ∧ line.head? ≠ some '*')
    ⟨fun flush => ⟨flush.1, flush.2⟩, fun flush => ⟨flush.trimmed, flush.starless⟩⟩

theorem unmargined_of_flush {line : Text} (flush : Flush line) : unmargined line = line := by
  unfold unmargined
  rw [flush.trimmed]
  split
  · exact absurd rfl flush.starless
  · rfl

theorem unmargined_margined {line : Text} (flush : Flush line) :
    unmargined (margined line) = if line = [] then [] else ' ' :: line := by
  have star : Text.trim (margined line) = '*' :: Text.trimRight (' ' :: line) := by
    have blank : Blanks [' '] := by decide
    exact (trim_append_left blank ('*' :: ' ' :: line)).trans (trim_cons (by decide) _)
  have rest : Text.trimRight (' ' :: line) = if line = [] then [] else ' ' :: line := by
    rcases List.eq_nil_or_concat' line with rfl | ⟨front, c, rfl⟩
    · decide
    · have last := getLast_trim (front ++ [c])
      rw [flush.trimmed] at last
      rw [if_neg (by simp), ← List.cons_append, trimRight_concat _ (last c (by simp))]
  unfold unmargined
  rw [star]
  exact rest

theorem isFence_margined {line : Text} (flush : Flush line) : isFence (margined line) = false := by
  unfold isFence
  rw [unmargined_margined flush]
  split <;> rfl

theorem parse?_simple_indented (tag : SimpleTag) {indent : Text} (blank : Blanks indent)
    (line : Text) : tag.parse? (indent ++ line) = tag.parse? line := by
  unfold SimpleTag.parse?
  rw [trimLeft_append blank]

theorem parse?_named_indented (tag : NamedTag) {indent : Text} (blank : Blanks indent)
    (line : Text) : tag.parse? (indent ++ line) = tag.parse? line := by
  unfold NamedTag.parse?
  rw [trimLeft_append blank]

theorem has_indented (pattern : Text) {indent : Text} (blank : Blanks indent) (line : Text) :
    Text.has ('@' :: pattern) (indent ++ line) = Text.has ('@' :: pattern) line := by
  unfold Text.has
  rw [find?_append (notMem_of_blanks blank (by decide)), Option.isSome_map]

theorem proseMarkup_indented (isClass : Bool) {indent : Text} (blank : Blanks indent) (line : Text) :
    proseMarkup isClass (indent ++ line) = proseMarkup isClass line := by
  have property : Text.has NamedTag.property.word (indent ++ line) =
      Text.has NamedTag.property.word line := has_indented _ blank line
  unfold proseMarkup simpleField?
  simp only [parse?_named_indented _ blank, property, parse?_simple_indented _ blank,
    trim_append_left blank]

theorem proseMarkup_margined (isClass : Bool) {line : Text} (flush : Flush line) :
    proseMarkup isClass (unmargined (margined line)) = proseMarkup isClass line := by
  rw [unmargined_margined flush]
  split
  · rename_i empty
    rw [empty]
  · exact proseMarkup_indented isClass (by decide : Blanks [' ']) line

theorem proseMarkup_cases (isClass : Bool) (line : Text) :
    proseMarkup isClass line = [] ∨ ∃ shown, proseMarkup isClass line = [shown] ∧
      ((∃ field, shown = ':' :: field) ∨ shown = Text.trim line) := by
  unfold proseMarkup
  split
  · cases isClass with
    | true => exact Or.inl rfl
    | false => exact Or.inr ⟨_, rfl, Or.inl ⟨_, rfl⟩⟩
  · split
    · exact Or.inl rfl
    · split
      · rename_i field found
        obtain ⟨tag, -, parsed⟩ := List.exists_of_findSome?_eq_some found
        obtain ⟨description, -, rfl⟩ := Option.map_eq_some_iff.mp parsed
        exact Or.inr ⟨_, rfl, Or.inl ⟨_, rfl⟩⟩
      · exact Or.inr ⟨_, rfl, Or.inr rfl⟩

theorem length_proseMarkup (isClass : Bool) (line : Text) : (proseMarkup isClass line).length ≤ 1 := by
  rcases proseMarkup_cases isClass line with none | ⟨shown, one, -⟩
  · simp [none]
  · simp [one]

theorem markup_unfenced (isClass : Bool) {lines : List Text}
    (plain : ∀ line ∈ lines, isFence line = false) :
    markup isClass lines = lines.flatMap fun line => proseMarkup isClass (unmargined line) := by
  unfold markup
  induction lines with
  | nil => rfl
  | cons line lines ih =>
      obtain ⟨here, later⟩ := List.forall_mem_cons.mp plain
      rw [markupFrom_prose _ _ here, ih later, List.flatMap_cons]

theorem markup_margined (isClass : Bool) {block : List Text} (flush : ∀ line ∈ block, Flush line) :
    markup isClass (block.map margined) = block.flatMap (proseMarkup isClass) := by
  rw [markup_unfenced, List.flatMap_map]
  · exact List.flatMap_congr fun line member => proseMarkup_margined isClass (flush line member)
  · rw [List.forall_mem_map]
    exact fun line member => isFence_margined (flush line member)

/-- Read as prose, the lines of a block do not become more: an opening fence is shown as two lines,
which is one for itself and one for the closing fence. -/
theorem length_prose_le (isClass inCode : Bool) {lines : List Text}
    (flush : ∀ line ∈ lines, Flush line) :
    (lines.flatMap (proseMarkup isClass)).length ≤
      (markupFrom isClass inCode lines).length + inCode.toNat := by
  induction lines generalizing inCode with
  | nil => simp
  | cons line lines ih =>
      obtain ⟨here, later⟩ := List.forall_mem_cons.mp flush
      have single := length_proseMarkup isClass line
      rw [List.flatMap_cons, List.length_append]
      cases fenced : isFence line with
      | true =>
          have rest := ih (!inCode) later
          rw [markupFrom_fence _ _ _ fenced]
          cases inCode <;> simp [codeBlock] at rest ⊢ <;> omega
      | false =>
          have rest := ih inCode later
          cases inCode with
          | true =>
              rw [markupFrom_code _ _ fenced, List.length_cons]
              omega
          | false =>
              rw [markupFrom_prose _ _ fenced, unmargined_of_flush here, List.length_append]
              omega

/-- Two shown lines are equal, or they are lines of code that differ by blanks in front. Only code
is shown with blanks in front. -/
def SameShown (first second : Text) : Prop :=
  first = second ∨ (("    " : Text) <+: first ∧ ("    " : Text) <+: second ∧
    Text.trimLeft first = Text.trimLeft second)

theorem not_sameShown_fence (isClass : Bool) {line : Text} {lines : List Text} (flush : Flush line)
    (fenced : isFence line = true) (later : ∀ line ∈ lines, Flush line) :
    ¬ List.Forall₂ SameShown (proseMarkup isClass line ++ lines.flatMap (proseMarkup isClass))
      (codeBlock ++ markupFrom isClass true lines) := by
  intro same
  rcases proseMarkup_cases isClass line with none | ⟨shown, one, form⟩
  · -- With the fence left out too few lines remain.
    have length := same.length_eq
    have most := length_prose_le isClass true later
    simp only [none, codeBlock, List.nil_append, List.length_append, List.length_cons,
      List.length_nil, Bool.toNat_true] at length most
    omega
  · rw [one] at same
    unfold isFence at fenced
    rw [unmargined_of_flush flush] at fenced
    have first : SameShown shown ".. code-block:: kotlin" := by
      cases same with
      | cons head tail => exact head
    rcases first with rfl | ⟨-, indented, -⟩
    · rcases form with ⟨field, colon⟩ | itself
      · exact absurd (congrArg List.head? colon) (by simp)
      · rw [flush.trimmed] at itself
        rw [← itself] at fenced
        exact absurd fenced (by decide)
    · exact absurd indented (by decide)

theorem unfenced_of_sameShown (isClass : Bool) {block : List Text} (flush : ∀ line ∈ block, Flush line)
    (same : List.Forall₂ SameShown (block.flatMap (proseMarkup isClass)) (markup isClass block)) :
    ∀ line ∈ block, isFence line = false := by
  unfold markup at same
  induction block with
  | nil => simp
  | cons line block ih =>
      obtain ⟨here, later⟩ := List.forall_mem_cons.mp flush
      rw [List.flatMap_cons] at same
      cases fenced : isFence line with
      | true =>
          rw [markupFrom_fence _ _ _ fenced] at same
          exact absurd same (not_sameShown_fence isClass here fenced later)
      | false =>
          rw [markupFrom_prose _ _ fenced, unmargined_of_flush here] at same
          have rest := List.forall₂_drop (proseMarkup isClass line).length same
          rw [List.drop_left, List.drop_left] at rest
          exact List.forall_mem_cons.mpr ⟨fenced, ih later rest⟩

/-- With a margin, every line of a block is read as prose. What is shown is the same as without the
margin, up to blanks before lines of code, just if no line of the block is a fence, and then the
blanks are the same too. -/
theorem margin_irrelevant_iff (isClass : Bool) {block : List Text}
    (flush : ∀ line ∈ block, Flush line) :
    markup isClass (block.map margined) = block.flatMap (proseMarkup isClass) ∧
    (List.Forall₂ SameShown (markup isClass (block.map margined)) (markup isClass block) ↔
      ∀ line ∈ block, isFence line = false) ∧
    ((∀ line ∈ block, isFence line = false) →
      markup isClass (block.map margined) = markup isClass block) := by
  have prose := markup_margined isClass flush
  have same (plain : ∀ line ∈ block, isFence line = false) :
      markup isClass (block.map margined) = markup isClass block := by
    rw [prose, markup_unfenced isClass plain]
    apply List.flatMap_congr
    intro line member
    rw [unmargined_of_flush (flush line member)]
  refine ⟨prose, ⟨fun shown => ?_, fun plain => ?_⟩, same⟩
  · rw [prose] at shown
    exact unfenced_of_sameShown isClass flush shown
  · rw [same plain, List.forall₂_same]
    exact fun _ _ => Or.inl rfl

def taggedDoc : List Text :=
  ["Adds.", "", "@param a the first", "@return the sum"]

def fencedDoc : List Text :=
  ["Adds.", "```kotlin", "sum(1)", "```"]

theorem margin_irrelevant_iff_fenced :
    markup false (taggedDoc.map margined) = markup false taggedDoc ∧
    markup false (fencedDoc.map margined) = fencedDoc ∧
    ¬ List.Forall₂ SameShown (markup false (fencedDoc.map margined)) (markup false fencedDoc) := by
  obtain ⟨-, -, same⟩ :=
    margin_irrelevant_iff false (by decide +kernel : ∀ line ∈ taggedDoc, Flush line)
  obtain ⟨prose, shown, -⟩ :=
    margin_irrelevant_iff false (by decide +kernel : ∀ line ∈ fencedDoc, Flush line)
  refine ⟨same (by decide +kernel), ?_, ?_⟩
  · rw [prose]
    decide +kernel
  · rw [shown]
    decide +kernel

end KotlinDoc.Proofs
