import KotlinDoc.Source.Lines
import Mathlib.Data.List.Basic

namespace KotlinDoc.Proofs

def Continues (text : Text) : List Text → Prop
  | [] => Source.parenExcess text = 0
  | line :: lines =>
    Source.parenExcess text ≠ 0 ∧ Continues (text ++ " " ++ Text.trim line) lines

instance (text : Text) : (lines : List Text) → Decidable (Continues text lines)
  | [] => inferInstanceAs (Decidable (Source.parenExcess text = 0))
  | line :: lines =>
    have := instDecidableContinues (text ++ " " ++ Text.trim line) lines
    inferInstanceAs (Decidable (Source.parenExcess text ≠ 0 ∧
      Continues (text ++ " " ++ Text.trim line) lines))

structure LogicalLine where
  first : Text
  more : List Text
  short : more.length ≤ Lines.maxJoined := by decide
  continues : Continues (Text.trimRight first) more

theorem short_nil : ([] : List Text).length ≤ Lines.maxJoined := by
  decide

namespace LogicalLine

def lines (line : LogicalLine) : List Text :=
  line.first :: line.more

def text (line : LogicalLine) : Text :=
  line.more.foldl (fun text next => text ++ " " ++ Text.trim next) (Text.trimRight line.first)

theorem text_eq (line : LogicalLine) :
    line.text =
      Text.trimRight line.first ++ (line.more.map fun next => ' ' :: Text.trim next).flatten := by
  simp [text]

end LogicalLine

theorem joinOnto_continues (more rest : List Text) {text : Text} (continues : Continues text more)
    {budget : Nat} (short : more.length ≤ budget) :
    Lines.joinOnto text budget (more ++ rest) =
      (more.foldl (fun text next => text ++ " " ++ Text.trim next) text, more.length) := by
  induction more generalizing text budget with
  | nil =>
      have balanced : Source.parenExcess text = 0 := continues
      unfold Lines.joinOnto
      cases rest <;> simp [balanced]
  | cons line more ih =>
      obtain ⟨unbalanced, continues⟩ := continues
      cases budget with
      | zero => simp at short
      | succ budget =>
          have joined := ih continues (Nat.le_of_succ_le_succ short)
          simp only [List.cons_append, Lines.joinOnto, beq_iff_eq, unbalanced, if_false, joined,
            List.foldl_cons, List.length_cons]

theorem join_logicalLine (line : LogicalLine) (rest : List Text) :
    Lines.join line.first (line.more ++ rest) = (line.text, line.more.length) :=
  joinOnto_continues line.more rest line.continues line.short

theorem join_balanced {line : Text} (balanced : Source.parenExcess (Text.trimRight line) = 0)
    (lines : List Text) : Lines.join line lines = (Text.trimRight line, 0) :=
  join_logicalLine ⟨line, [], short_nil, balanced⟩ lines

/-- Lines that are joined into one text, whatever follows them: a logical line, or so many lines
that joining is given up. -/
structure JoinedLine where
  first : Text
  more : List Text
  text : Text
  joined : ∀ rest, Lines.join first (more ++ rest) = (text, more.length)

def JoinedLine.lines (line : JoinedLine) : List Text :=
  line.first :: line.more

def LogicalLine.joinedLine (line : LogicalLine) : JoinedLine where
  first := line.first
  more := line.more
  text := line.text
  joined := join_logicalLine line

theorem listBelow_append (above first second : List Text) :
    Site.listBelow above (first ++ second) =
      Site.listBelow above first ++ Site.listBelow (first.reverse ++ above) second := by
  induction first generalizing above with
  | nil => rfl
  | cons line first ih => simp [Site.listBelow, ih]

theorem length_listBelow (above lines : List Text) :
    (Site.listBelow above lines).length = lines.length := by
  induction lines generalizing above with
  | nil => rfl
  | cons line lines ih => simp [Site.listBelow, ih]

theorem line_listBelow (above lines : List Text) :
    (Site.listBelow above lines).map (·.line) = lines := by
  induction lines generalizing above with
  | nil => rfl
  | cons line lines ih => simp [Site.listBelow, ih]

theorem drop_listBelow (above lines : List Text) (count : Nat) :
    (Site.listBelow above lines).drop count =
      Site.listBelow ((lines.take count).reverse ++ above) (lines.drop count) := by
  induction lines generalizing above count with
  | nil => simp [Site.listBelow]
  | cons line lines ih =>
      cases count with
      | zero => rfl
      | succ count => simp [Site.listBelow, ih]

end KotlinDoc.Proofs
