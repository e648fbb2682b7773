import KotlinDoc.Text.Basic
import Mathlib.Data.List.Infix

namespace KotlinDoc.Proofs

def parenDepth (s : Text) : Int :=
  (s.count '(' : Int) - (s.count ')' : Int)

@[simp] theorem parenDepth_nil : parenDepth [] = 0 :=
  rfl

@[simp] theorem parenDepth_append (s t : Text) :
    parenDepth (s ++ t) = parenDepth s + parenDepth t := by
  simp [parenDepth]
  omega

theorem parenDepth_cons (c : Char) (s : Text) :
    parenDepth (c :: s) = parenDepth [c] + parenDepth s :=
  parenDepth_append [c] s

theorem parenDepth_of_notMem {s : Text} (opening : '(' ∉ s) (closing : ')' ∉ s) :
    parenDepth s = 0 := by
  simp [parenDepth, List.count_eq_zero.mpr opening, List.count_eq_zero.mpr closing]

structure Paired (s : Text) : Prop where
  opened : ∀ before, before <+: s → 0 ≤ parenDepth before
  closed : parenDepth s = 0

instance (s : Text) : Decidable (Paired s) :=
  decidable_of_iff ((s.inits.all fun before => 0 ≤ parenDepth before) = true ∧ parenDepth s = 0)
    ⟨fun checked => ⟨fun before front =>
        of_decide_eq_true (List.all_eq_true.mp checked.1 before ((List.mem_inits _ _).mpr front)),
        checked.2⟩,
      fun paired => ⟨List.all_eq_true.mpr fun before front =>
        decide_eq_true (paired.opened before ((List.mem_inits _ _).mp front)), paired.closed⟩⟩

namespace Paired

theorem of_notMem {s : Text} (opening : '(' ∉ s) (closing : ')' ∉ s) : Paired s := by
  refine ⟨fun before front => ?_, parenDepth_of_notMem opening closing⟩
  have outside := parenDepth_of_notMem (fun member => opening (front.subset member))
    fun member => closing (front.subset member)
  omega

theorem append {s t : Text} (first : Paired s) (second : Paired t) : Paired (s ++ t) := by
  refine ⟨?_, by simp [first.closed, second.closed]⟩
  rintro before ⟨rest, cut⟩
  rcases List.append_eq_append_iff.mp cut with ⟨more, written, -⟩ | ⟨more, rfl, written⟩
  · exact first.opened before ⟨more, written.symm⟩
  · have later := second.opened more ⟨rest, written.symm⟩
    rw [parenDepth_append, first.closed]
    omega

theorem enclosed {s : Text} (inner : Paired s) : Paired ('(' :: (s ++ [')'])) := by
  have opening : parenDepth ['('] = 1 := rfl
  have closing : parenDepth [')'] = -1 := rfl
  have ended := parenDepth_append s [')']
  have whole := parenDepth_cons '(' (s ++ [')'])
  have closed := inner.closed
  refine ⟨?_, by omega⟩
  intro before front
  rcases List.prefix_cons_iff.mp front with rfl | ⟨before, rfl, inside⟩
  · simp
  rcases List.prefix_concat_iff.mp inside with rfl | inside
  · omega
  · have within := inner.opened before inside
    rw [parenDepth_cons]
    omega

end Paired

end KotlinDoc.Proofs
