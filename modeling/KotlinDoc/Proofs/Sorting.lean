import KotlinDoc.Sorting
import KotlinDoc.Text.Basic
import Mathlib.Data.List.Sort

namespace KotlinDoc.Proofs

theorem sort_eq_insertionSort {α : Type} (le : α → α → Bool) (things : List α) :
    Sorting.sort le things = things.insertionSort (fun a b => le a b = true) := by
  have insert : ∀ (a : α) (sorted : List α), Sorting.insert le a sorted =
      sorted.orderedInsert (fun a b => le a b = true) a := by
    intro a sorted
    induction sorted with
    | nil => rfl
    | cons b sorted ih => rw [Sorting.insert, List.orderedInsert_cons, ih]
  induction things with
  | nil => rfl
  | cons a things ih => rw [Sorting.sort, List.insertionSort_cons, insert, ih]

theorem sort_pairwise {α : Type} (le : α → α → Bool)
    (total : ∀ a b, le a b = true ∨ le b a = true)
    (trans : ∀ a b c, le a b = true → le b c = true → le a c = true) (things : List α) :
    (Sorting.sort le things).Pairwise fun a b => le a b = true := by
  have : Std.Total fun a b => le a b = true := ⟨total⟩
  have : IsTrans α fun a b => le a b = true := ⟨trans⟩
  rw [sort_eq_insertionSort]
  exact List.pairwise_insertionSort _ _

theorem sort_eq_of_perm {α : Type} (le : α → α → Bool)
    (total : ∀ a b, le a b = true ∨ le b a = true)
    (trans : ∀ a b c, le a b = true → le b c = true → le a c = true) {things others : List α}
    (apart : ∀ a ∈ things, ∀ b ∈ things, le a b = true → le b a = true → a = b)
    (same : things.Perm others) : Sorting.sort le things = Sorting.sort le others := by
  have sorted : (Sorting.sort le things).Perm (Sorting.sort le others) :=
    ((Sorting.sort_perm le things).trans same).trans (Sorting.sort_perm le others).symm
  apply List.Perm.eq_of_pairwise _ (sort_pairwise le total trans things)
    (sort_pairwise le total trans others) sorted
  intro a b first second
  apply apart
  · exact (Sorting.sort_perm le things).mem_iff.mp first
  · exact (Sorting.sort_perm le things).mem_iff.mp (sorted.mem_iff.mpr second)

theorem textLe_total (s t : Text) : Text.le s t = true ∨ Text.le t s = true := by
  induction s generalizing t with
  | nil => exact Or.inl rfl
  | cons a s ih =>
      cases t with
      | nil => exact Or.inr rfl
      | cons b t =>
          simp only [Text.le, Bool.or_eq_true, Bool.and_eq_true, decide_eq_true_eq, beq_iff_eq]
          rcases Nat.lt_trichotomy a.toNat b.toNat with less | same | greater
          · exact Or.inl (Or.inl less)
          · have equal : a = b := Char.toNat_inj.mp same
            exact (ih t).imp (fun rest => Or.inr ⟨equal, rest⟩) fun rest => Or.inr ⟨equal.symm, rest⟩
          · exact Or.inr (Or.inl greater)

theorem textLe_trans {s t u : Text} (first : Text.le s t = true) (second : Text.le t u = true) :
    Text.le s u = true := by
  induction s generalizing t u with
  | nil => rfl
  | cons a s ih =>
      cases t with
      | nil => cases first
      | cons b t =>
          cases u with
          | nil => cases second
          | cons c u =>
              simp only [Text.le, Bool.or_eq_true, Bool.and_eq_true, decide_eq_true_eq,
                beq_iff_eq] at first second ⊢
              rcases first with less | ⟨rfl, rest⟩
              · rcases second with less' | ⟨rfl, -⟩
                · exact Or.inl (less.trans less')
                · exact Or.inl less
              · exact second.imp_right fun ⟨equal, rest'⟩ => ⟨equal, ih rest rest'⟩

theorem textLe_antisymm {s t : Text} (first : Text.le s t = true) (second : Text.le t s = true) :
    s = t := by
  induction s generalizing t with
  | nil =>
      cases t with
      | nil => rfl
      | cons b t => cases second
  | cons a s ih =>
      cases t with
      | nil => cases first
      | cons b t =>
          simp only [Text.le, Bool.or_eq_true, Bool.and_eq_true, decide_eq_true_eq,
            beq_iff_eq] at first second
          rcases first with less | ⟨rfl, rest⟩
          · rcases second with greater | ⟨rfl, -⟩ <;> omega
          · rw [ih rest (second.resolve_left (Nat.lt_irrefl _)).2]

end KotlinDoc.Proofs
