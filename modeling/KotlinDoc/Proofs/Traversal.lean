import Mathlib.Data.List.Forall2
import Mathlib.Data.List.Perm.Basic

namespace KotlinDoc.Proofs

variable {α β : Type} {f : α → Option β}

theorem mapM_eq_some_iff {xs : List α} {ys : List β} :
    xs.mapM f = some ys ↔ List.Forall₂ (fun x y => f x = some y) xs ys := by
  induction xs generalizing ys with
  | nil => simp [eq_comm]
  | cons x xs ih =>
      simp only [List.mapM_cons, Option.bind_eq_bind, Option.bind_eq_some_iff, Option.pure_def,
        Option.some.injEq, List.forall₂_cons_left_iff, ih]
      constructor
      · rintro ⟨y, here, ys, later, rfl⟩
        exact ⟨y, ys, here, later, rfl⟩
      · rintro ⟨y, ys, here, later, rfl⟩
        exact ⟨y, here, ys, later, rfl⟩

theorem mapM_cons_eq_some {x : α} {xs : List α} {y : β} {ys : List β} :
    (x :: xs).mapM f = some (y :: ys) ↔ f x = some y ∧ xs.mapM f = some ys := by
  rw [mapM_eq_some_iff, mapM_eq_some_iff, List.forall₂_cons]

theorem mapM_ne_nil {xs : List α} (filled : xs ≠ []) : xs.mapM f ≠ some [] := by
  rw [Ne, mapM_eq_some_iff, List.forall₂_nil_right_iff]
  exact filled

theorem mapM_eq_ite (f : α → Option β) (xs : List α) :
    xs.mapM f = if xs.all (fun x => (f x).isSome) then some (xs.filterMap f) else none := by
  induction xs with
  | nil => rfl
  | cons x xs ih =>
      rw [List.mapM_cons, ih]
      cases found : f x with
      | none => simp [found]
      | some y =>
          cases all : xs.all fun x => (f x).isSome <;> simp [found, all]

theorem mapM_eq_none_iff {xs : List α} : xs.mapM f = none ↔ ∃ x ∈ xs, f x = none := by
  rw [mapM_eq_ite]
  simp

theorem mapM_of_perm (f : α → Option β) {xs ys : List α} (same : xs.Perm ys) :
    (xs.mapM f = none ∧ ys.mapM f = none) ∨
      ∃ found found', xs.mapM f = some found ∧ ys.mapM f = some found' ∧ found.Perm found' := by
  rw [mapM_eq_ite, mapM_eq_ite, same.all_eq]
  split
  · exact Or.inr ⟨_, _, rfl, rfl, same.filterMap f⟩
  · exact Or.inl ⟨rfl, rfl⟩

end KotlinDoc.Proofs
