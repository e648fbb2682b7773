namespace KotlinDoc

namespace Sorting

def insert {α : Type} (le : α → α → Bool) (a : α) : List α → List α
  | [] => [a]
  | b :: bs => if le a b then a :: b :: bs else b :: insert le a bs

def sort {α : Type} (le : α → α → Bool) : List α → List α
  | [] => []
  | a :: as => insert le a (sort le as)

theorem insert_perm {α : Type} (le : α → α → Bool) (a : α) (things : List α) :
    (insert le a things).Perm (a :: things) := by
  induction things with
  | nil => exact .refl _
  | cons b things ih =>
      unfold insert
      split
      · exact .refl _
      · exact (ih.cons b).trans (.swap a b things)

theorem sort_perm {α : Type} (le : α → α → Bool) (things : List α) :
    (sort le things).Perm things := by
  induction things with
  | nil => exact .refl _
  | cons a things ih => exact (insert_perm le a (sort le things)).trans (ih.cons a)

end Sorting

end KotlinDoc
