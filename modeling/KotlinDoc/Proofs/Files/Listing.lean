import KotlinDoc.Proofs.Files.Paths
import KotlinDoc.Proofs.Sorting

namespace KotlinDoc.Proofs.Files

def found (directory : Location) : Location × Node → Option (List Text × ByteArray)
  | (_, .directory) => none
  | (location, .file bytes) =>
    match FileSystem.below? directory location with
    | none | some [] => none
    | some names => if isKotlin names then some (names, bytes) else none

theorem below?_eq_some {directory location : Location} {names : List Text} :
    FileSystem.below? directory location = some names ↔ directory ++ names = location :=
  List.isPrefixOf?_eq_some_iff_append_eq

theorem found_eq_some {directory location : Location} {node : Node} {names : List Text}
    {bytes : ByteArray} :
    found directory (location, node) = some (names, bytes) ↔
      location = directory ++ names ∧ node = .file bytes ∧ isKotlin names = true := by
  cases node with
  | directory => simp [found]
  | file content =>
      unfold found
      dsimp only
      split
      · rename_i elsewhere
        simp only [reduceCtorEq, false_iff, not_and]
        rintro rfl
        rw [below?_eq_some.mpr rfl] at elsewhere
        cases elsewhere
      · rename_i itself
        have same := below?_eq_some.mp itself
        rw [List.append_nil] at same
        subst same
        simp only [reduceCtorEq, false_iff, not_and]
        intro empty _ kotlin
        obtain rfl := List.self_eq_append_right.mp empty
        cases kotlin
      · rename_i inside
        obtain rfl := below?_eq_some.mp inside
        split
        · rename_i kotlin
          simp only [Option.some.injEq, Prod.mk.injEq, List.append_cancel_left_eq, Node.file.injEq]
          constructor
          · rintro ⟨rfl, rfl⟩
            exact ⟨rfl, rfl, kotlin⟩
          · rintro ⟨rfl, rfl, -⟩
            exact ⟨rfl, rfl⟩
        · rename_i other
          simp only [reduceCtorEq, List.append_cancel_left_eq, false_iff, not_and]
          rintro rfl _
          exact other

theorem nodesBelow_filterMap (fs : FileSystem) (directory : Location) :
    (fs.nodesBelow directory).filterMap (fun
      | (names, .file bytes) =>
        if (names.getLast?.map FileSystem.isKotlinName).getD false then some (names, bytes) else none
      | (_, .directory) => none) = fs.entries.filterMap (found directory) := by
  unfold FileSystem.nodesBelow
  rw [List.filterMap_filterMap]
  apply List.filterMap_congr
  rintro ⟨location, node⟩ _
  cases node with
  | directory =>
      dsimp only
      split <;> rfl
  | file bytes =>
      dsimp only [found]
      cases FileSystem.below? directory location with
      | none => rfl
      | some names =>
          cases names with
          | nil => rfl
          | cons name names => rfl

section

variable {fs new : FileSystem} {target : Location → Prop} {directory : Location}

theorem mem_filterMap_found {names : List Text} {bytes : ByteArray} :
    (names, bytes) ∈ fs.entries.filterMap (found directory) ↔
      (directory ++ names, .file bytes) ∈ fs.entries ∧ isKotlin names = true := by
  rw [List.mem_filterMap]
  constructor
  · rintro ⟨⟨location, node⟩, member, here⟩
    obtain ⟨rfl, rfl, kotlin⟩ := found_eq_some.mp here
    exact ⟨member, kotlin⟩
  · rintro ⟨member, kotlin⟩
    exact ⟨_, member, found_eq_some.mpr ⟨rfl, rfl, kotlin⟩⟩

theorem kotlinFiles_eq_arrange (tree : IsTree fs) (order : WalkOrder) (directory : Location) :
    fs.kotlinFiles order directory = order.arrange (fs.entries.filterMap (found directory)) := by
  have nodes := nodesBelow_filterMap fs directory
  unfold FileSystem.kotlinFiles
  split
  · exact congrArg _ nodes
  · rename_i noDirectory
    suffices none : fs.entries.filterMap (found directory) = [] by
      rw [none]
      exact (order.perm []).eq_nil.symm
    apply List.eq_nil_iff_forall_not_mem.mpr
    rintro ⟨names, bytes⟩ member
    obtain ⟨there, kotlin⟩ := mem_filterMap_found.mp member
    have named := ne_nil_of_isKotlin kotlin
    apply noDirectory
    apply tree.above named
    rw [node?_eq_lookup _ (by simp [named])]
    exact (lookup_eq_some_iff_mem tree.keyed _ _).mpr there

theorem mem_kotlinFiles (tree : IsTree fs) {order : WalkOrder} {names : List Text}
    {bytes : ByteArray} :
    (names, bytes) ∈ fs.kotlinFiles order directory ↔
      fs.node? (directory ++ names) = some (.file bytes) ∧ isKotlin names = true := by
  rw [kotlinFiles_eq_arrange tree, (order.perm _).mem_iff, mem_filterMap_found]
  apply and_congr_left
  intro kotlin
  rw [node?_eq_lookup _ (by simp [ne_nil_of_isKotlin kotlin])]
  exact (lookup_eq_some_iff_mem tree.keyed _ _).symm

theorem nodup_kotlinFiles (tree : IsTree fs) (order : WalkOrder) (directory : Location) :
    ((fs.kotlinFiles order directory).map Prod.fst).Nodup := by
  rw [kotlinFiles_eq_arrange tree, ((order.perm _).map _).nodup_iff, List.Nodup,
    List.pairwise_map, List.pairwise_filterMap]
  refine (List.pairwise_map.mp tree.keyed).imp ?_
  rintro ⟨location, node⟩ ⟨location', node'⟩ distinct ⟨names, bytes⟩ here ⟨names', bytes'⟩ there
    same
  obtain ⟨rfl, -⟩ := found_eq_some.mp here
  obtain ⟨rfl, -⟩ := found_eq_some.mp there
  exact distinct (congrArg (directory ++ ·) same)

theorem Change.filterMap_found (change : Change target fs new)
    (other : ∀ location, target location → isKotlin location = false) (directory : Location) :
    new.entries.filterMap (found directory) = fs.entries.filterMap (found directory) := by
  cases change with
  | @directory location named within free =>
      have fresh : ¬ (fs.entries.lookup location).isSome = true := by
        rw [← node?_eq_lookup _ (ne_nil_of_free (isDirectory_of_none free)), free]
        nofun
      rw [set_entries, upsert, if_neg fresh, List.filterMap_append]
      simp [found]
  | @file location aimed named within free bytes =>
      -- Whatever stands at the location, it is not listed.
      have unlisted : ∀ node, found directory (location, node) = none := by
        intro node
        rw [Option.eq_none_iff_forall_ne_some]
        rintro ⟨names, content⟩ listed
        obtain ⟨rfl, -, kotlin⟩ := found_eq_some.mp listed
        have last := other _ aimed
        unfold isKotlin at kotlin last
        rw [List.getLast?_append_of_ne_nil _ (ne_nil_of_isKotlin kotlin), kotlin] at last
        cases last
      rw [set_entries, upsert]
      split
      · rw [List.filterMap_map]
        apply List.filterMap_congr
        rintro ⟨key, node⟩ _
        by_cases same : key = location
        · subst same
          simp [unlisted]
        · simp [same]
      · rw [List.filterMap_append]
        simp [unlisted]

theorem Evolves.kotlinFiles (evolves : Evolves target fs new) (tree : IsTree fs)
    (other : ∀ location, target location → isKotlin location = false) (order : WalkOrder)
    (directory : Location) :
    new.kotlinFiles order directory = fs.kotlinFiles order directory := by
  have same : new.entries.filterMap (found directory) = fs.entries.filterMap (found directory) := by
    induction evolves with
    | refl => rfl
    | tail _ change ih => exact (change.filterMap_found other directory).trans ih
  rw [kotlinFiles_eq_arrange (evolves.tree tree), kotlinFiles_eq_arrange tree, same]

end

end KotlinDoc.Proofs.Files
