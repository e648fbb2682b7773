import KotlinDoc.Files.FileSystem
import KotlinDoc.Proofs.Lookup
import Mathlib.Data.List.Induction
import Mathlib.Logic.Relation

/-!
# Trees of files

A file system is a tree if every location occurs once and lies in a directory. The changes of a file
system are few: a directory is made where nothing was, or a file is written where no directory is,
in a directory in both cases. `Evolves` says that changes lead from one file system to another and
write files at certain locations only. Each change keeps a tree a tree, keeps its directories, and
keeps the files elsewhere, so a chain of changes does.
-/

namespace KotlinDoc.Proofs.Files

structure IsName (name : Text) : Prop where
  nonempty : name ≠ []
  slashless : '/' ∉ name
  notHere : name ≠ Path.here
  notUp : name ≠ Path.up

def IsLocation (location : Location) : Prop :=
  ∀ name ∈ location, IsName name

structure IsTree (fs : FileSystem) : Prop where
  keyed : (fs.entries.map Prod.fst).Nodup
  named : ∀ entry ∈ fs.entries, IsLocation entry.1
  rooted : ∀ entry ∈ fs.entries, entry.1 ≠ [] ∧ fs.isDirectory entry.1.dropLast = true

instance (name : Text) : Decidable (IsName name) :=
  decidable_of_iff (name ≠ [] ∧ '/' ∉ name ∧ name ≠ Path.here ∧ name ≠ Path.up)
    ⟨fun ⟨a, b, c, d⟩ => ⟨a, b, c, d⟩, fun ⟨a, b, c, d⟩ => ⟨a, b, c, d⟩⟩

instance (location : Location) : Decidable (IsLocation location) :=
  inferInstanceAs (Decidable (∀ name ∈ location, IsName name))

instance (fs : FileSystem) : Decidable (IsTree fs) :=
  decidable_of_iff ((fs.entries.map Prod.fst).Nodup ∧ (∀ entry ∈ fs.entries, IsLocation entry.1) ∧
      ∀ entry ∈ fs.entries, entry.1 ≠ [] ∧ fs.isDirectory entry.1.dropLast = true)
    ⟨fun ⟨a, b, c⟩ => ⟨a, b, c⟩, fun ⟨a, b, c⟩ => ⟨a, b, c⟩⟩

/-! ## Nodes -/

theorem isDirectory_iff {fs : FileSystem} {location : Location} :
    fs.isDirectory location = true ↔ fs.node? location = some .directory := by
  unfold FileSystem.isDirectory
  split
  · rename_i found
    simp [found]
  · rename_i other
    simpa using other

theorem ne_nil_of_free {fs : FileSystem} {location : Location}
    (free : fs.isDirectory location = false) : location ≠ [] := by
  rintro rfl
  cases free

theorem isDirectory_of_none {fs : FileSystem} {location : Location}
    (free : fs.node? location = none) : fs.isDirectory location = false := by
  rw [Bool.eq_false_iff, ne_eq, isDirectory_iff, free]
  nofun

theorem set_entries (fs : FileSystem) (location : Location) (node : Node) :
    (fs.set location node).entries = upsert fs.entries location node := by
  unfold FileSystem.set upsert
  split <;> rfl

theorem node?_eq_lookup (fs : FileSystem) {location : Location} (below : location ≠ []) :
    fs.node? location = fs.entries.lookup location := by
  unfold FileSystem.node?
  rw [if_neg (by simpa using below)]

theorem node?_set (fs : FileSystem) {location : Location} (below : location ≠ []) (node : Node)
    (other : Location) :
    (fs.set location node).node? other = if other = location then some node else fs.node? other := by
  by_cases root : other = []
  · subst root
    rw [if_neg (Ne.symm below)]
    rfl
  · rw [node?_eq_lookup _ root, node?_eq_lookup _ root, set_entries, lookup_upsert]

theorem set_eq_self {fs : FileSystem} (tree : IsTree fs) {location : Location}
    (below : location ≠ []) {node : Node} (there : fs.node? location = some node) :
    fs.set location node = fs := by
  rw [node?_eq_lookup _ below] at there
  have entries := set_entries fs location node
  rw [upsert_eq_self tree.keyed there] at entries
  cases fs
  exact congrArg FileSystem.mk entries

namespace IsTree

variable {fs : FileSystem}

theorem mem_entries (tree : IsTree fs) {location : Location} (below : location ≠ []) {node : Node}
    (there : fs.node? location = some node) : (location, node) ∈ fs.entries := by
  rw [node?_eq_lookup _ below] at there
  exact (lookup_eq_some_iff_mem tree.keyed location node).mp there

theorem isLocation (tree : IsTree fs) {location : Location} {node : Node}
    (there : fs.node? location = some node) : IsLocation location := by
  by_cases root : location = []
  · subst root
    exact fun _ member => absurd member List.not_mem_nil
  · exact tree.named _ (tree.mem_entries root there)

theorem parent (tree : IsTree fs) {location : Location} {node : Node}
    (there : fs.node? location = some node) : fs.isDirectory location.dropLast = true := by
  by_cases root : location = []
  · subst root
    rfl
  · exact (tree.rooted _ (tree.mem_entries root there)).2

theorem above (tree : IsTree fs) {location : Location} {names : List Text} (deeper : names ≠ [])
    {node : Node} (there : fs.node? (location ++ names) = some node) :
    fs.isDirectory location = true := by
  induction names using List.reverseRecOn generalizing node with
  | nil => exact absurd rfl deeper
  | append_singleton names name ih =>
      have parent := tree.parent there
      rw [← List.append_assoc, List.dropLast_concat] at parent
      by_cases last : names = []
      · rwa [last, List.append_nil] at parent
      · exact ih last (isDirectory_iff.mp parent)

theorem set (tree : IsTree fs) {location : Location} (named : IsLocation location)
    (within : fs.isDirectory location.dropLast = true) (free : fs.isDirectory location = false)
    (node : Node) : IsTree (fs.set location node) := by
  have below := ne_nil_of_free free
  refine ⟨?_, ?_, ?_⟩
  · rw [set_entries]
    exact nodup_keys_upsert tree.keyed location node
  · intro entry member
    rw [set_entries] at member
    rcases mem_upsert member with old | rfl
    · exact tree.named entry old
    · exact named
  · -- No entry lies right below the location, where there was no directory.
    have kept : ∀ other, fs.isDirectory other = true →
      (fs.set location node).isDirectory other = true := by
      intro other directory
      rw [isDirectory_iff, node?_set fs below, if_neg, isDirectory_iff.mp directory]
      rintro rfl
      rw [directory] at free
      cases free
    intro entry member
    rw [set_entries] at member
    rcases mem_upsert member with old | rfl
    · exact ⟨(tree.rooted entry old).1, kept _ (tree.rooted entry old).2⟩
    · exact ⟨below, kept _ within⟩

end IsTree

/-! ## Changes -/

inductive Change (target : Location → Prop) (fs : FileSystem) : FileSystem → Prop where
  | directory {location : Location} (named : IsLocation location)
      (within : fs.isDirectory location.dropLast = true) (free : fs.node? location = none) :
      Change target fs (fs.set location .directory)
  | file {location : Location} (aimed : target location) (named : IsLocation location)
      (within : fs.isDirectory location.dropLast = true) (free : fs.isDirectory location = false)
      (bytes : ByteArray) :
      Change target fs (fs.set location (.file bytes))

abbrev Evolves (target : Location → Prop) : FileSystem → FileSystem → Prop :=
  Relation.ReflTransGen (Change target)

section

variable {target other : Location → Prop} {fs new : FileSystem}

theorem Change.tree (change : Change target fs new) (tree : IsTree fs) : IsTree new := by
  cases change with
  | directory named within free => exact tree.set named within (isDirectory_of_none free) _
  | file _ named within free bytes => exact tree.set named within free _

theorem Change.isDirectory (change : Change target fs new) {location : Location}
    (directory : fs.isDirectory location = true) : new.isDirectory location = true := by
  cases change with
  | directory named within free =>
      rw [isDirectory_iff, node?_set fs (ne_nil_of_free (isDirectory_of_none free))]
      split
      · rfl
      · exact isDirectory_iff.mp directory
  | file _ named within free bytes =>
      rw [isDirectory_iff, node?_set fs (ne_nil_of_free free), if_neg]
      · exact isDirectory_iff.mp directory
      · rintro rfl
        rw [directory] at free
        cases free

theorem Change.file_iff (change : Change target fs new) {location : Location}
    (missed : ¬ target location) (bytes : ByteArray) :
    new.node? location = some (.file bytes) ↔ fs.node? location = some (.file bytes) := by
  cases change with
  | directory named within free =>
      rw [node?_set fs (ne_nil_of_free (isDirectory_of_none free))]
      split
      · rename_i same
        rw [same, free]
        simp
      · rfl
  | file aimed named within free written =>
      rw [node?_set fs (ne_nil_of_free free), if_neg]
      rintro rfl
      exact missed aimed

theorem Change.exists_file (change : Change target fs new) {location : Location}
    (there : ∃ bytes, fs.node? location = some (.file bytes)) :
    ∃ bytes, new.node? location = some (.file bytes) := by
  obtain ⟨bytes, there⟩ := there
  cases change with
  | directory named within free =>
      refine ⟨bytes, ?_⟩
      rw [node?_set fs (ne_nil_of_free (isDirectory_of_none free)), if_neg, there]
      rintro rfl
      rw [there] at free
      cases free
  | file aimed named within free written =>
      rw [node?_set fs (ne_nil_of_free free)]
      split
      · exact ⟨written, rfl⟩
      · exact ⟨bytes, there⟩

theorem Change.mono (wider : ∀ location, target location → other location)
    (change : Change target fs new) : Change other fs new := by
  cases change with
  | directory named within free => exact .directory named within free
  | file aimed named within free bytes => exact .file (wider _ aimed) named within free bytes

theorem Evolves.mono (wider : ∀ location, target location → other location)
    (evolves : Evolves target fs new) : Evolves other fs new :=
  Relation.ReflTransGen.mono (fun _ _ => Change.mono wider) _ _ evolves

theorem Evolves.tree (evolves : Evolves target fs new) (tree : IsTree fs) : IsTree new := by
  induction evolves with
  | refl => exact tree
  | tail _ change ih => exact change.tree ih

theorem Evolves.isDirectory (evolves : Evolves target fs new) {location : Location}
    (directory : fs.isDirectory location = true) : new.isDirectory location = true := by
  induction evolves with
  | refl => exact directory
  | tail _ change ih => exact change.isDirectory ih

theorem Evolves.file_iff (evolves : Evolves target fs new) {location : Location}
    (missed : ¬ target location) (bytes : ByteArray) :
    new.node? location = some (.file bytes) ↔ fs.node? location = some (.file bytes) := by
  induction evolves with
  | refl => rfl
  | tail _ change ih => exact (change.file_iff missed bytes).trans ih

theorem Evolves.exists_file (evolves : Evolves target fs new) {location : Location}
    (there : ∃ bytes, fs.node? location = some (.file bytes)) :
    ∃ bytes, new.node? location = some (.file bytes) := by
  induction evolves with
  | refl => exact there
  | tail _ change ih => exact change.exists_file ih

end

end KotlinDoc.Proofs.Files
