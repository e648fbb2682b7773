import KotlinDoc.Proofs.Domain.IndexOrder
import Mathlib.Data.List.Chain

namespace KotlinDoc.Proofs.Domain

open ModuleIndex

theorem head?_letters_groups (item : Char × IndexEntry) (items : List (Char × IndexEntry)) :
    ((groups (item :: items)).map (·.letter)).head? = some (some (upper item.1)) := by
  rw [groups_cons]
  cases groups items with
  | nil => rfl
  | cons group rest =>
      rw [addFirst]
      split
      · rename_i same
        simpa using same
      · rfl

theorem letters_groups_cons_cons (item other : Char × IndexEntry) (items : List (Char × IndexEntry)) :
    (groups (item :: other :: items)).map (·.letter) =
      if upper item.1 = upper other.1 then (groups (other :: items)).map (·.letter)
      else some (upper item.1) :: (groups (other :: items)).map (·.letter) := by
  have first := head?_letters_groups other items
  rw [groups_cons item]
  cases made : groups (other :: items) with
  | nil => simp [made] at first
  | cons group rest =>
      have letter : group.letter = some (upper other.1) := by simpa [made] using first
      rw [addFirst, letter]
      by_cases same : upper item.1 = upper other.1 <;> simp [same, letter, eq_comm]

theorem isChain_letters_groups (items : List (Char × IndexEntry)) :
    ((groups items).map (·.letter)).IsChain (· ≠ ·) := by
  induction items with
  | nil => exact List.IsChain.nil
  | cons item items ih =>
      cases items with
      | nil => exact List.IsChain.singleton _
      | cons other items =>
          rw [letters_groups_cons_cons]
          split
          · exact ih
          · rename_i different
            refine ih.cons ?_
            intro letter first
            rw [head?_letters_groups] at first
            cases first
            simpa using different

theorem mem_letters_groups {letter : Option Text} {items : List (Char × IndexEntry)} :
    letter ∈ (groups items).map (·.letter) ↔ ∃ c ∈ items.map Prod.fst, some (upper c) = letter := by
  induction items with
  | nil => simp [groups]
  | cons item items ih =>
      rw [List.map_cons, List.exists_mem_cons_iff]
      cases items with
      | nil => simp [groups, eq_comm]
      | cons other items =>
          rw [letters_groups_cons_cons, ← ih]
          split
          · rename_i same
            rw [same, ih]
            simp
          · rw [List.mem_cons, eq_comm]

/-- Between two letters of one capital, by code point, there is none of another capital. -/
def Gathered (letters : List Char) : Prop :=
  ∀ first ∈ letters, ∀ middle ∈ letters, ∀ last ∈ letters,
    first.toNat ≤ middle.toNat → middle.toNat ≤ last.toNat →
      upper first = upper last → upper middle = upper first

theorem gathered_of_subset {letters more : List Char} (gathered : Gathered more)
    (subset : letters ⊆ more) : Gathered letters :=
  fun first here middle there last beyond =>
    gathered first (subset here) middle (subset there) last (subset beyond)

theorem gathered_iff_of_perm {letters others : List Char} (same : letters.Perm others) :
    Gathered letters ↔ Gathered others :=
  ⟨fun gathered => gathered_of_subset gathered same.symm.subset,
    fun gathered => gathered_of_subset gathered same.subset⟩

theorem gathered_cons_cons {c d : Char} {letters : List Char}
    (sorted : (c :: d :: letters).Pairwise fun a b => a.toNat ≤ b.toNat) :
    Gathered (c :: d :: letters) ↔ Gathered (d :: letters) ∧
      (upper c = upper d ∨ ∀ e ∈ d :: letters, upper e ≠ upper c) := by
  obtain ⟨least, rest⟩ := List.pairwise_cons.mp sorted
  have next : ∀ e ∈ d :: letters, d.toNat ≤ e.toNat :=
    List.forall_mem_cons.mpr ⟨Nat.le_refl _, (List.pairwise_cons.mp rest).1⟩
  constructor
  · intro gathered
    refine ⟨gathered_of_subset gathered (List.subset_cons_self _ _), ?_⟩
    rw [or_iff_not_imp_left]
    intro different e member same
    exact different (gathered c List.mem_cons_self d (by simp) e (List.mem_cons_of_mem _ member)
      (least d List.mem_cons_self) (next e member) same.symm).symm
  · rintro ⟨gathered, capital⟩ first here middle there last beyond
    -- A letter that does not come after the first one is the first one.
    have start {e : Char} (member : e ∈ c :: d :: letters) (before : e.toNat ≤ c.toNat) : e = c := by
      rcases List.mem_cons.mp member with same | later
      · exact same
      · exact Char.toNat_inj.mp (Nat.le_antisymm before (least e later))
    intro low high same
    rcases List.mem_cons.mp there with rfl | later
    · rw [start here low]
    rcases List.mem_cons.mp beyond with rfl | ending
    · rw [start there high, same]
    rcases List.mem_cons.mp here with rfl | early
    · rcases capital with shared | own
      · rw [shared]
        exact gathered d List.mem_cons_self middle later last ending (next middle later) high
          (shared.symm.trans same)
      · exact absurd same.symm (own last ending)
    · exact gathered first early middle later last ending low high same

theorem nodup_letters_groups_iff {items : List (Char × IndexEntry)}
    (sorted : items.Pairwise fun a b => a.1.toNat ≤ b.1.toNat) :
    ((groups items).map (·.letter)).Nodup ↔ Gathered (items.map Prod.fst) := by
  induction items with
  | nil => simp [groups, Gathered]
  | cons item items ih =>
      cases items with
      | nil => simp [groups, Gathered]
      | cons other items =>
          have letters : ((item :: other :: items).map Prod.fst).Pairwise fun a b =>
              a.toNat ≤ b.toNat := List.pairwise_map.mpr sorted
          rw [letters_groups_cons_cons, List.map_cons, List.map_cons,
            gathered_cons_cons (by simpa using letters)]
          have rest := ih (List.pairwise_cons.mp sorted).2
          rw [List.map_cons] at rest
          by_cases same : upper item.1 = upper other.1
          · simp [same, rest]
          · rw [if_neg same, List.nodup_cons, rest, mem_letters_groups, and_comm]
            simp [same]

def objectLetters (table : ObjectTable) : List Char :=
  table.entries.filterMap fun object => letter? object.2.anchor

theorem map_fst_of_lettered? {table : ObjectTable} {items : List (Char × IndexEntry)}
    (found : table.entries.mapM lettered? = some items) :
    items.map Prod.fst = objectLetters table := by
  rw [mapM_eq_ite] at found
  split at found
  · cases found
    rw [List.map_filterMap]
    simp [objectLetters, lettered?, Function.comp_def]
  · cases found

theorem map_letter_sortedGroup (found : List IndexGroup) :
    (found.map sortedGroup).map (·.letter) = found.map (·.letter) := by
  simp [sortedGroup]

/-- Neighbouring groups of an index have different letters. No two groups have the same one just if
no object has a letter that lies between two of another capital. -/
theorem index_letters_nodup_iff {table : ObjectTable} {index : List IndexGroup}
    (generated : generate? table = some index) :
    (index.map (·.letter)).IsChain (· ≠ ·) ∧
      ((index.map (·.letter)).Nodup ↔ Gathered (objectLetters table)) := by
  rw [generate?_eq] at generated
  obtain ⟨items, found, rfl⟩ := Option.map_eq_some_iff.mp generated
  have letters : ((sortLetters items).map Prod.fst).Perm (objectLetters table) := by
    rw [← map_fst_of_lettered? found]
    exact (sortLetters_perm items).map Prod.fst
  have chain := isChain_letters_groups (sortLetters items)
  have nodup := nodup_letters_groups_iff (sortLetters_pairwise items)
  rw [gathered_iff_of_perm letters] at nodup
  cases made : groups (sortLetters items) with
  | nil =>
      rw [made] at nodup
      exact ⟨List.IsChain.singleton _, by simpa [finished] using nodup⟩
  | cons group rest =>
      rw [made] at chain nodup
      rw [finished, map_letter_sortedGroup]
      · exact ⟨chain, nodup⟩
      · simp

def orchardTable : ObjectTable :=
  ⟨[("class Apple", ⟨"fruit", "class", "class Apple"⟩),
    ("apple()", ⟨"fruit", "fun", "apple()-Apple"⟩),
    ("interface Bush", ⟨"plants", "interface", "interface Bush"⟩)]⟩

def orchardIndex : List IndexGroup :=
  [⟨some "A", [⟨"class Apple", 0, "fruit", "class Apple", "class", [], []⟩]⟩,
    ⟨some "B", [⟨"interface Bush", 0, "plants", "interface Bush", "interface", [], []⟩]⟩,
    ⟨some "A", [⟨"apple()", 0, "fruit", "apple()-Apple", "fun", [], []⟩]⟩]

theorem index_letters_nodup_iff_orchard :
    (generate? orchardTable = some orchardIndex ∧ ¬ (orchardIndex.map (·.letter)).Nodup) ∧
    (generate? paletteTable = some paletteIndex ∧ Gathered (objectLetters paletteTable)) := by
  have orchard : generate? orchardTable = some orchardIndex := by decide +kernel
  have palette : generate? paletteTable = some paletteIndex := by decide +kernel
  have letters : objectLetters orchardTable = ['A', 'a', 'B'] := by decide +kernel
  refine ⟨⟨orchard, fun nodup => ?_⟩, palette, ?_⟩
  · have gathered := (index_letters_nodup_iff orchard).2.mp nodup
    rw [letters] at gathered
    have same := gathered 'A' (by simp) 'B' (by simp) 'a' (by simp) (by decide) (by decide)
      (by decide +kernel)
    exact absurd same (by decide +kernel)
  · exact (index_letters_nodup_iff palette).2.mp (by decide +kernel)

end KotlinDoc.Proofs.Domain
