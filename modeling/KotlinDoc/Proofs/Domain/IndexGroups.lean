import KotlinDoc.Domain.ModuleIndex
import KotlinDoc.Proofs.Sorting
import KotlinDoc.Proofs.Traversal
import Mathlib.Data.List.Perm.Basic

namespace KotlinDoc.Proofs.Domain

open ModuleIndex

def addFirst (item : Char × IndexEntry) : List IndexGroup → List IndexGroup
  | [] => [⟨some (upper item.1), [item.2]⟩]
  | group :: rest =>
    if group.letter = some (upper item.1) then
      { group with entries := item.2 :: group.entries } :: rest
    else ⟨some (upper item.1), [item.2]⟩ :: group :: rest

theorem groups_cons (item : Char × IndexEntry) (items : List (Char × IndexEntry)) :
    groups (item :: items) = addFirst item (groups items) := by
  rw [groups, addFirst.eq_def]
  cases groups items <;> simp

theorem flatMap_addFirst (item : Char × IndexEntry) (found : List IndexGroup) :
    (addFirst item found).flatMap (·.entries) = item.2 :: found.flatMap (·.entries) := by
  cases found with
  | nil => simp [addFirst]
  | cons group rest =>
      rw [addFirst]
      split <;> simp

theorem flatMap_groups (items : List (Char × IndexEntry)) :
    (groups items).flatMap (·.entries) = items.map Prod.snd := by
  induction items with
  | nil => rfl
  | cons item items ih => rw [groups_cons, flatMap_addFirst, ih, List.map_cons]

def Lettered (item : Char × IndexEntry) : Prop :=
  letter? item.2.anchor = some item.1

structure OneLetter (group : IndexGroup) : Prop where
  filled : group.entries ≠ []
  shared : ∀ entry ∈ group.entries, ∃ c, letter? entry.anchor = some c ∧ group.letter = some (upper c)

theorem oneLetter_addFirst {item : Char × IndexEntry} (lettered : Lettered item)
    {found : List IndexGroup} (each : ∀ group ∈ found, OneLetter group) :
    ∀ group ∈ addFirst item found, OneLetter group := by
  have single : OneLetter ⟨some (upper item.1), [item.2]⟩ := by
    refine ⟨by simp, ?_⟩
    intro entry member
    rw [List.mem_singleton.mp member]
    exact ⟨item.1, lettered, rfl⟩
  cases found with
  | nil => simpa [addFirst] using single
  | cons first rest =>
      obtain ⟨here, later⟩ := List.forall_mem_cons.mp each
      rw [addFirst]
      split
      · rename_i same
        have own : ∃ c, letter? item.2.anchor = some c ∧ first.letter = some (upper c) :=
          ⟨item.1, lettered, same⟩
        exact List.forall_mem_cons.mpr
          ⟨⟨by simp, List.forall_mem_cons.mpr ⟨own, here.shared⟩⟩, later⟩
      · exact List.forall_mem_cons.mpr ⟨single, each⟩

theorem oneLetter_groups {items : List (Char × IndexEntry)} (lettered : ∀ item ∈ items, Lettered item) :
    ∀ group ∈ groups items, OneLetter group := by
  induction items with
  | nil => simp [groups]
  | cons item items ih =>
      obtain ⟨here, later⟩ := List.forall_mem_cons.mp lettered
      rw [groups_cons]
      exact oneLetter_addFirst here (ih later)

def Precedes (first second : IndexEntry) : Prop :=
  ∀ c ∈ letter? first.anchor, ∀ d ∈ letter? second.anchor, c.toNat ≤ d.toNat

theorem sortLetters_perm (items : List (Char × IndexEntry)) : (sortLetters items).Perm items :=
  Sorting.sort_perm _ items

theorem sortLetters_pairwise (items : List (Char × IndexEntry)) :
    (sortLetters items).Pairwise fun a b => a.1.toNat ≤ b.1.toNat := by
  have total (a b : Char × IndexEntry) :
      decide (a.1.toNat ≤ b.1.toNat) = true ∨ decide (b.1.toNat ≤ a.1.toNat) = true :=
    (Nat.le_total _ _).imp decide_eq_true decide_eq_true
  have trans (a b c : Char × IndexEntry) (first : decide (a.1.toNat ≤ b.1.toNat) = true)
      (second : decide (b.1.toNat ≤ c.1.toNat) = true) : decide (a.1.toNat ≤ c.1.toNat) = true :=
    decide_eq_true ((of_decide_eq_true first).trans (of_decide_eq_true second))
  exact (sort_pairwise _ total trans items).imp of_decide_eq_true

theorem precedes_groups {items : List (Char × IndexEntry)} (lettered : ∀ item ∈ items, Lettered item)
    (sorted : items.Pairwise fun a b => a.1.toNat ≤ b.1.toNat) :
    (groups items).Pairwise fun earlier later =>
      ∀ first ∈ earlier.entries, ∀ second ∈ later.entries, Precedes first second := by
  have entries : ((groups items).flatMap (·.entries)).Pairwise Precedes := by
    rw [flatMap_groups, List.pairwise_map]
    apply sorted.imp_of_mem
    intro a b first second less c own d other
    have same : a.1 = c := Option.some.inj ((lettered a first).symm.trans own)
    have same' : b.1 = d := Option.some.inj ((lettered b second).symm.trans other)
    rwa [← same, ← same']
  exact (List.pairwise_flatMap.mp entries).2

theorem mapM_lettered? {objects : List (Text × ObjectEntry)} {items : List (Char × IndexEntry)}
    (found : objects.mapM lettered? = some items) :
    items.map Prod.snd = objects.map (fun object => entry object.1 object.2) ∧
      ∀ item ∈ items, Lettered item := by
  induction mapM_eq_some_iff.mp found with
  | nil => simp
  | cons first later ih =>
      obtain ⟨c, own, rfl⟩ := Option.map_eq_some_iff.mp first
      obtain ⟨entries, lettered⟩ := ih (mapM_eq_some_iff.mpr later)
      exact ⟨by simp [entries], List.forall_mem_cons.mpr ⟨own, lettered⟩⟩

theorem sortGroup_perm (entries : List IndexEntry) : (sortGroup entries).Perm entries :=
  Sorting.sort_perm _ entries

theorem sortGroup_pairwise (entries : List IndexEntry) :
    (sortGroup entries).Pairwise fun a b => Text.le (sortText a.name) (sortText b.name) = true :=
  sort_pairwise (fun a b => Text.le (sortText a.name) (sortText b.name))
    (fun _ _ => textLe_total _ _) (fun _ _ _ => textLe_trans) entries

def sortedGroup (group : IndexGroup) : IndexGroup :=
  { group with entries := sortGroup group.entries }

def finished : List IndexGroup → List IndexGroup
  | [] => [⟨none, []⟩]
  | found => found.map sortedGroup

theorem generate?_eq (table : ObjectTable) :
    generate? table =
      (table.entries.mapM lettered?).map fun items => finished (groups (sortLetters items)) :=
  rfl

structure IsIndex (table : ObjectTable) (index : List IndexGroup) : Prop where
  entries : (index.flatMap (·.entries)).Perm (table.entries.map fun (name, object) =>
    { name := name, level := 0, document := object.document, anchor := object.anchor,
      type := object.type.map fun c => if c == '_' then ' ' else c,
      qualifier := [], description := [] })
  filled : ∀ group ∈ index, group.entries = [] → table.entries = []
  lettered : ∀ group ∈ index, ∀ entry ∈ group.entries,
    ∃ c, letter? entry.anchor = some c ∧ group.letter = some (upper c)
  ordered : index.Pairwise fun earlier later =>
    ∀ first ∈ earlier.entries, ∀ second ∈ later.entries, Precedes first second
  sorted : ∀ group ∈ index, group.entries.Pairwise fun first second =>
    Text.le (sortText first.name) (sortText second.name) = true

theorem isIndex_sorted {table : ObjectTable} {found : List IndexGroup}
    (entries : (found.flatMap (·.entries)).Perm
      (table.entries.map fun object => entry object.1 object.2))
    (each : ∀ group ∈ found, OneLetter group)
    (ordered : found.Pairwise fun earlier later =>
      ∀ first ∈ earlier.entries, ∀ second ∈ later.entries, Precedes first second) :
    IsIndex table (found.map sortedGroup) where
  entries := by
    rw [List.flatMap_map]
    exact (List.Perm.flatMap_left _ fun group _ => sortGroup_perm group.entries).trans entries
  filled := by
    rw [List.forall_mem_map]
    intro group member empty
    have same := sortGroup_perm group.entries
    change sortGroup group.entries = [] at empty
    rw [empty] at same
    exact absurd same.nil_eq.symm (each group member).filled
  lettered := by
    rw [List.forall_mem_map]
    intro group member entry listed
    exact (each group member).shared entry ((sortGroup_perm _).mem_iff.mp listed)
  ordered := by
    rw [List.pairwise_map]
    apply ordered.imp
    intro earlier later before first listed second listed'
    exact before first ((sortGroup_perm _).mem_iff.mp listed) second
      ((sortGroup_perm _).mem_iff.mp listed')
  sorted := by
    rw [List.forall_mem_map]
    intro group _
    exact sortGroup_pairwise group.entries

theorem isIndex_nil {table : ObjectTable} (empty : table.entries = []) :
    IsIndex table [⟨none, []⟩] := by
  constructor <;> simp [empty]

/-- The module index has every object once, in groups by letter that are sorted by type and name. -/
theorem generate?_isIndex {table : ObjectTable} {index : List IndexGroup}
    (generated : generate? table = some index) : IsIndex table index := by
  rw [generate?_eq] at generated
  obtain ⟨items, found, rfl⟩ := Option.map_eq_some_iff.mp generated
  obtain ⟨entries, lettered⟩ := mapM_lettered? found
  have sorted := sortLetters_perm items
  have all : ((groups (sortLetters items)).flatMap (·.entries)).Perm
      (table.entries.map fun object => entry object.1 object.2) := by
    rw [flatMap_groups, ← entries]
    exact sorted.map Prod.snd
  have own : ∀ item ∈ sortLetters items, Lettered item :=
    fun item member => lettered item (sorted.mem_iff.mp member)
  have index := isIndex_sorted all (oneLetter_groups own)
    (precedes_groups own (sortLetters_pairwise items))
  cases made : groups (sortLetters items) with
  | nil =>
      rw [made] at all
      exact isIndex_nil (List.map_eq_nil_iff.mp all.nil_eq.symm)
  | cons group rest =>
      rw [made] at index
      exact index

def paletteTable : ObjectTable :=
  ⟨[("blend()", ⟨"mix", "fun", "blend()"⟩),
    ("Apple.area()", ⟨"apple", "fun", "Apple.area()-Int"⟩),
    ("enum_class Blend", ⟨"mix", "enum_class", "enum_class Blend"⟩),
    ("class Apple", ⟨"apple", "class", "class Apple"⟩)]⟩

def paletteIndex : List IndexGroup :=
  [⟨some "A", [⟨"class Apple", 0, "apple", "class Apple", "class", [], []⟩,
      ⟨"Apple.area()", 0, "apple", "Apple.area()-Int", "fun", [], []⟩]⟩,
    ⟨some "B", [⟨"enum_class Blend", 0, "mix", "enum_class Blend", "enum class", [], []⟩,
      ⟨"blend()", 0, "mix", "blend()", "fun", [], []⟩]⟩]

theorem generate?_isIndex_palette :
    generate? paletteTable = some paletteIndex ∧ IsIndex paletteTable paletteIndex := by
  have generated : generate? paletteTable = some paletteIndex := by decide +kernel
  exact ⟨generated, generate?_isIndex generated⟩

end KotlinDoc.Proofs.Domain
