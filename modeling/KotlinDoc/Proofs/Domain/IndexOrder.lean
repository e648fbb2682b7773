import KotlinDoc.Proofs.Domain.IndexGroups
import KotlinDoc.Proofs.Domain.Table
import Mathlib.Data.Multiset.AddSub

/-!
# The module index and the order of reading

The order in which objects were recorded does not show in the module index. Sorting by letter leaves
entries of one letter as they came, but they all go into one group, so the groups have the same
entries (`foldr_addBag_of_perm`); and the texts by which a group is sorted tell its names apart, as
long as no name starts with a digit (`sortedName_sortText`).
-/

namespace KotlinDoc.Proofs.Domain

open ModuleIndex

/-! ## Groups without order -/

def bag (group : IndexGroup) : Option Text × Multiset IndexEntry :=
  (group.letter, group.entries)

def addBag (item : Char × IndexEntry) :
    List (Option Text × Multiset IndexEntry) → List (Option Text × Multiset IndexEntry)
  | [] => [(some (upper item.1), {item.2})]
  | first :: rest =>
    if first.1 = some (upper item.1) then (first.1, item.2 ::ₘ first.2) :: rest
    else (some (upper item.1), {item.2}) :: first :: rest

theorem map_bag_addFirst (item : Char × IndexEntry) (found : List IndexGroup) :
    (addFirst item found).map bag = addBag item (found.map bag) := by
  cases found with
  | nil => rfl
  | cons group rest =>
      rw [addFirst, List.map_cons, addBag]
      split <;> simp_all [bag]

theorem map_bag_groups (items : List (Char × IndexEntry)) :
    (groups items).map bag = items.foldr addBag [] := by
  induction items with
  | nil => rfl
  | cons item items ih => rw [groups_cons, map_bag_addFirst, ih, List.foldr_cons]

theorem addBag_comm {item other : Char × IndexEntry} (same : item.1 = other.1)
    (bags : List (Option Text × Multiset IndexEntry)) :
    addBag item (addBag other bags) = addBag other (addBag item bags) := by
  have pair : item.2 ::ₘ {other.2} = other.2 ::ₘ {item.2} := Multiset.pair_comm _ _
  cases bags with
  | nil => simp [addBag, same, pair]
  | cons first rest =>
      by_cases shared : first.1 = some (upper other.1)
      · simp [addBag, same, shared, Multiset.cons_swap item.2]
      · simp [addBag, same, shared, pair]

theorem foldr_addBag_middle {front : List (Char × IndexEntry)} {item : Char × IndexEntry}
    (same : ∀ other ∈ front, other.1 = item.1) (back : List (Char × IndexEntry)) :
    (front ++ item :: back).foldr addBag [] = (item :: (front ++ back)).foldr addBag [] := by
  induction front with
  | nil => rfl
  | cons other front ih =>
      obtain ⟨here, later⟩ := List.forall_mem_cons.mp same
      rw [List.cons_append, List.foldr_cons, ih later, List.foldr_cons, addBag_comm here]
      rfl

/-- Entries that are sorted by letter fall into the same bags, whatever the order within a letter.
-/
theorem foldr_addBag_of_perm {items others : List (Char × IndexEntry)}
    (sorted : items.Pairwise fun a b => a.1.toNat ≤ b.1.toNat)
    (sorted' : others.Pairwise fun a b => a.1.toNat ≤ b.1.toNat) (same : items.Perm others) :
    items.foldr addBag [] = others.foldr addBag [] := by
  induction items generalizing others with
  | nil => rw [same.nil_eq]
  | cons item items ih =>
      obtain ⟨least, rest⟩ := List.pairwise_cons.mp sorted
      -- What comes before the item in the other list has no smaller and no greater letter.
      obtain ⟨front, back, rfl⟩ := List.append_of_mem (same.mem_iff.mp List.mem_cons_self)
      have remaining : items.Perm (front ++ back) := (same.trans List.perm_middle).cons_inv
      obtain ⟨-, -, before⟩ := List.pairwise_append.mp sorted'
      have letters : ∀ other ∈ front, other.1 = item.1 := by
        intro other member
        have listed : other ∈ items := remaining.mem_iff.mpr (List.mem_append_left _ member)
        have least := least other listed
        have before := before other member item List.mem_cons_self
        exact Char.toNat_inj.mp (by omega)
      have ordered : (front ++ back).Pairwise fun a b => a.1.toNat ≤ b.1.toNat :=
        sorted'.sublist (List.Sublist.append_left (List.sublist_cons_self item back) front)
      rw [foldr_addBag_middle letters, List.foldr_cons, List.foldr_cons, ih rest ordered remaining]

/-! ## Names in order -/

def sortedName (s : Text) : Text :=
  if s.head? = some '0' then s.drop 4 else s

theorem sortedName_sortText {name : Text} (undigited : ∀ c ∈ name.head?, c.isDigit = false) :
    sortedName (sortText name) = name := by
  unfold sortText
  cases leadingType? name with
  | none =>
      apply if_neg
      intro zero
      exact absurd (undigited '0' zero) (by decide)
  | some typed => rfl

section

variable {table : ObjectTable} (keyed : Keyed table)
  (undigited : ∀ object ∈ table.entries, ∀ c ∈ object.1.head?, c.isDigit = false)

include keyed undigited

theorem entry_eq_of_sortText {first second : IndexEntry}
    (member : first ∈ table.entries.map fun object => entry object.1 object.2)
    (member' : second ∈ table.entries.map fun object => entry object.1 object.2)
    (same : sortText first.name = sortText second.name) : first = second := by
  obtain ⟨object, listed, rfl⟩ := List.mem_map.mp member
  obtain ⟨object', listed', rfl⟩ := List.mem_map.mp member'
  have names : object.1 = object'.1 := by
    have named := congrArg sortedName same
    rwa [entry, entry, sortedName_sortText (undigited object listed),
      sortedName_sortText (undigited object' listed')] at named
  rw [List.inj_on_of_nodup_map keyed listed listed' names]

theorem sortGroup_eq_of_perm {entries others : List IndexEntry}
    (members : ∀ entry ∈ entries,
      entry ∈ table.entries.map fun object => ModuleIndex.entry object.1 object.2)
    (same : entries.Perm others) : sortGroup entries = sortGroup others := by
  apply sort_eq_of_perm (fun first second => Text.le (sortText first.name) (sortText second.name))
    (fun _ _ => textLe_total _ _) (fun _ _ _ => textLe_trans) _ same
  intro first member second member' before after
  exact entry_eq_of_sortText keyed undigited (members first member) (members second member')
    (textLe_antisymm before after)

theorem sortedGroup_eq_of_bag {group other : IndexGroup} (same : bag group = bag other)
    (members : ∀ entry ∈ group.entries,
      entry ∈ table.entries.map fun object => ModuleIndex.entry object.1 object.2) :
    sortedGroup group = sortedGroup other := by
  obtain ⟨letters, entries⟩ := Prod.mk.inj same
  unfold sortedGroup
  rw [letters, sortGroup_eq_of_perm keyed undigited members (Multiset.coe_eq_coe.mp entries)]

theorem finished_eq_of_bags {found others : List IndexGroup} (same : found.map bag = others.map bag)
    (members : ∀ group ∈ found, ∀ entry ∈ group.entries,
      entry ∈ table.entries.map fun object => ModuleIndex.entry object.1 object.2) :
    finished found = finished others := by
  have sorted : found.map sortedGroup = others.map sortedGroup := by
    induction found generalizing others with
    | nil => rw [List.map_eq_nil_iff.mp same.symm]
    | cons group found ih =>
        obtain ⟨other, others, rfl, first, rest⟩ := List.map_eq_cons_iff.mp same.symm
        obtain ⟨here, later⟩ := List.forall_mem_cons.mp members
        rw [List.map_cons, List.map_cons, sortedGroup_eq_of_bag keyed undigited first.symm here,
          ih rest.symm later]
  cases found with
  | nil => rw [List.map_eq_nil_iff.mp same.symm]
  | cons group found =>
      obtain ⟨other, others, rfl, -⟩ := List.map_eq_cons_iff.mp same.symm
      exact sorted

end

/-! ## Tables -/

/-- Tables of the same objects, none of whose names starts with a digit, have the same index, or
both have none. -/
theorem generate?_order_irrelevant {table other : ObjectTable} (keyed : Keyed table)
    (undigited : ∀ object ∈ table.entries, ∀ c ∈ object.1.head?, c.isDigit = false)
    (same : table.entries.Perm other.entries) : generate? table = generate? other := by
  rw [generate?_eq, generate?_eq]
  rcases mapM_of_perm lettered? same with ⟨none, none'⟩ | ⟨items, items', found, found', alike⟩
  · rw [none, none']
  have letters : (sortLetters items).Perm (sortLetters items') :=
    ((sortLetters_perm items).trans alike).trans (sortLetters_perm items').symm
  have bags : (groups (sortLetters items)).map bag = (groups (sortLetters items')).map bag := by
    rw [map_bag_groups, map_bag_groups]
    exact foldr_addBag_of_perm (sortLetters_pairwise items) (sortLetters_pairwise items') letters
  have members : ∀ group ∈ groups (sortLetters items), ∀ entry ∈ group.entries,
      entry ∈ table.entries.map fun object => ModuleIndex.entry object.1 object.2 := by
    intro group member entry listed
    have shown : entry ∈ (groups (sortLetters items)).flatMap (·.entries) :=
      List.mem_flatMap.mpr ⟨group, member, listed⟩
    rw [flatMap_groups] at shown
    rw [← (mapM_lettered? found).1]
    exact ((sortLetters_perm items).map Prod.snd).mem_iff.mp shown
  rw [found, found', Option.map_some, Option.map_some,
    finished_eq_of_bags keyed undigited bags members]

theorem palette_keyed : Keyed paletteTable := by
  unfold Keyed
  decide

theorem palette_undigited :
    ∀ object ∈ paletteTable.entries, ∀ c ∈ object.1.head?, c.isDigit = false := by
  have checked : (paletteTable.entries.all fun object =>
      object.1.head?.all fun c => !c.isDigit) = true := by decide
  intro object listed c first
  have undigited := (Option.all_eq_true _ _).mp (List.all_eq_true.mp checked object listed) c first
  simpa using undigited

theorem generate?_order_irrelevant_palette :
    Keyed paletteTable ∧
    (∀ object ∈ paletteTable.entries, ∀ c ∈ object.1.head?, c.isDigit = false) ∧
    paletteTable.entries.Perm paletteTable.entries.reverse ∧
    generate? paletteTable = generate? ⟨paletteTable.entries.reverse⟩ := by
  have same : paletteTable.entries.Perm paletteTable.entries.reverse :=
    (List.reverse_perm _).symm
  exact ⟨palette_keyed, palette_undigited, same,
    generate?_order_irrelevant palette_keyed palette_undigited same⟩

end KotlinDoc.Proofs.Domain
