import Mathlib.Data.List.Nodup

namespace KotlinDoc.Proofs

section

variable {α β : Type} [BEq α]

def upsert (entries : List (α × β)) (key : α) (value : β) : List (α × β) :=
  if (entries.lookup key).isSome then
    entries.map fun old => if old.1 == key then (key, value) else old
  else entries ++ [(key, value)]

theorem mem_upsert {entries : List (α × β)} {key : α} {value : β} {item : α × β}
    (member : item ∈ upsert entries key value) : item ∈ entries ∨ item = (key, value) := by
  unfold upsert at member
  split at member
  · obtain ⟨old, mem, rfl⟩ := List.mem_map.mp member
    split
    · exact Or.inr rfl
    · exact Or.inl mem
  · simpa using member

variable [LawfulBEq α]

theorem lookup_replace [DecidableEq α] (entries : List (α × β)) (key other : α) (value : β) :
    (entries.map fun old => if old.1 == key then (key, value) else old).lookup other =
      if other = key then (entries.lookup key).map fun _ => value else entries.lookup other := by
  induction entries with
  | nil => simp
  | cons old entries ih =>
      obtain ⟨name, before⟩ := old
      by_cases same : name = key
      · subst same
        by_cases found : other = name
        · simp [found]
        · simpa [List.lookup_cons, found, beq_false_of_ne found] using ih
      · by_cases found : other = name
        · subst found
          simp [same]
        · rw [List.map_cons, if_neg (by simpa using same), List.lookup_cons, ih,
            beq_false_of_ne found]
          simp [List.lookup_cons, beq_false_of_ne found, beq_false_of_ne (Ne.symm same)]

theorem lookup_upsert [DecidableEq α] (entries : List (α × β)) (key other : α) (value : β) :
    (upsert entries key value).lookup other =
      if other = key then some value else entries.lookup other := by
  unfold upsert
  split
  · rename_i recorded
    obtain ⟨old, found⟩ := Option.isSome_iff_exists.mp recorded
    rw [lookup_replace, found]
    rfl
  · rename_i absent
    rw [List.lookup_append]
    by_cases same : other = key
    · simp [same, Option.not_isSome_iff_eq_none.mp absent]
    · simp [same, beq_false_of_ne same, List.lookup_cons]

theorem keys_replace (entries : List (α × β)) (key : α) (value : β) :
    (entries.map fun old => if old.1 == key then (key, value) else old).map Prod.fst =
      entries.map Prod.fst := by
  rw [List.map_map]
  apply List.map_congr_left
  intro old _
  by_cases same : old.1 = key <;> simp [same]

theorem nodup_keys_upsert {entries : List (α × β)} (keyed : (entries.map Prod.fst).Nodup) (key : α)
    (value : β) : ((upsert entries key value).map Prod.fst).Nodup := by
  unfold upsert
  split
  · rw [keys_replace]
    exact keyed
  · rename_i absent
    have fresh : key ∉ entries.map Prod.fst := by
      intro recorded
      obtain ⟨item, member, rfl⟩ := List.mem_map.mp recorded
      exact absent (List.lookup_isSome_iff.mpr ⟨item, member, beq_self_eq_true _⟩)
    rw [List.map_append]
    exact List.Nodup.append keyed (List.nodup_singleton _) (by simpa using fresh)

theorem lookup_eq_some_iff_mem {entries : List (α × β)} (keyed : (entries.map Prod.fst).Nodup)
    (key : α) (value : β) : entries.lookup key = some value ↔ (key, value) ∈ entries := by
  constructor
  · intro found
    obtain ⟨before, after, split, -⟩ := List.lookup_eq_some_iff.mp found
    rw [split]
    simp
  · intro member
    obtain ⟨before, after, split⟩ := List.append_of_mem member
    refine List.lookup_eq_some_iff.mpr ⟨before, after, split, fun other mem => ?_⟩
    -- An earlier pair with the same key would be a second one.
    have distinct : key ∉ before.map Prod.fst := by
      rw [split, List.map_append, List.map_cons] at keyed
      exact fun again => (List.nodup_append.mp keyed).2.2 _ again _ List.mem_cons_self rfl
    simp only [bne_iff_ne]
    rintro rfl
    exact distinct (List.mem_map_of_mem mem)

theorem upsert_eq_self {entries : List (α × β)} (keyed : (entries.map Prod.fst).Nodup) {key : α}
    {value : β} (recorded : entries.lookup key = some value) :
    upsert entries key value = entries := by
  unfold upsert
  rw [if_pos (by rw [recorded]; rfl)]
  conv_rhs => rw [← List.map_id entries]
  apply List.map_congr_left
  intro old member
  split
  · rename_i same
    obtain rfl := eq_of_beq same
    have here := (lookup_eq_some_iff_mem keyed old.1 old.2).mpr member
    rw [recorded] at here
    rw [Option.some.inj here]
    rfl
  · rfl

end

end KotlinDoc.Proofs
