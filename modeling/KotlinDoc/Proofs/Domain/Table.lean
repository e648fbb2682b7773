import KotlinDoc.Domain.ObjectTable
import KotlinDoc.Proofs.Lookup

namespace KotlinDoc.Proofs.Domain

def Keyed (table : ObjectTable) : Prop :=
  (table.entries.map Prod.fst).Nodup

theorem insert_entries (table : ObjectTable) (name : Text) (entry : ObjectEntry) :
    (table.insert name entry).entries = upsert table.entries name entry := by
  unfold ObjectTable.insert ObjectTable.get? upsert
  split <;> rfl

theorem get?_insert (table : ObjectTable) (name other : Text) (entry : ObjectEntry) :
    (table.insert name entry).get? other = if other = name then some entry else table.get? other := by
  unfold ObjectTable.get?
  rw [insert_entries, lookup_upsert]

theorem mem_insert {table : ObjectTable} {name : Text} {entry : ObjectEntry}
    {item : Text × ObjectEntry} (member : item ∈ (table.insert name entry).entries) :
    item ∈ table.entries ∨ item = (name, entry) := by
  rw [insert_entries] at member
  exact mem_upsert member

theorem keyed_insert {table : ObjectTable} (keyed : Keyed table) (name : Text)
    (entry : ObjectEntry) : Keyed (table.insert name entry) := by
  unfold Keyed
  rw [insert_entries]
  exact nodup_keys_upsert keyed name entry

theorem mem_eraseDocument {table : ObjectTable} {document : Text} {item : Text × ObjectEntry} :
    item ∈ (table.eraseDocument document).entries ↔
      item ∈ table.entries ∧ item.2.document ≠ document := by
  simp [ObjectTable.eraseDocument]

theorem keyed_eraseDocument {table : ObjectTable} (keyed : Keyed table) (document : Text) :
    Keyed (table.eraseDocument document) :=
  keyed.sublist (List.filter_sublist.map Prod.fst)

theorem get?_eq_some_iff {table : ObjectTable} (keyed : Keyed table) (name : Text)
    (entry : ObjectEntry) : table.get? name = some entry ↔ (name, entry) ∈ table.entries :=
  lookup_eq_some_iff_mem keyed name entry

theorem get?_eraseDocument {table : ObjectTable} (keyed : Keyed table) (document name : Text)
    (entry : ObjectEntry) :
    (table.eraseDocument document).get? name = some entry ↔
      table.get? name = some entry ∧ entry.document ≠ document := by
  rw [get?_eq_some_iff (keyed_eraseDocument keyed document), get?_eq_some_iff keyed,
    mem_eraseDocument]

end KotlinDoc.Proofs.Domain
