import KotlinDoc.Domain.ObjectTable
import KotlinDoc.Domain.ObjectType
import KotlinDoc.Sorting
import KotlinDoc.Text.Case

namespace KotlinDoc

structure IndexEntry where
  name : Text
  level : Nat := 0
  document : Text
  anchor : Text
  type : Text
  qualifier : Text := []
  description : Text := []
deriving Repr, DecidableEq

structure IndexGroup where
  letter : Option Text
  entries : List IndexEntry
deriving Repr, DecidableEq

namespace ModuleIndex

def leadingType? (s : Text) : Option (ObjectType × Nat) :=
  ObjectType.ordered.zipIdx.find? fun (type, _) => Text.startsWith type.name s

/-- The letter of an anchor. After a leading type and one more character comes the letter. -/
def letter? (anchor : Text) : Option Char :=
  match leadingType? anchor with
  | some (type, _) => anchor[type.name.length + 1]?
  | none => anchor[0]?

/-- The text by which names are sorted within a group: with the number of the leading type in four
digits before it. -/
def sortText (name : Text) : Text :=
  match leadingType? name with
  | some (_, number) => "000" ++ (Nat.digitChar number :: name)
  | none => name

def entry (name : Text) (object : ObjectEntry) : IndexEntry where
  name := name
  document := object.document
  anchor := object.anchor
  type := object.type.map fun c => if c == '_' then ' ' else c

def sortGroup (entries : List IndexEntry) : List IndexEntry :=
  Sorting.sort (fun a b => Text.le (sortText a.name) (sortText b.name)) entries

def groups : List (Char × IndexEntry) → List IndexGroup
  | [] => []
  | (c, entry) :: entries =>
    match groups entries with
    | [] => [⟨some (upper c), [entry]⟩]
    | group :: rest =>
      if group.letter == some (upper c) then
        { group with entries := entry :: group.entries } :: rest
      else ⟨some (upper c), [entry]⟩ :: group :: rest

def lettered? (object : Text × ObjectEntry) : Option (Char × IndexEntry) :=
  (letter? object.2.anchor).map fun c => (c, entry object.1 object.2)

def sortLetters (entries : List (Char × IndexEntry)) : List (Char × IndexEntry) :=
  Sorting.sort (fun a b => a.1.toNat ≤ b.1.toNat) entries

def generate? (table : ObjectTable) : Option (List IndexGroup) :=
  (table.entries.mapM lettered?).map fun entries =>
    match groups (sortLetters entries) with
    | [] => [⟨none, []⟩]
    | found => found.map fun group => { group with entries := sortGroup group.entries }

end ModuleIndex

end KotlinDoc
