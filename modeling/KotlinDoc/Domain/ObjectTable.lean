import KotlinDoc.Text.Basic

namespace KotlinDoc

structure ObjectEntry where
  document : Text
  type : Text
  anchor : Text
deriving Repr, DecidableEq

structure ObjectTable where
  entries : List (Text × ObjectEntry) := []
deriving Repr, DecidableEq

namespace ObjectTable

def get? (table : ObjectTable) (name : Text) : Option ObjectEntry :=
  table.entries.lookup name

/-- Records an entry. A name that is already recorded keeps its place. -/
def insert (table : ObjectTable) (name : Text) (entry : ObjectEntry) : ObjectTable :=
  if (table.get? name).isSome then
    ⟨table.entries.map fun old => if old.1 == name then (name, entry) else old⟩
  else ⟨table.entries ++ [(name, entry)]⟩

def ofList (entries : List (Text × ObjectEntry)) : ObjectTable :=
  entries.foldl (fun table entry => table.insert entry.1 entry.2) {}

def eraseDocument (table : ObjectTable) (document : Text) : ObjectTable :=
  ⟨table.entries.filter fun entry => entry.2.document != document⟩

def size (table : ObjectTable) : Nat :=
  table.entries.length

end ObjectTable

end KotlinDoc
