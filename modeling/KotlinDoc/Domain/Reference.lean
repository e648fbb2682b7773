import KotlinDoc.Domain.ObjectTable
import KotlinDoc.Domain.ObjectType
import KotlinDoc.Text.Case

namespace KotlinDoc

/-- Where a link leads: to an anchor of a document, or out of the documentation. -/
inductive Destination where
  | internal (document anchor : Text)
  | external (address : Text)
deriving Repr, DecidableEq

structure Link where
  raw : Text
  destination : Destination
  title : Text
  content : Text
deriving Repr, DecidableEq

namespace Link

def languageTypes : List Text :=
  ["Double", "Float", "Long", "Int", "Short", "Byte", "Char", "Boolean", "ByteArray", "ShortArray",
   "IntArray", "UByte", "UShort", "UInt", "ULong", "UByteArray", "UShortArray", "UIntArray",
   "ULongArray", "UIntProgression", "UIntRange", "ULongRange", "ULongProgression", "String"]

def addressName (type : Text) : Text :=
  type.flatMap fun c => match lowerCapital? c with
    | some small => '-' :: small
    | none => [c]

def languageAddress (type : Text) : Text :=
  "https://kotlinlang.org/api/latest/jvm/stdlib/kotlin/" ++ addressName type ++ "/index.html"

def unwrapped (target : Text) : Text :=
  if Text.endsWith "?" target || Text.endsWith "!" target then target.dropLast
  else if Text.startsWith "[" target && Text.endsWith "]" target then (target.drop 1).dropLast
  else target

/-- The name that is looked up for a target: from the first dot on, if there is one. -/
def lookupName (target : Text) : Text :=
  let name := unwrapped target
  if name.contains '.' then name.dropWhile (· != '.') else name

def fullNames (name : Text) : List Text :=
  ObjectType.ordered.map fun type => type.name ++ " " ++ name

def toObject (entry : ObjectEntry) (title content : Text) : Link where
  raw := []
  destination := .internal entry.document entry.anchor
  title := title
  content := content

def toLanguage (type : Text) : Link where
  raw := type
  destination := .external (languageAddress type)
  title := type
  content := type

def resolve? (table : ObjectTable) (target content : Text) : Option Link :=
  let name := lookupName target
  match table.entries.find? fun entry => (fullNames name).contains entry.1 with
  | some (_, entry) => some (toObject entry name content)
  | none => if languageTypes.contains name then some (toLanguage name) else none

end Link

end KotlinDoc
