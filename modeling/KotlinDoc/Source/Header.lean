import KotlinDoc.Text.Blank
import KotlinDoc.Text.Word

/-!
# Declaration headers

The headers of Kotlin declarations that stand at the start of a line: functions, initialisers,
properties, enum entries and the symbols of a file. A recogniser gives the parts of the header and
the text after it. A header ends before the first opening brace, and its parts keep the blanks of
the line.
-/

namespace KotlinDoc

/-! ## Words -/

namespace Word

def isInitial (c : Char) : Bool :=
  c.isAlpha || c == '_'

def spaced? (word s : Text) : Option (Text × Text) :=
  match Text.after? word s with
  | none => none
  | some rest =>
    let blanks := rest.takeWhile isBlank
    if blanks.isEmpty then none else some (word ++ blanks, rest.dropWhile isBlank)

def optional (words : List Text) (s : Text) : Option Text × Text :=
  match words.findSome? (spaced? · s) with
  | some (written, rest) => (some written, rest)
  | none => (none, s)

def phrase? : List Text → Text → Option (Text × Text)
  | [], s => some ([], s)
  | [word], s => (Text.after? word s).map fun rest => (word, rest)
  | word :: words, s => do
    let (written, rest) ← spaced? word s
    let (more, rest) ← phrase? words rest
    return (written ++ more, rest)

def bounded? (word rest : Text) : Option (Text × Text) :=
  match word.getLast? with
  | some last => if isBoundary last rest then some (word, rest) else none
  | none => none

def identifier? : Text → Option (Text × Text)
  | [] => none
  | c :: s =>
    if isInitial c then bounded? (c :: s.takeWhile isAsciiWord) (s.dropWhile isAsciiWord) else none

/-- The longest text of word characters of ASCII and dots, at the start of a text, that ends at a
word boundary. -/
def dotted? : Text → Option (Text × Text)
  | [] => none
  | c :: s =>
    if isAsciiWord c || c == '.' then
      match dotted? s with
      | some (name, rest) => some (c :: name, rest)
      | none => if isBoundary c s then some ([c], s) else none
    else none

def dottedIdentifier? : Text → Option (Text × Text)
  | [] => none
  | c :: s => if isInitial c then dotted? (c :: s) else none

def exactly? (name s : Text) : Option (Text × Text) :=
  (Text.after? name s).bind (bounded? name)

end Word

namespace Header

def beforeBrace (s : Text) : Text :=
  s.takeWhile (· != '{')

def fromBrace (s : Text) : Text :=
  s.dropWhile (· != '{')

def scopeWords : List Text :=
  ["private", "public", "open", "internal", "protected"]

def functionScopeWords : List Text :=
  ["private", "public", "external", "open", "internal", "protected"]

end Header

/-! ## Functions -/

structure FunctionHeader where
  scope : Option Text
  template : Option Text
  name : Text
  rest : Text
deriving Repr, DecidableEq

def FunctionHeader.parse? (line : Text) : Option (FunctionHeader × Text) := do
  let (scope, s) := Word.optional Header.functionScopeWords line.trimLeft
  let (_, s) ← Word.spaced? "fun" s
  let (template, s) := match Text.after? "<T>" s with
    | some rest => (some ("<T>" : Text), rest)
    | none => (none, s)
  let (name, s) ← Word.dottedIdentifier? s.trimLeft
  return (⟨scope, template, name, Header.beforeBrace s⟩, Header.fromBrace s)

/-! ## Initialisers and constructors -/

inductive InitialWord where
  | init
  | constructor
  | primary
deriving Repr, DecidableEq

def InitialWord.text : InitialWord → Text
  | .init => "init"
  | .constructor => "constructor"
  | .primary => "firstconstructor"

structure InitialHeader where
  scope : Option Text
  word : InitialWord
  rest : Text
deriving Repr, DecidableEq

def InitialHeader.parse? (line : Text) : Option (InitialHeader × Text) := do
  let (scope, s) := Word.optional Header.scopeWords line.trimLeft
  let (word, s) ← [InitialWord.init, .constructor, .primary].findSome? fun word =>
    (Text.after? word.text s).map fun rest => (word, rest)
  let s := Text.trimLeft s
  return (⟨scope, word, Header.beforeBrace s⟩, Header.fromBrace s)

/-! ## Properties -/

/-- The header of a property. The keyword keeps the blanks after it; an opening brace and the blanks
after it start an accessor or a computed value. -/
structure PropertyHeader where
  scope : Option Text
  keyword : Text
  name : Text
  rest : Text
  computed : Option Text
deriving Repr, DecidableEq

def PropertyHeader.parse? (line : Text) : Option (PropertyHeader × Text) := do
  let (scope, s) := Word.optional Header.scopeWords line.trimLeft
  let (keyword, s) ← [("var" : Text), "val"].findSome? (Word.spaced? · s)
  let (name, s) ← Word.identifier? s
  let rest := Header.beforeBrace s
  match Header.fromBrace s with
  | [] => return (⟨scope, keyword, name, rest, none⟩, [])
  | brace :: s =>
    return (⟨scope, keyword, name, rest, some (brace :: s.takeWhile isBlank)⟩, s.dropWhile isBlank)

/-! ## Enum entries -/

structure EntryHeader where
  name : Text
  rawValue : Option Text
deriving Repr, DecidableEq

def EntryHeader.value? (s : Text) : Option (Text × Text) := do
  let s ← Text.after? "(" (Text.trimLeft s)
  let s := Text.trimLeft s
  let rest ← Text.after? ")" (Text.trimLeft (s.dropWhile isAsciiWord))
  return (s.takeWhile isAsciiWord, Text.trimLeft rest)

def EntryHeader.parse? (line : Text) : Option (EntryHeader × Text) := do
  let (_, s) ← Word.spaced? "case:" line.trimLeft
  let (name, s) ← Word.identifier? s
  match EntryHeader.value? s with
  | some (value, rest) => return (⟨name, some value⟩, rest)
  | none => return (⟨name, none⟩, s)

/-! ## Symbols of a file -/

inductive SymbolKind where
  | classKind
  | objectKind
  | enumClass
  | dataClass
  | extension
  | interface
  | function
deriving Repr, DecidableEq

def SymbolKind.label : SymbolKind → Text
  | .classKind => "class"
  | .objectKind => "object"
  | .enumClass => "enum_class"
  | .dataClass => "data_class"
  | .extension => "extension"
  | .interface => "interface"
  | .function => "fun"

inductive SymbolForm where
  | plainClass
  | enumClass
  | dataClass
  | extension
  | interface
  | function
deriving Repr, DecidableEq

namespace SymbolForm

def modifiers : SymbolForm → List Text
  | .plainClass => ["final", "inline", "sealed"]
  | .enumClass | .dataClass | .function => ["final"]
  | .extension | .interface => []

def keywords : SymbolForm → List (List Text × SymbolKind)
  | .plainClass => [(["class"], .classKind), (["object"], .objectKind)]
  | .enumClass => [(["enum", "class"], .enumClass)]
  | .dataClass => [(["data", "class"], .dataClass)]
  | .extension => [(["extension"], .extension)]
  | .interface => [(["interface"], .interface)]
  | .function => [(["fun"], .function)]

def allowsName : SymbolForm → Text → Bool
  | .plainClass, s | .dataClass, s => !Text.startsWith "fun" s
  | _, _ => true

def all : List SymbolForm :=
  [.plainClass, .enumClass, .dataClass, .extension, .interface, .function]

end SymbolForm

structure SymbolHeader where
  scope : Option Text
  keyword : Text
  kind : SymbolKind
  name : Text
  type : Option Text
  rest : Text
deriving Repr, DecidableEq

namespace SymbolHeader

def afterColon? (s : Text) : Option Text :=
  (Text.after? ":" (Text.trimLeft s)).map Text.trimLeft

def parseNamed? (form : SymbolForm) (name? : Text → Option (Text × Text)) (line : Text) :
    Option (SymbolHeader × Text) := do
  let (scope, s) := Word.optional Header.scopeWords line.trimLeft
  let (_, s) := Word.optional form.modifiers s
  let ((keyword, s), kind) ← form.keywords.findSome? fun (words, kind) =>
    (Word.phrase? words s).map (·, kind)
  let s ← Text.afterBlanks? s
  if form.allowsName s then
    let (name, s) ← name? s
    match afterColon? s with
    | some type =>
      return (⟨scope, keyword, kind, name, some (Header.beforeBrace type), []⟩,
        Header.fromBrace type)
    | none =>
      return (⟨scope, keyword, kind, name, none, Header.beforeBrace s⟩, Header.fromBrace s)
  else none

def parse? (form : SymbolForm) (line : Text) : Option (SymbolHeader × Text) :=
  parseNamed? form Word.identifier? line

def parseFor? (form : SymbolForm) (name line : Text) : Option (SymbolHeader × Text) :=
  parseNamed? form (Word.exactly? name) line

end SymbolHeader

end KotlinDoc
