import KotlinDoc.Text.Blank
import KotlinDoc.Text.Word

namespace KotlinDoc

inductive SimpleTag where
  | author
  | sample
  | returns
  | see
  | since
  | throws
deriving Repr, DecidableEq

namespace SimpleTag

def word : SimpleTag → Text
  | .author => "@author"
  | .sample => "@sample"
  | .returns => "@return"
  | .see => "@see"
  | .since => "@since"
  | .throws => "@throws"

def field : SimpleTag → Text
  | .author => "author"
  | .sample => "example"
  | .returns => "returns"
  | .see => "see"
  | .since => "since"
  | .throws => "throws"

def all : List SimpleTag :=
  [.author, .sample, .returns, .see, .since, .throws]

def parse? (tag : SimpleTag) (line : Text) : Option (Text × Text) :=
  (Text.after? tag.word (Text.trimLeft line)).map fun s =>
    let s := Text.trimLeft s
    (Text.firstLine s, s.drop (Text.firstLine s).length)

end SimpleTag

inductive NamedTag where
  | param
  | property
deriving Repr, DecidableEq

namespace NamedTag

def word : NamedTag → Text
  | .param => "@param"
  | .property => "@property"

structure Entry where
  name : Text
  description : Text
deriving Repr, DecidableEq

def name? (s : Text) : Option (Text × Text) :=
  let name := s.takeWhile isAsciiWord
  let s := s.dropWhile isAsciiWord
  match Text.afterBlanks? s with
  | some rest => some (name, rest)
  | none => ((Text.after? "]" s).bind Text.afterBlanks?).map fun rest => (name, rest)

/-- The name after the tag, and the text of the description. Without a proper name the name is
empty, if blanks follow the tag, and a bracket may open the name if none do. -/
def split? (s : Text) : Option (Text × Text) :=
  match name? (Text.trimLeft s) with
  | some named => some named
  | none =>
    match Text.afterBlanks? s with
    | some rest => some ([], rest)
    | none => (Text.after? "[" s).bind name?

def parse? (tag : NamedTag) (line : Text) : Option (Entry × Text) := do
  let s ← Text.after? tag.word line.trimLeft
  let (name, s) ← split? s
  return (⟨name, Text.firstLine s⟩, s.drop (Text.firstLine s).length)

end NamedTag

namespace DocComment

/-- The lines that describe `name` under the tag `tag`: the text after the tag and the name, then
the lines up to an empty line or one with an at sign. -/
def describe (tag name : Text) (started : Bool) : List Text → List Text
  | [] => []
  | line :: lines =>
    let named :=
      Text.has (tag ++ "[" ++ name ++ "]") line || Text.has (tag ++ " " ++ name ++ " ") line
    let first := if named then [(Text.trim line).drop (2 + tag.length + name.length)] else []
    -- A line with the tag adds its text and counts as the next line too.
    if started || named then
      if line.isEmpty || line.contains '@' then first
      else first ++ line :: describe tag name true lines
    else describe tag name false lines

def description (tag name : Text) (docstring : List Text) : List Text :=
  describe tag (Text.trim name) false docstring

end DocComment

end KotlinDoc
