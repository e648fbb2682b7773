import KotlinDoc.Doc.Tag

namespace KotlinDoc

namespace DocComment

def unmargined (line : Text) : Text :=
  match Text.trim line with
  | '*' :: s => s
  | s => s

def fence : Text :=
  "```"

def codeBlock : List Text :=
  [".. code-block:: kotlin", ""]

def simpleField? (line : Text) : Option Text :=
  SimpleTag.all.findSome? fun tag =>
    (tag.parse? line).map fun (description, _) => ":" ++ tag.field ++ ": " ++ description

/-- The lines of markup for a line outside code. In the documentation of a class, parameters are
left out; properties are always left out, since they have documentation of their own. -/
def proseMarkup (isClass : Bool) (line : Text) : List Text :=
  match NamedTag.param.parse? line with
  | some (entry, _) =>
    if isClass then [] else [":parameter " ++ entry.name ++ ": " ++ entry.description]
  | none =>
    if Text.has NamedTag.property.word line then []
    else match simpleField? line with
      | some field => [field]
      | none => [Text.trim line]

def markupFrom (isClass inCode : Bool) : List Text → List Text
  | [] => []
  | line :: lines =>
    let text := unmargined line
    if Text.startsWith fence text then
      (if inCode then [] else codeBlock) ++ markupFrom isClass (!inCode) lines
    else if inCode then ("    " ++ text) :: markupFrom isClass inCode lines
    else proseMarkup isClass text ++ markupFrom isClass inCode lines

def markup (isClass : Bool) (docstring : List Text) : List Text :=
  markupFrom isClass false docstring

def summary? (docstring : List Text) : Option Text :=
  docstring.head?

end DocComment

end KotlinDoc
