import KotlinDoc.Doc.Comment
import KotlinDoc.Doc.Tag
import KotlinDoc.Source.Header
import KotlinDoc.Source.Lines

/-!
# Members

The members of a class are the functions, initialisers and properties that its body declares, and
the properties that its primary constructor declares; those of an enum are its entries.
`Member.index?` reads them from the lines of a body, joining continued lines and counting braces, so
that what lies deeper is passed over.
-/

namespace KotlinDoc

/-! ## Visibility -/

inductive Visibility where
  | everyone
  | fileOnly
  | moduleOnly
  | subclasses
deriving Repr, DecidableEq

namespace Visibility

def label : Visibility → Text
  | .everyone => "public"
  | .fileOnly => "private"
  | .moduleOnly => "internal"
  | .subclasses => "protected"

def ofScope : Option Text → Visibility
  | none => .everyone
  | some scope =>
    let word := Text.trim scope
    if word == "private" then .fileOnly
    else if word == "internal" then .moduleOnly
    else if word == "protected" then .subclasses
    else .everyone

end Visibility

/-! ## Member headers -/

inductive MemberWord where
  | function
  | initial (word : InitialWord)
  | var
  | val
deriving Repr, DecidableEq

def MemberWord.text : MemberWord → Text
  | .function => "fun"
  | .initial word => word.text
  | .var => "var"
  | .val => "val"

inductive MemberKind where
  | plain (word : MemberWord)
  | companion (word : MemberWord)
  | entry
deriving Repr, DecidableEq

def MemberKind.label : MemberKind → Text
  | .plain word => word.text
  | .companion word => "static_" ++ word.text
  | .entry => "enum_case"

def PropertyHeader.word (header : PropertyHeader) : MemberWord :=
  if Text.startsWith "var" header.keyword then .var else .val

inductive MemberHeader where
  | function (header : FunctionHeader)
  | initial (header : InitialHeader)
  | property (header : PropertyHeader)
  | entry (header : EntryHeader)
deriving Repr, DecidableEq

namespace MemberHeader

def ofLine (inEnum : Bool) (line : Text) : List MemberHeader :=
  if inEnum then ((EntryHeader.parse? line).map fun h => .entry h.1).toList
  else
    ((FunctionHeader.parse? line).map fun h => .function h.1).toList ++
    ((InitialHeader.parse? line).map fun h => .initial h.1).toList ++
    ((PropertyHeader.parse? line).map fun h => .property h.1).toList

def scope : MemberHeader → Option Text
  | .function h => h.scope
  | .initial h => h.scope
  | .property h => h.scope
  | .entry _ => none

def kind (static : Bool) (header : MemberHeader) : MemberKind :=
  let declared (word : MemberWord) : MemberKind :=
    if static then .companion word else .plain word
  match header with
  | .function _ => declared .function
  | .initial h => declared (.initial h.word)
  | .property h => declared h.word
  | .entry _ => .entry

def name : MemberHeader → Text
  | .function h => h.name
  | .initial _ => []
  | .property h => h.name
  | .entry h => h.name

def rest : MemberHeader → Text
  | .function h => h.rest
  | .initial h => h.rest
  | .property h => h.rest
  | .entry _ => []

def rawValue : MemberHeader → Option Text
  | .entry h => h.rawValue
  | _ => none

end MemberHeader

/-! ## Members -/

inductive MemberOrigin where
  | body (rawValue : Option Text)
  | primaryConstructor
deriving Repr, DecidableEq

structure Member where
  visibility : Visibility
  line : Int
  kind : MemberKind
  name : Text
  docstring : List Text
  rest : Option Text
  origin : MemberOrigin
  raw : Text
deriving Repr, DecidableEq

def trimmed? (s : Text) : Option Text :=
  if s.isEmpty then none else some (Text.trim s)

/-! ## Primary constructors -/

inductive ConstructorParameter where
  | property (header : PropertyHeader) (raw : Text)
  | plain (name : Text) (parts : List Text)
deriving Repr, DecidableEq

namespace ConstructorParameter

def ofText (s : Text) : ConstructorParameter :=
  match PropertyHeader.parse? s with
  | some (header, _) => .property header s
  | none =>
    match Text.piecesAt (fun c => c == ':' || c == '=' || c == '|') s with
    | [] => .plain [] []
    | name :: parts => .plain name parts

def list (rest : Text) : List ConstructorParameter :=
  (Text.pieces ',' ((Text.trim rest).drop 1).dropLast).map ofText

def written : ConstructorParameter → Text
  | .property header _ => header.name ++ Text.trim header.rest
  | .plain name parts => name ++ parts.headD []

def description (docstring : List Text) : ConstructorParameter → List Text
  | .property header _ => DocComment.description NamedTag.property.word header.name docstring
  | .plain name _ => DocComment.description NamedTag.param.word name docstring

def docLine (docstring : List Text) (parameter : ConstructorParameter) : List Text :=
  let name := match parameter with
    | .property header _ => header.name
    | .plain name _ => name
  let description := parameter.description docstring
  if description.isEmpty then [] else ["@param " ++ name ++ " " ++ description.flatten]

def isPlain : ConstructorParameter → Bool
  | .property .. => false
  | .plain .. => true

def member? (docstring : List Text) (line : Int) (parameter : ConstructorParameter) :
    Option Member :=
  match parameter with
  | .property header raw => some {
      visibility := .ofScope header.scope
      line := line
      kind := .plain header.word
      name := header.name
      docstring := parameter.description docstring
      rest := trimmed? header.rest
      origin := .primaryConstructor
      raw := raw }
  | .plain .. => none

end ConstructorParameter

namespace Member

def primaryDocstring (docstring : List Text) (parameters : List ConstructorParameter) : List Text :=
  [("Main constructor" : Text), ""] ++
    (parameters.filter (·.isPlain)).flatMap (·.docLine docstring) ++
    (parameters.filter (!·.isPlain)).flatMap (·.docLine docstring)

def ofPrimary (header : InitialHeader) (docstring : List Text) (line : Int) (raw : Text) :
    List Member :=
  let parameters := if header.rest.isEmpty then [] else ConstructorParameter.list header.rest
  let rest : Text := if header.rest.isEmpty then []
    else "(" ++ Text.joined ", " (parameters.map (·.written)) ++ ")"
  { visibility := .ofScope header.scope
    line := line
    kind := .plain (.initial .constructor)
    name := "constructor"
    docstring := primaryDocstring docstring parameters
    rest := trimmed? rest
    origin := .body none
    raw := raw } :: parameters.filterMap (·.member? docstring (line + 1))

def throughParen (s : Text) : Text :=
  match Text.find? ")" s with
  | some position => s.take (position + 1)
  | none => s

def ofHeader (static : Bool) (docstring : List Text) (line : Int) (raw : Text)
    (header : MemberHeader) : List Member :=
  let kind := header.kind static
  let member (name rest : Text) : Member :=
    { visibility := .ofScope header.scope
      line := line
      kind := kind
      name := name
      docstring := docstring
      rest := trimmed? rest
      origin := .body (header.rawValue.bind trimmed?)
      raw := raw }
  -- The names of initialisers are given outside companion objects only.
  match kind, header with
  | .plain (.initial .init), _ => [member "init" header.rest]
  | .plain (.initial .constructor), _ => [member "constructor" (throughParen header.rest)]
  | .plain (.initial .primary), .initial h => ofPrimary h docstring line raw
  | _, _ => [member header.name header.rest]

/-! ## Bodies -/

/-- The documentation that follows an entry or a declaration on its own line, between `/**<` and the
first end of a comment on the line. -/
def inlineDoc? (line : Text) : Option Text :=
  (Text.find? "/**<" line).map fun start =>
    let stop := (Text.find? "*/" line).getD (line.length - 1)
    Text.trim ((line.take stop).drop (start + 4))

def docstringAt (inEnum : Bool) (site : Site) (line : Text) : List Text :=
  match inlineDoc? line with
  | some doc => [doc]
  | none => if inEnum then [] else DocComment.above site.above

def suppression : Text :=
  "@suppress"

/-- The braces that are open, and how many were open after the companion object's line; none if
there is no companion object around. -/
structure Nesting where
  braces : Int
  companion : Int
deriving Repr, DecidableEq

namespace Nesting

def start : Nesting :=
  ⟨1, 0⟩

def after (nesting : Nesting) (line : Text) : Nesting :=
  let braces := nesting.braces + Source.braceExcess line
  let companion :=
    if Text.has "companion object" (Text.unspaced " " line) then braces else nesting.companion
  -- A companion object is forgotten once fewer braces are open than after its line.
  ⟨braces, if braces < companion then 0 else companion⟩

def inCompanion (nesting : Nesting) : Bool :=
  0 < nesting.companion && nesting.companion ≤ nesting.braces

end Nesting

def ofLine (inEnum : Bool) (nesting : Nesting) (site : Site) (position : Int) (line : Text) :
    List Member :=
  let docstring := docstringAt inEnum site line
  if docstring.contains suppression then []
  else (MemberHeader.ofLine inEnum line).flatMap
    (ofHeader nesting.inCompanion docstring position line)

def scan (inEnum : Bool) (nesting : Nesting) (position : Int) : Nat → List Site → List Member
  | _, [] => []
  | skip + 1, _ :: sites => scan inEnum nesting (position + 1) skip sites
  | 0, site :: sites =>
    let (line, passed) := Lines.join site.line (sites.map (·.line))
    let next := nesting.after line
    if next.braces ≤ 0 then []
    else
      -- A line that lies deeper declares nothing, unless it opens or closes a brace in sum.
      (if 1 < next.braces && nesting.braces == next.braces then []
       else ofLine inEnum next site (position + passed) line) ++
        scan inEnum next (position + 1) passed sites

def ofSites (inEnum : Bool) (position : Int) (sites : List Site) : List Member :=
  scan inEnum .start position 0 sites

/-- The members that the lines from a position on declare; none is known if the position lies before
the start of the lines. -/
def index? (inEnum : Bool) (lines : List Text) (position : Int) : Option (List Member) :=
  (Lines.scanFrom? (Site.list lines) position).map (ofSites inEnum position)

end Member

end KotlinDoc
