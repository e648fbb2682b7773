import KotlinDoc.Index.Member
import KotlinDoc.Source.ClassHeader
import KotlinDoc.Source.EnumBody

namespace KotlinDoc

structure Declaration where
  file : Text
  line : Nat
  depth : Int
  kind : SymbolKind
  visibility : Visibility
  name : Text
  docstring : List Text
  type : Option Text
  members : Option (List Member)
  raw : Text
deriving Repr, DecidableEq

structure Symbol where
  declaration : Declaration
  children : List Declaration
deriving Repr, DecidableEq

namespace Declaration

/-- The lines for a primary constructor as the first lines of a class body: the documentation of the
class, then the constructor. -/
def constructorLines (docstring : List Text) (constructor : Text) : List Text :=
  DocComment.opening :: docstring ++ [DocComment.closing, InitialWord.primary.text ++ constructor]

def membersAt (kind : SymbolKind) (docstring : List Text) (line : Nat) (site : Site)
    (below : List Site) : Option (List Member) :=
  let header := ClassHeader.ofLines (site.line :: below.map (·.line))
  let inEnum := kind == .enumClass
  let body := below.drop header.lastLine
  let withConstructor (rest : List Text) : List Member :=
    Member.ofSites inEnum 0 (Site.list (constructorLines docstring header.constructor ++ rest))
  if header.hasBody then
    -- An enum is read from below its first line on, even where its header goes on there.
    if inEnum then
      some (Member.ofSites inEnum 0 (Site.list (EnumBody.mark (below.map (·.line)))))
    else if header.constructor.isEmpty then
      some (Member.ofSites inEnum (line + header.lastLine + 1) body)
    else some (withConstructor (body.map (·.line)))
  else if header.constructor.isEmpty then none
  else some (withConstructor [[]])

def ofHeader (file : Text) (braces : Int) (line : Nat) (site : Site) (below : List Site)
    (header : SymbolHeader) : Declaration :=
  let isFunction := header.kind == .function
  let docstring := DocComment.above site.above
  { file := file
    line := line
    depth := if braces == 0 then 1 else braces
    kind := header.kind
    visibility := .ofScope header.scope
    name := if isFunction then header.name ++ header.rest else header.name
    docstring := docstring
    type := header.type.bind trimmed?
    members := if isFunction then none else membersAt header.kind docstring line site below
    raw := site.line }

end Declaration

namespace Symbol

/-- A function is a symbol if no brace is open, or if its own line opens the first one. -/
def isTopFunction (braces : Int) (line : Text) : Bool :=
  braces == 0 || (braces == 1 && !line.contains '}' && line.contains '{')

/-- Puts a declaration among the symbols, latest first: below the latest one if that is less deep
than the braces tell. -/
def place (braces : Int) (declaration : Declaration) : List Symbol → List Symbol
  | [] => [⟨declaration, []⟩]
  | latest :: earlier =>
    if latest.declaration.depth < braces then
      { latest with children := latest.children ++ [declaration] } :: earlier
    else ⟨declaration, []⟩ :: latest :: earlier

def add (braces : Int) (declaration : Declaration) (symbols : List Symbol) : List Symbol :=
  if declaration.kind == .function then
    if isTopFunction braces declaration.raw then ⟨declaration, []⟩ :: symbols else symbols
  else place braces declaration symbols

def declarationsAt (file : Text) (braces : Int) (line : Nat) (site : Site) (below : List Site) :
    List Declaration :=
  SymbolForm.all.filterMap fun form =>
    (SymbolHeader.parse? form site.line).map fun header =>
      Declaration.ofHeader file braces line site below header.1

def scan (file : Text) (symbols : List Symbol) (braces : Int) (line : Nat) :
    List Site → List Symbol
  | [] => symbols
  | site :: below =>
    let braces := braces + Source.braceExcess site.line
    let symbols := (declarationsAt file braces line site below).foldl
      (fun symbols declaration => add braces declaration symbols) symbols
    scan file symbols braces (line + 1) below

def index (file : Text) (lines : List Text) : List Symbol :=
  (scan file [] 0 0 (Site.list lines)).reverse

def groupBy {α : Type} (file : α → Text) (things : List α) : List (Text × List α) :=
  let files := things.foldl (fun files thing =>
    if files.contains (file thing) then files else files ++ [file thing]) []
  files.map fun name => (name, things.filter fun thing => file thing == name)

end Symbol

end KotlinDoc
