import KotlinDoc.Page.Directive

namespace KotlinDoc

structure Selection where
  hidden : Bool := false
  undocumented : Bool := false
  members : Bool := true
  noIndex : Bool := false
  noIndexMembers : Bool := false
deriving Repr, DecidableEq

namespace Selection

def showsScope (selection : Selection) (scope : Text) : Bool :=
  selection.hidden || scope == "public"

def showsSymbol (selection : Selection) (entry : SymbolEntry) : Bool :=
  (selection.undocumented || !entry.docstring.isEmpty) && selection.showsScope entry.scope

def showsMember (selection : Selection) (entry : MemberEntry) : Bool :=
  (selection.undocumented || !entry.docstring.isEmpty || entry.isEnumCase) &&
    selection.showsScope entry.scope

/-- How a symbol is written. Its documentation is left out if undocumented symbols are shown. -/
def symbolStyle (selection : Selection) (indent : Text) : Directive.Style :=
  ⟨indent, selection.noIndex, selection.undocumented⟩

def memberStyle (selection : Selection) (indent : Text) : Directive.Style :=
  ⟨indent, selection.noIndex || selection.noIndexMembers, false⟩

end Selection

namespace Document

def step : Text :=
  "   "

def memberLines (selection : Selection) (indent : Text) (entries : List MemberEntry) : List Text :=
  (entries.filter selection.showsMember).flatMap fun entry =>
    (entry.directive (selection.memberStyle indent)).map (indent ++ step ++ ·)

def within (selection : Selection) (indent : Text) (members : Option (List MemberEntry))
    (children : List Text) : List Text :=
  match members with
  | none => []
  | some members => memberLines selection indent members ++ children

mutual

def entryLines (selection : Selection) (indent : Text) : SymbolEntry → List Text
  | entry@(.mk _ _ _ _ _ members children) =>
    let children := lines selection (indent ++ step) children
    if selection.showsSymbol entry then
      (entry.directive (selection.symbolStyle indent)).map (indent ++ ·) ++
      (if selection.members then within selection indent members children else []) ++ [[]]
    else []

def lines (selection : Selection) (indent : Text) : List SymbolEntry → List Text
  | [] => []
  | entry :: entries => entryLines selection indent entry ++ lines selection indent entries

end

def inner (selection : Selection) (indent : Text) (entry : SymbolEntry) : List Text :=
  within selection indent entry.members (lines selection (indent ++ step) entry.children)

def text (lines : List Text) : Text :=
  lines.flatMap (· ++ "\n")

def heading (title : Text) : List Text :=
  [title, List.replicate title.length '=', [], []]

end Document

end KotlinDoc
