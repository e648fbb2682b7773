import KotlinDoc.Doc.Markup
import KotlinDoc.Page.Entry

namespace KotlinDoc

namespace Directive

def opening (kind signature : Text) : Text :=
  ".. kotlin:" ++ kind ++ ":: " ++ signature

def options (indent : Text) (noIndex : Bool) : List Text :=
  (if noIndex then [indent ++ ":noindex:"] else []) ++ [[]]

structure Style where
  indent : Text := "    "
  noIndex : Bool := false
  noDocstring : Bool := false

end Directive

namespace SymbolEntry

def signature (entry : SymbolEntry) : Text :=
  match entry.type with
  | none | some [] => entry.name
  | some type => entry.name ++ " : " ++ type

def directive (style : Directive.Style) (entry : SymbolEntry) : List Text :=
  Directive.opening entry.kind entry.signature :: Directive.options style.indent style.noIndex ++
    if style.noDocstring then []
    else (DocComment.markup (entry.kind != "fun") entry.docstring).map (style.indent ++ ·)

end SymbolEntry

namespace MemberEntry

def isProperty (entry : MemberEntry) : Bool :=
  entry.kind == "var" || entry.kind == "val"

def isEnumCase (entry : MemberEntry) : Bool :=
  entry.kind == "enum_case"

def signature (entry : MemberEntry) : Text :=
  let rest := entry.rest.getD []
  match Text.find? "get()" rest with
  | some position =>
    entry.name ++ if entry.isProperty then rest.take position else rest
  | none => entry.name ++ rest

def directiveKind (entry : MemberEntry) : Text :=
  if entry.isProperty then entry.kind
  else if entry.name == "init" then "init"
  else if entry.name == "constructor" then "constructor"
  else if entry.kind == "static_fun" then "static_fun"
  else "fun"

def item (entry : MemberEntry) : Text :=
  let value := match entry.rawValue with
    | none | some [] => []
    | some value => " = " ++ value
  let summary := match DocComment.summary? entry.docstring with
    | none => []
    | some line => " : " ++ line
  "- " ++ entry.signature ++ value ++ summary

def directive (style : Directive.Style) (entry : MemberEntry) : List Text :=
  if entry.isEnumCase then [entry.item]
  else
    Directive.opening entry.directiveKind entry.signature ::
      Directive.options style.indent style.noIndex ++
      if style.noDocstring then []
      else (DocComment.markup false entry.docstring).map (style.indent ++ " " ++ ·) ++ [[]]

end MemberEntry

end KotlinDoc
