import KotlinDoc.Index.Symbol

namespace KotlinDoc

structure MemberEntry where
  kind : Text
  scope : Text
  name : Text
  rest : Option Text
  rawValue : Option Text
  docstring : List Text
deriving Repr, DecidableEq

/-- An entry for a symbol. Without a list of members, neither members nor children are written. -/
inductive SymbolEntry where
  | mk (kind scope name : Text) (type : Option Text) (docstring : List Text)
    (members : Option (List MemberEntry)) (children : List SymbolEntry)
deriving Repr

namespace SymbolEntry

def kind : SymbolEntry → Text
  | mk kind _ _ _ _ _ _ => kind

def scope : SymbolEntry → Text
  | mk _ scope _ _ _ _ _ => scope

def name : SymbolEntry → Text
  | mk _ _ name _ _ _ _ => name

def type : SymbolEntry → Option Text
  | mk _ _ _ type _ _ _ => type

def docstring : SymbolEntry → List Text
  | mk _ _ _ _ docstring _ _ => docstring

def members : SymbolEntry → Option (List MemberEntry)
  | mk _ _ _ _ _ members _ => members

def children : SymbolEntry → List SymbolEntry
  | mk _ _ _ _ _ _ children => children

end SymbolEntry

def Member.entry (member : Member) : MemberEntry where
  kind := member.kind.label
  scope := member.visibility.label
  name := member.name
  rest := member.rest
  rawValue := match member.origin with
    | .body rawValue => rawValue
    | .primaryConstructor => none
  docstring := member.docstring

def Declaration.entry (declaration : Declaration) (children : List SymbolEntry) : SymbolEntry :=
  .mk declaration.kind.label declaration.visibility.label declaration.name declaration.type
    declaration.docstring (declaration.members.map (·.map Member.entry)) children

def Symbol.entry (symbol : Symbol) : SymbolEntry :=
  symbol.declaration.entry (symbol.children.map (·.entry []))

end KotlinDoc
