import KotlinDoc.Page.Document

/-!
# Records

A record is an entry made by hand, in which any field can be missing. Only the fields that a page
shows are needed: reading a record for a page gives the entry, or the first field that is needed and
missing, in the order in which the page is written. A field that is not needed gets an empty value.
-/

namespace KotlinDoc

inductive Field where
  | file
  | scope
  | kind
  | name
  | rest
  | rawValue
  | docstring
  | type
  | children
deriving Repr, DecidableEq

def Field.label : Field → Text
  | .file => "file"
  | .scope => "scope"
  | .kind => "type"
  | .name => "name"
  | .rest => "rest"
  | .rawValue => "raw_value"
  | .docstring => "docstring"
  | .type => "param"
  | .children => "children"

def Field.need {α : Type} (field : Field) : Option α → Except Field α
  | some value => .ok value
  | none => .error field

def Field.needIf {α : Type} (field : Field) (condition : Bool) (value : Option (List α)) :
    Except Field (List α) :=
  if condition then field.need value else .ok []

structure MemberRecord where
  kind : Option Text
  scope : Option Text
  name : Option Text
  rest : Option (Option Text)
  rawValue : Option (Option Text)
  docstring : Option (List Text)
deriving Repr

inductive SymbolRecord where
  | mk (kind scope name : Option Text) (type : Option (Option Text))
    (docstring : Option (List Text)) (members : Option (List MemberRecord))
    (children : Option (List SymbolRecord))
deriving Repr, Inhabited

/-- The record of a member. The properties of a primary constructor have no field for a value. -/
def Member.record (member : Member) : MemberRecord where
  kind := some member.kind.label
  scope := some member.visibility.label
  name := some member.name
  rest := some member.rest
  rawValue := match member.origin with
    | .body rawValue => some rawValue
    | .primaryConstructor => none
  docstring := some member.docstring

def Declaration.record (declaration : Declaration) (children : List SymbolRecord) : SymbolRecord :=
  .mk (some declaration.kind.label) (some declaration.visibility.label) (some declaration.name)
    (some declaration.type) (some declaration.docstring)
    (declaration.members.map (·.map Member.record)) (some children)

def Symbol.record (symbol : Symbol) : SymbolRecord :=
  symbol.declaration.record (symbol.children.map (·.record []))

namespace MemberRecord

def forDirective (record : MemberRecord) (noDocstring : Bool) : Except Field MemberEntry := do
  let name ← Field.name.need record.name
  let rest ← Field.rest.need record.rest
  let kind ← Field.kind.need record.kind
  if kind == "enum_case" then
    let rawValue ← Field.rawValue.need record.rawValue
    let docstring ← Field.docstring.need record.docstring
    return ⟨kind, [], name, rest, rawValue, docstring⟩
  else
    let docstring ← Field.docstring.needIf (!noDocstring) record.docstring
    return ⟨kind, [], name, rest, none, docstring⟩

def select (selection : Selection) (record : MemberRecord) : Except Field (Option MemberEntry) := do
  let docstring ← Field.docstring.needIf (!selection.undocumented) record.docstring
  -- Enum entries need no documentation, so the kind matters where there is none.
  let kind ← Field.kind.needIf (!selection.undocumented && docstring.isEmpty) record.kind
  let scope ← Field.scope.needIf (!selection.hidden) record.scope
  if selection.showsMember ⟨kind, scope, [], none, none, docstring⟩ then
    let entry ← record.forDirective false
    return some { entry with scope := scope }
  else return none

end MemberRecord

namespace SymbolRecord

def forDirective (noDocstring : Bool) : SymbolRecord → Except Field SymbolEntry
  | .mk kind _ name type docstring _ _ => do
    let type ← Field.type.need type
    let kind ← Field.kind.need kind
    let name ← Field.name.need name
    let docstring ← Field.docstring.needIf (!noDocstring) docstring
    return .mk kind [] name type docstring none []

mutual

def select (selection : Selection) : SymbolRecord → Except Field (Option SymbolEntry)
  | record@(.mk _ scope _ _ docstring members children) => do
    let docstring ← Field.docstring.needIf (!selection.undocumented) docstring
    let scope ← Field.scope.needIf (!selection.hidden) scope
    if selection.showsSymbol (.mk [] scope [] none docstring none []) then
      let entry ← record.forDirective selection.undocumented
      let entry := SymbolEntry.mk entry.kind scope entry.name entry.type docstring
      if selection.members then
        match members with
        | none => return some (entry none [])
        | some members =>
          let members ← members.mapM (·.select selection)
          let children ← selectChildren selection children
          return some (entry (some (members.filterMap id)) children)
      else return some (entry none [])
    else return none

def selectChildren (selection : Selection) :
    Option (List SymbolRecord) → Except Field (List SymbolEntry)
  | none => throw .children
  | some records => selectAll selection records

def selectAll (selection : Selection) : List SymbolRecord → Except Field (List SymbolEntry)
  | [] => return []
  | record :: records => do
    let entry ← select selection record
    let entries ← selectAll selection records
    return entry.toList ++ entries

end

def selectInner (selection : Selection) : SymbolRecord → Except Field SymbolEntry
  | .mk _ _ _ _ _ none _ => return .mk [] [] [] none [] none []
  | .mk _ _ _ _ _ (some members) children => do
    let members ← members.mapM (·.select selection)
    let children ← selectChildren selection children
    return .mk [] [] [] none [] (some (members.filterMap id)) children

def document (selection : Selection) (indent : Text) (records : List SymbolRecord) :
    Except Field (List Text) :=
  (selectAll selection records).map (Document.lines selection indent)

def documentInner (selection : Selection) (indent : Text) (record : SymbolRecord) :
    Except Field (List Text) :=
  (record.selectInner selection).map (Document.inner selection indent)

end SymbolRecord

end KotlinDoc
