import KotlinDoc.Domain.Node
import KotlinDoc.Domain.ObjectType
import KotlinDoc.Domain.Parameter
import KotlinDoc.Source.Header

namespace KotlinDoc

structure Description where
  fullName : Text
  anchor : Text
  indexed : Bool
deriving Repr, DecidableEq

structure Signature where
  nodes : List SignatureNode
  description : Description

inductive SignatureError where
  | severalBrackets
  | parameterWithoutType
  | malformedProperty (signature : Text)
deriving Repr, DecidableEq

namespace Signature

def qualified (owner : Option Text) (name : Text) : Text :=
  match owner with
  | none | some [] => name
  | some owner => owner ++ "." ++ name

def plainName (name : Text) : Except SignatureError Text :=
  match Text.pieces '<' name with
  | [_] => .ok name
  | [plain, _] => .ok plain
  | _ => .error .severalBrackets

def lastPart (name : Text) : Text :=
  match Text.cutLast '.' name with
  | (_, some part) => part
  | (name, none) => name

/-- The references to supertypes. All but those equal to the first have a comma before them. -/
def supertypeNodes (supertypes : List Text) : List SignatureNode :=
  supertypes.map fun type =>
    .reference type true ((if some type == supertypes.head? then [] else ", ") ++ type)

def ofClass (type : ObjectType) (owner : Option Text) (s : Text) :
    Except SignatureError Signature := do
  let (head, tail) := Text.cutFirst ':' s
  let name := lastPart (← plainName (Text.trim head))
  let supertypes := tail.map fun tail => (Text.pieces ',' (Text.trim tail)).map Text.trim
  let words : Text := type.name.map fun c => if c == '_' then ' ' else c
  let fullName := type.name ++ " " ++ qualified owner name
  return {
    nodes := [.labelled .addition words (words ++ " "), .labelled .name name name] ++
      match supertypes with
      | none => []
      | some supertypes => [.element .type [] (.text " : " :: supertypeNodes supertypes)]
    description := ⟨fullName, fullName, type != .extension || supertypes.isSome⟩ }

structure CallableParts where
  name : Text
  typeParameters : Text
  rest : Text
deriving Repr, DecidableEq

/-- Cuts a signature after the first closing angle bracket, if an opening one comes before the first
parenthesis, and otherwise before the first parenthesis. -/
def cutCallable (s : Text) : CallableParts :=
  let plain (position : Nat) : CallableParts :=
    ⟨(s.take position).takeWhile (· != '<'), [], s.drop position⟩
  match Text.find? "<" s, Text.find? "(" s with
  | some angle, some paren =>
    if angle < paren then
      let position := ((Text.find? ">" s).map (· + 1)).getD 0
      let generic := s.drop angle
      let typeParameters := generic.take (((Text.find? ">" generic).map (· + 1)).getD 0)
      ⟨(s.take position).takeWhile (· != '<'), typeParameters, s.drop position⟩
    else plain paren
  | none, some paren => plain paren
  -- The last character is never a part of the name.
  | _, none => plain (s.length - 1)

def closing? (depth : Int) : Text → Option Nat
  | [] => none
  | c :: s =>
    let depth := if c == '(' then depth + 1 else if c == ')' then depth - 1 else depth
    if depth == 0 then some 0 else (closing? depth s).map (· + 1)

def cutParameters (s : Text) : Text × Text :=
  match closing? 0 s with
  | some position => ((s.take position).drop 1, s.drop (position + 1))
  | none => ([], s)

def returnType? (s : Text) : Option Text :=
  match Text.cutFirst ':' s with
  | (_, none) => none
  | (_, some rest) =>
    -- The character after the colon is passed over, whatever it is.
    let type := Text.trim (rest.drop 1)
    if type.isEmpty then none else some type

def leadingWords : ObjectType → List SignatureNode
  | .staticFunction => [.labelled .addition "static" "static fun "]
  | .classMethod => [.labelled .addition "class" "class fun "]
  | .initializer => []
  | _ => [.labelled .addition "fun" "fun "]

def parameterNode (parameter : Parameter) : SignatureNode :=
  let label := parameter.name ++ ": "
  .element .parameter label
    (SignatureNode.textOf label ++ [.reference parameter.type false parameter.type] ++
      match parameter.default with
      | none | some [] => []
      | some default => [.text (" = " ++ default)])

def ofCallable (type : ObjectType) (owner : Option Text) (s : Text) :
    Except SignatureError Signature := do
  let parts := cutCallable s
  let (list, rest) := cutParameters parts.rest
  let parameters ← if list.isEmpty then pure []
    else match Parameter.list? list with
      | some parameters => pure parameters
      | none => throw .parameterWithoutType
  let name : Text := if type == .initializer then "init" else parts.name
  let title := name ++ "(" ++ Parameter.names parameters ++ ")"
  let returnType := returnType? rest
  return {
    nodes := leadingWords type ++ [.labelled .name name name] ++
      (if parts.typeParameters.isEmpty then []
       else [.labelled .addition parts.typeParameters parts.typeParameters]) ++
      [.element .parameterList (Parameter.names parameters) (parameters.map parameterNode)] ++
      (returnType.map SignatureNode.typeAnnotation).toList
    description := ⟨qualified owner title,
      qualified owner (title ++ (returnType.map ('-' :: ·)).getD []), true⟩ }

structure EntryParts where
  name : Text
  associated : Text
  rawValue : Text
deriving Repr, DecidableEq

def cutEntry (s : Text) : EntryParts :=
  match Text.cutFirst '(' s with
  | (name, some rest) =>
    let (values, rawValue) := Text.cutLast '=' rest
    let values := Text.trim values
    ⟨Text.trim name, if values.isEmpty then [] else '(' :: values,
      Text.trim (rawValue.getD [])⟩
  | (_, none) =>
    let (name, rawValue) := Text.cutFirst '=' s
    ⟨Text.trim name, [], Text.trim (rawValue.getD [])⟩

def valueNodes (value : Text) : List SignatureNode :=
  if value.isEmpty then [] else [.labelled .addition value (" = " ++ value)]

def ofEnumEntry (owner : Option Text) (s : Text) : Signature :=
  let parts := cutEntry s
  let name := qualified owner parts.name
  { nodes := [.labelled .name parts.name parts.name] ++
      (if parts.associated.isEmpty then []
       else [.labelled .type parts.associated parts.associated]) ++
      valueNodes parts.rawValue
    description := ⟨name, name, true⟩ }

structure PropertyParts where
  name : Text
  type : Option Text
  value : Option Text
deriving Repr, DecidableEq

namespace PropertyParts

def isTypeInitial (c : Char) : Bool :=
  Word.isInitial c || c == '[' || c == '('

def isTypeChar (c : Char) : Bool :=
  isAsciiWord c || (0x9 ≤ c.toNat && c.toNat ≤ 0x2E) || ("<>[]?:" : Text).contains c

def type? (s : Text) : Option (Text × Text) :=
  match SymbolHeader.afterColon? s with
  | some (c :: s) =>
    if isTypeInitial c then some (c :: s.takeWhile isTypeChar, s.dropWhile isTypeChar) else none
  | _ => none

def value? (s : Text) : Option (Text × Text) := do
  let s ← Text.after? "=" (Text.trimLeft s)
  let s := Text.trimLeft s
  return (Header.beforeBrace s, Header.fromBrace s)

def parse? (s : Text) : Option (PropertyParts × Text) := do
  let (name, s) ← Word.identifier? s.trimLeft
  let (type, s) := match type? s with
    | some (type, rest) => (some type, rest)
    | none => (none, s)
  let (value, s) := match value? s with
    | some (value, rest) => (some value, rest)
    | none => (none, s)
  return (⟨name, type, value⟩, s)

end PropertyParts

def ofProperty (type : ObjectType) (owner : Option Text) (s : Text) :
    Except SignatureError Signature :=
  match PropertyParts.parse? s with
  | none => .error (.malformedProperty s)
  | some (parts, _) =>
    let name := qualified owner parts.name
    .ok {
      nodes := [.labelled .addition type.name (type.name ++ " "),
          .labelled .name parts.name parts.name] ++
        (parts.type.map fun type => SignatureNode.typeAnnotation (Text.trim type)).toList ++
        valueNodes (Text.trim (parts.value.getD []))
      description := ⟨name, name, true⟩ }

def read (type : ObjectType) (owner : Option Text) (s : Text) : Except SignatureError Signature :=
  match type.family with
  | .classLike => ofClass type owner s
  | .callable => ofCallable type owner s
  | .enumEntry => .ok (ofEnumEntry owner s)
  | .property => ofProperty type owner s

end Signature

end KotlinDoc
