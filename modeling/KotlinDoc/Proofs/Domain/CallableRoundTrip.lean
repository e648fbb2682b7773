import KotlinDoc.Proofs.Domain.TypeGrammar

namespace KotlinDoc.Proofs.Domain

structure ReturnType where
  text : Text
  nonempty : text ≠ []
  trimmed : Text.trim text = text

structure Callable where
  name : Identifier
  parameters : List TypedParameter
  returns : Option ReturnType

namespace Callable

def list (callable : Callable) : Text :=
  Text.joined ", " (callable.parameters.map (·.text))

def returnText (callable : Callable) : Text :=
  match callable.returns with
  | none => []
  | some type => " : " ++ type.text

def text (callable : Callable) : Text :=
  callable.name.text ++ '(' :: (callable.list ++ ')' :: callable.returnText)

def names (callable : Callable) : Text :=
  callable.parameters.flatMap fun parameter => parameter.name.text ++ ":"

def title (callable : Callable) : Text :=
  callable.name.text ++ "(" ++ callable.names ++ ")"

def anchor (callable : Callable) : Text :=
  callable.title ++ match callable.returns with
    | none => []
    | some type => '-' :: type.text

end Callable

def ownerPrefix : Option Text → Text
  | none | some [] => []
  | some owner => owner ++ "."

def TypedParameter.node (parameter : TypedParameter) : SignatureNode :=
  .element .parameter (parameter.name.text ++ ": ")
    ([.text (parameter.name.text ++ ": "),
      .reference parameter.type.text false parameter.type.text] ++
      match parameter.default with
      | none => []
      | some default => [.text (" = " ++ default.text)])

def Callable.nodes (callable : Callable) : List SignatureNode :=
  [.element .name callable.name.text [.text callable.name.text],
    .element .parameterList callable.names (callable.parameters.map (·.node))] ++
    match callable.returns with
    | none => []
    | some type => [.element .type " : " [.text " : ", .reference type.text false type.text]]

def parametersOf? (list : Text) : Option (List Parameter) :=
  if list.isEmpty then some [] else Parameter.list? list

def assembled (type : ObjectType) (owner : Option Text) (name typeParameters : Text)
    (parameters : List Parameter) (returns : Option Text) : Signature :=
  let title := name ++ "(" ++ Parameter.names parameters ++ ")"
  { nodes := Signature.leadingWords type ++ [.labelled .name name name] ++
      (if typeParameters.isEmpty then [] else [.labelled .addition typeParameters typeParameters]) ++
      [.element .parameterList (Parameter.names parameters)
        (parameters.map Signature.parameterNode)] ++
      (returns.map SignatureNode.typeAnnotation).toList
    description := ⟨Signature.qualified owner title,
      Signature.qualified owner (title ++ (returns.map ('-' :: ·)).getD []), true⟩ }

def calledName (type : ObjectType) (name : Text) : Text :=
  if type == .initializer then "init" else name

theorem ofCallable_eq_assembled (type : ObjectType) (owner : Option Text) (s : Text) :
    Signature.ofCallable type owner s =
      match parametersOf? (Signature.cutParameters (Signature.cutCallable s).rest).1 with
      | some parameters => .ok (assembled type owner
          (calledName type (Signature.cutCallable s).name) (Signature.cutCallable s).typeParameters
          parameters
          (Signature.returnType? (Signature.cutParameters (Signature.cutCallable s).rest).2))
      | none => .error .parameterWithoutType := by
  unfold Signature.ofCallable parametersOf? assembled calledName
  dsimp only
  split
  · rfl
  · cases Parameter.list? (Signature.cutParameters (Signature.cutCallable s).rest).1 <;> rfl

theorem ofCallable_eq {type : ObjectType} (ordinary : type ≠ .initializer) (owner : Option Text)
    (s : Text) :
    Signature.ofCallable type owner s =
      match parametersOf? (Signature.cutParameters (Signature.cutCallable s).rest).1 with
      | some parameters => .ok (assembled type owner (Signature.cutCallable s).name
          (Signature.cutCallable s).typeParameters parameters
          (Signature.returnType? (Signature.cutParameters (Signature.cutCallable s).rest).2))
      | none => .error .parameterWithoutType := by
  have named : calledName type (Signature.cutCallable s).name = (Signature.cutCallable s).name :=
    if_neg (by simpa using ordinary)
  rw [ofCallable_eq_assembled, named]

theorem cutCallable_append {name : Text} (noParen : '(' ∉ name) (noAngle : '<' ∉ name)
    (rest : Text) :
    Signature.cutCallable (name ++ '(' :: rest) = ⟨name, [], '(' :: rest⟩ := by
  have paren : Text.find? "(" (name ++ '(' :: rest) = some name.length := by
    show Text.find? ['('] _ = _
    rw [find?_append noParen, find?_cons_self]
    simp
  have whole : name.takeWhile (· != '<') = name := by
    rw [List.takeWhile_eq_self_iff]
    intro c member
    exact bne_iff_ne.mpr fun same => noAngle (same ▸ member)
  unfold Signature.cutCallable
  rw [paren]
  -- An angle bracket comes after the name, and so after the parenthesis, if there is one at all.
  have angle : Text.find? "<" (name ++ '(' :: rest) =
      (Text.find? ['<'] ('(' :: rest)).map (· + name.length) := find?_append noAngle _
  rw [angle]
  cases Text.find? ['<'] ('(' :: rest) with
  | none => simp [whole]
  | some position =>
      have later : ¬ position + name.length < name.length := by omega
      simp [whole, later]

theorem cutCallable_text (callable : Callable) :
    Signature.cutCallable callable.text =
      ⟨callable.name.text, [], '(' :: (callable.list ++ ')' :: callable.returnText)⟩ :=
  cutCallable_append (callable.name.notMem (by decide)) (callable.name.notMem (by decide)) _

theorem returnType?_text (callable : Callable) :
    Signature.returnType? callable.returnText = callable.returns.map (·.text) := by
  unfold Callable.returnText
  split
  · rename_i absent
    simp [absent, Signature.returnType?, Text.cutFirst]
  · rename_i type present
    have written : (" : " : Text) ++ type.text = [' '] ++ ':' :: (' ' :: type.text) := rfl
    have filled : type.text.isEmpty = false := by simpa using type.nonempty
    unfold Signature.returnType?
    rw [written, cutFirst_append (by decide)]
    simp [present, type.trimmed, filled]

theorem list_nested (callable : Callable) : Nested true callable.list := by
  refine .joined fun s member => ?_
  obtain ⟨parameter, -, rfl⟩ := List.mem_map.mp member
  exact parameter.text_nested.within

theorem textOf_eq {s : Text} (filled : s ≠ []) : SignatureNode.textOf s = [.text s] := by
  simp [SignatureNode.textOf, filled]

theorem parameterNode_parameter (parameter : TypedParameter) :
    Signature.parameterNode parameter.parameter = parameter.node := by
  obtain ⟨name, type, default⟩ := parameter
  have label : name.text ++ (": " : Text) ≠ [] := by simp
  unfold Signature.parameterNode TypedParameter.node TypedParameter.parameter
  dsimp only
  rw [textOf_eq label]
  cases default with
  | none => rfl
  | some default =>
      cases written : default.text with
      | nil => exact absurd written default.nonempty
      | cons c s => simp [written]

theorem names_parameter (callable : Callable) :
    Parameter.names (callable.parameters.map (·.parameter)) = callable.names := by
  simp [Parameter.names, Callable.names, List.flatMap_map, TypedParameter.parameter]

theorem qualified_eq (owner : Option Text) (name : Text) :
    Signature.qualified owner name = ownerPrefix owner ++ name := by
  unfold Signature.qualified ownerPrefix
  split <;> simp

theorem parametersOf?_of_list? {list : Text} {parameters : List Parameter}
    (read : Parameter.list? list = some parameters) : parametersOf? list = some parameters := by
  unfold parametersOf?
  split
  · -- The text of a parameter is not empty.
    rename_i empty
    rw [List.isEmpty_iff.mp empty] at read
    cases read
  · exact read

theorem parametersOf?_list (callable : Callable) :
    parametersOf? callable.list = some (callable.parameters.map (·.parameter)) := by
  unfold Callable.list
  cases callable.parameters with
  | nil => rfl
  | cons first parameters => exact parametersOf?_of_list? (first.list?_joined parameters)

/-- A written function is read back: its parameters with their names, types and default values, its
return type, and the description made from them. -/
theorem read_callable (type : ObjectType) (family : type.family = .callable)
    (ordinary : type ≠ .initializer) (owner : Option Text) (callable : Callable) :
    Signature.read type owner callable.text = .ok {
      nodes := Signature.leadingWords type ++ callable.nodes
      description := {
        fullName := ownerPrefix owner ++ callable.title
        anchor := ownerPrefix owner ++ callable.anchor
        indexed := true } } := by
  have shown : (callable.parameters.map (·.parameter)).map Signature.parameterNode =
      callable.parameters.map (·.node) := by
    rw [List.map_map]
    exact List.map_congr_left fun parameter _ => parameterNode_parameter parameter
  have anchor : callable.title ++ ((callable.returns.map (·.text)).map ('-' :: ·)).getD [] =
      callable.anchor := by
    unfold Callable.anchor
    cases callable.returns <;> rfl
  unfold Signature.read
  rw [family]
  dsimp only
  rw [ofCallable_eq ordinary, cutCallable_text]
  dsimp only
  rw [cutParameters_nested (list_nested callable), returnType?_text, parametersOf?_list]
  unfold assembled SignatureNode.labelled
  dsimp only
  rw [shown, names_parameter, textOf_eq callable.name.nonempty, ← Callable.title, anchor,
    qualified_eq, qualified_eq]
  congr 2
  unfold Callable.nodes
  cases callable.returns <;> simp [SignatureNode.typeAnnotation]

def intName : Identifier :=
  .ofText "Int" (by decide) (by decide +kernel)

def mergeFunction : Callable where
  name := .ofText "merge" (by decide) (by decide +kernel)
  parameters :=
    let map := Identifier.ofText "Map" (by decide) (by decide +kernel)
    let kotlin := Identifier.ofText "kotlin" (by decide) (by decide +kernel)
    [⟨.ofText "left" (by decide) (by decide +kernel),
        .generic map [.named kotlin [intName],
          .array (.tuple [.named intName [], .nullable (.named intName [])])],
        none⟩,
      ⟨.ofText "limit" (by decide) (by decide +kernel), .nullable (.named intName []),
        some ⟨"10", by decide, by decide +kernel, by simp⟩⟩]
  returns := some ⟨"Map<Int, (Int) -> Int>", by decide, by decide +kernel⟩

theorem read_callable_mergeFunction :
    mergeFunction.text = ("merge(left: Map<kotlin.Int, [(Int, Int?)]>, limit: Int? = 10)" ++
      " : Map<Int, (Int) -> Int>" : String) ∧
    Signature.read .staticFunction (some "Tree") mergeFunction.text = .ok {
      nodes := Signature.leadingWords .staticFunction ++ mergeFunction.nodes
      description := {
        fullName := ownerPrefix (some "Tree") ++ mergeFunction.title
        anchor := ownerPrefix (some "Tree") ++ mergeFunction.anchor
        indexed := true } } :=
  ⟨by decide +kernel, read_callable .staticFunction rfl (by decide) (some "Tree") mergeFunction⟩

end KotlinDoc.Proofs.Domain
