import KotlinDoc.Proofs.Domain.CallableRoundTrip
import KotlinDoc.Proofs.Text.Spacing

namespace KotlinDoc.Proofs.Domain

structure ParameterText where
  text : Text
  parameters : List Parameter
  paired : Paired text
  accepted : parametersOf? text = some parameters

/-- The type that is read if its first character is taken for a blank. -/
def clipped (type : Text) : Option Text :=
  if (Text.trim (type.drop 1)).isEmpty then none else some (Text.trim (type.drop 1))

theorem clipped_ne_self {type : Text} (filled : type ≠ []) : clipped type ≠ some type := by
  intro same
  unfold clipped at same
  split at same
  · cases same
  · have shorter := (isInfix_trim (type.drop 1)).length_le
    have positive := List.length_pos_iff.mpr filled
    rw [Option.some.inj same, List.length_drop] at shorter
    omega

theorem returnType?_spaced {before after : Text} (blankBefore : Blanks before)
    (blankAfter : Blanks after) (returns : ReturnType) :
    Signature.returnType? (before ++ ':' :: (after ++ returns.text)) =
      if after = [] then clipped returns.text else some returns.text := by
  have colon : Text.cutFirst ':' (before ++ ':' :: (after ++ returns.text)) =
      (before, some (after ++ returns.text)) :=
    cutFirst_append (notMem_of_blanks blankBefore (by decide)) _
  unfold Signature.returnType?
  rw [colon]
  cases after with
  | nil => rfl
  | cons blank after =>
      have rest : Blanks after := fun c member => blankAfter c (List.mem_cons_of_mem _ member)
      have filled : returns.text.isEmpty = false := by simpa using returns.nonempty
      simp [trim_append_left rest, returns.trimmed, filled]

def spacedSignature (name : Identifier) (list : ParameterText) (before after : Text)
    (returns : ReturnType) : Text :=
  name.text ++ '(' :: (list.text ++ ')' :: (before ++ ':' :: (after ++ returns.text)))

def shownReturn? (signature : Signature) : Option Text :=
  match signature.nodes.getLast? with
  | some (.element .type _ [.text _, .reference target _ _]) => some target
  | _ => none

section

variable (type : ObjectType) (owner : Option Text)

theorem shownReturn?_assembled (name typeParameters : Text) (parameters : List Parameter)
    (returns : Option Text) :
    shownReturn? (assembled type owner name typeParameters parameters returns) = returns := by
  unfold shownReturn? assembled
  cases returns with
  | none => simp only [Option.map_none, Option.toList_none, List.append_nil, List.getLast?_concat]
  | some returned =>
      simp only [Option.map_some, Option.toList_some, List.getLast?_concat,
        SignatureNode.typeAnnotation]

theorem read_spacedSignature (family : type.family = .callable) (name : Identifier)
    (list : ParameterText) (returns : ReturnType) {before after : Text}
    (blankBefore : Blanks before) (blankAfter : Blanks after) :
    Signature.read type owner (spacedSignature name list before after returns) =
      .ok (assembled type owner (calledName type name.text) [] list.parameters
        (if after = [] then clipped returns.text else some returns.text)) := by
  unfold Signature.read spacedSignature
  rw [family]
  dsimp only
  rw [ofCallable_eq_assembled,
    cutCallable_append (name.notMem (by decide)) (name.notMem (by decide))]
  dsimp only
  rw [cutParameters_paired list.paired, list.accepted, returnType?_spaced blankBefore blankAfter]

/-- A function is read with its return type, and as it is with one space on each side of the colon,
just if there is a blank after the colon. Otherwise the type is clipped. -/
theorem return_spacing_irrelevant_iff (family : type.family = .callable) (name : Identifier)
    (list : ParameterText) (returns : ReturnType) {before after : Text}
    (blankBefore : Blanks before) (blankAfter : Blanks after) :
    ((∃ signature,
        Signature.read type owner (spacedSignature name list before after returns) = .ok signature ∧
        shownReturn? signature = some returns.text ∧
        Signature.read type owner (spacedSignature name list " " " " returns) = .ok signature) ↔
      after ≠ []) ∧
    (after = [] →
      Signature.read type owner (spacedSignature name list before after returns) =
        .ok (assembled type owner (calledName type name.text) [] list.parameters
          (clipped returns.text))) := by
  have single : Signature.read type owner (spacedSignature name list " " " " returns) =
      .ok (assembled type owner (calledName type name.text) [] list.parameters
        (some returns.text)) :=
    read_spacedSignature type owner family name list returns space_blanks space_blanks
  have here := read_spacedSignature type owner family name list returns blankBefore blankAfter
  refine ⟨⟨?_, ?_⟩, ?_⟩
  · rintro ⟨signature, read, shown, -⟩ rfl
    rw [here, if_pos rfl] at read
    rw [← Except.ok.inj read, shownReturn?_assembled] at shown
    exact clipped_ne_self returns.nonempty shown
  · intro spaced
    rw [if_neg spaced] at here
    exact ⟨_, here, shownReturn?_assembled .., single⟩
  · rintro rfl
    rw [here, if_pos rfl]

end

def areaName : Identifier :=
  .ofText "area" (by decide) (by decide)

def areaList : ParameterText where
  text := "shape: (Int, Int), scale: Float = size(2)"
  parameters := [⟨"shape", "(Int, Int)", none⟩, ⟨"scale", "Float", some "size(2)"⟩]
  paired := by decide +kernel
  accepted := by decide +kernel

def areaReturn : ReturnType :=
  ⟨"Float", by decide, by decide⟩

/-- With no blank after the colon `Float` is read as `loat`. -/
theorem return_spacing_irrelevant_iff_area :
    spacedSignature areaName areaList "\t" [] areaReturn =
      ("area(shape: (Int, Int), scale: Float = size(2))\t:Float" : String) ∧
    Blanks "\t" ∧ Blanks [] ∧ ObjectType.family .topFunction = .callable ∧
    (¬ ∃ signature,
      Signature.read .topFunction (some "Shape") (spacedSignature areaName areaList "\t" [] areaReturn) =
        .ok signature ∧
      shownReturn? signature = some areaReturn.text ∧
      Signature.read .topFunction (some "Shape") (spacedSignature areaName areaList " " " " areaReturn) =
        .ok signature) ∧
    Signature.read .topFunction (some "Shape") (spacedSignature areaName areaList "\t" [] areaReturn) =
      .ok (assembled .topFunction (some "Shape") "area" [] areaList.parameters (some "loat")) := by
  have tab : Blanks "\t" := by decide
  have nothing : Blanks [] := by decide
  have clipping := return_spacing_irrelevant_iff .topFunction (some "Shape") rfl areaName areaList
    areaReturn tab nothing
  exact ⟨by decide +kernel, tab, nothing, rfl, fun found => clipping.1.mp found rfl, clipping.2 rfl⟩

end KotlinDoc.Proofs.Domain
