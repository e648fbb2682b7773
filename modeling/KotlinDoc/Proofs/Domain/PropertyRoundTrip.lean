import KotlinDoc.Domain.Session
import KotlinDoc.Proofs.Domain.CallableRoundTrip
import KotlinDoc.Proofs.Source.ClassForms

namespace KotlinDoc.Proofs.Domain

open Signature

structure TypeText where
  text : Text
  starts : ∃ c ∈ text.head?, PropertyParts.isTypeInitial c = true
  written : ∀ c ∈ text, PropertyParts.isTypeChar c = true
  ends : ∀ c ∈ text.getLast?, isBlank c = false

structure ValueText where
  text : Text
  nonempty : text ≠ []
  trimmed : Text.trim text = text
  unbraced : '{' ∉ text

structure Property where
  name : Text
  named : Named false name
  type : Option TypeText
  value : Option ValueText

namespace Property

def typeText (property : Property) : Text :=
  match property.type with
  | none => []
  | some type => ": " ++ type.text

def valueText (property : Property) : Text :=
  match property.value with
  | none => []
  | some value => " = " ++ value.text

def text (property : Property) : Text :=
  property.name ++ (property.typeText ++ property.valueText)

def nodes (property : Property) : List SignatureNode :=
  [.element .name property.name [.text property.name]] ++
    (match property.type with
    | none => []
    | some type => [.element .type " : " [.text " : ", .reference type.text false type.text]]) ++
    match property.value with
    | none => []
    | some value => [.element .addition value.text [.text (" = " ++ value.text)]]

def signature (property : Property) (type : ObjectType) (owner : Option Text) : Signature where
  nodes := .element .addition type.name [.text (type.name ++ " ")] :: property.nodes
  description := {
    fullName := ownerPrefix owner ++ property.name
    anchor := ownerPrefix owner ++ property.name
    indexed := true }

end Property

theorem isBlank_of_isTypeInitial {c : Char} (initial : PropertyParts.isTypeInitial c = true) :
    isBlank c = false := by
  simp only [PropertyParts.isTypeInitial, Bool.or_eq_true, beq_iff_eq] at initial
  rcases initial with (letter | rfl) | rfl
  · exact isBlank_of_isWord (isWord_of_isAsciiWord (isAsciiWord_of_isInitial letter))
  · rfl
  · rfl

theorem TypeText.solid (type : TypeText) : ∀ c ∈ type.text.head?, isBlank c = false := by
  intro c first
  obtain ⟨d, start, initial⟩ := type.starts
  have same : d = c := Option.some.inj ((Option.mem_def.mp start).symm.trans first)
  exact same ▸ isBlank_of_isTypeInitial initial

theorem afterColon?_append (s : Text) :
    SymbolHeader.afterColon? (": " ++ s) = some (Text.trimLeft s) := by
  have solid : Text.trimLeft (": " ++ s) = ":" ++ (" " ++ s) := trimLeft_cons rfl _
  rw [SymbolHeader.afterColon?, solid, after?_append, Option.map_some, trimLeft_append space_blanks]

theorem afterColon?_eq_none {s : Text} (other : ∀ c ∈ (Text.trimLeft s).head?, c ≠ ':') :
    SymbolHeader.afterColon? s = none := by
  unfold SymbolHeader.afterColon?
  cases start : Text.trimLeft s with
  | nil => rfl
  | cons c rest =>
      have different : ':' ≠ c := fun same => other c (by simp [start]) same.symm
      simp [Text.after?, List.isPrefixOf?, different]

theorem type?_written (type : TypeText) {gap rest : Text}
    (inside : ∀ c ∈ gap, PropertyParts.isTypeChar c = true)
    (stop : ∀ c ∈ rest.head?, PropertyParts.isTypeChar c = false) :
    PropertyParts.type? (": " ++ (type.text ++ (gap ++ rest))) = some (type.text ++ gap, rest) := by
  obtain ⟨c, first, initial⟩ := type.starts
  cases written : type.text with
  | nil => simp [written] at first
  | cons d text =>
      obtain rfl : d = c := by simpa [written] using first
      have all : ∀ c ∈ text ++ gap, PropertyParts.isTypeChar c = true := by
        intro c member
        rcases List.mem_append.mp member with here | later
        · apply type.written
          simp [written, here]
        · exact inside c later
      have colon : SymbolHeader.afterColon? (": " ++ (d :: text ++ (gap ++ rest))) =
          some (d :: ((text ++ gap) ++ rest)) := by
        rw [afterColon?_append, List.cons_append, trimLeft_cons (isBlank_of_isTypeInitial initial),
          List.append_assoc]
      rw [PropertyParts.type?, colon]
      simp only [initial, if_true, takeWhile_append_stop all stop, dropWhile_append_stop all stop,
        List.cons_append]

theorem trimLeft_eq_of_trim {s : Text} (trimmed : Text.trim s = s) : Text.trimLeft s = s := by
  apply (trimLeft_suffix s).eq_of_length_le
  have shorter := (isPrefix_trimRight (Text.trimLeft s)).length_le
  rwa [← Text.trim, trimmed] at shorter

theorem value?_written (value : ValueText) {blanks : Text} (blank : Blanks blanks) :
    PropertyParts.value? (blanks ++ ("= " ++ value.text)) = some (value.text, []) := by
  have sign : Text.trimLeft ("= " ++ value.text) = "=" ++ (" " ++ value.text) := trimLeft_cons rfl _
  have start : Text.trimLeft value.text = value.text := trimLeft_eq_of_trim value.trimmed
  have unbraced : ∀ c ∈ value.text, (c != '{') = true := by
    intro c member
    exact bne_iff_ne.mpr fun same => value.unbraced (same ▸ member)
  have before : Header.beforeBrace value.text = value.text := List.takeWhile_eq_self_iff.mpr unbraced
  have after : Header.fromBrace value.text = [] := List.dropWhile_eq_nil_iff.mpr unbraced
  unfold PropertyParts.value?
  rw [trimLeft_append blank, sign, after?_append, Option.bind_eq_bind, Option.bind_some,
    trimLeft_append space_blanks, start]
  simp only [before, after]
  rfl

namespace Property

def gap (property : Property) : Text :=
  match property.value with
  | none => []
  | some _ => " "

def assignment (property : Property) : Text :=
  match property.value with
  | none => []
  | some value => "= " ++ value.text

theorem valueText_eq (property : Property) :
    property.valueText = property.gap ++ property.assignment := by
  unfold valueText gap assignment
  cases property.value <;> rfl

theorem gap_blanks (property : Property) : Blanks property.gap := by
  unfold gap
  cases property.value with
  | none => decide
  | some value => exact space_blanks

theorem gap_typeChars (property : Property) :
    ∀ c ∈ property.gap, PropertyParts.isTypeChar c = true := by
  unfold gap
  cases property.value <;> simp [PropertyParts.isTypeChar]

theorem assignment_head (property : Property) : ∀ c ∈ property.assignment.head?, c = '=' := by
  unfold assignment
  cases property.value <;> simp

theorem value?_assignment (property : Property) {blanks : Text} (blank : Blanks blanks) :
    PropertyParts.value? (blanks ++ property.assignment) =
      property.value.map fun value => (value.text, []) := by
  unfold assignment
  cases property.value with
  | none =>
      unfold PropertyParts.value?
      rw [trimLeft_append blank]
      rfl
  | some value => exact value?_written value blank

theorem parse?_text (property : Property) :
    PropertyParts.parse? property.text =
      some (⟨property.name, property.type.map fun type => type.text ++ property.gap,
        property.value.map (·.text)⟩, []) := by
  have ended : ∀ c ∈ (property.typeText ++ property.valueText).head?, isWord c = false := by
    unfold typeText valueText
    cases property.type <;> cases property.value <;> simp <;> decide
  have start : Text.trimLeft property.text = property.text :=
    trimLeft_eq_self (property.named.solid _)
  have name : Word.identifier? property.text =
      some (property.name, property.typeText ++ property.valueText) :=
    identifier?_append property.named ended
  have stop : ∀ c ∈ property.assignment.head?, PropertyParts.isTypeChar c = false := by
    intro c first
    rw [property.assignment_head c first]
    rfl
  unfold PropertyParts.parse?
  rw [start, name, Option.bind_eq_bind, Option.bind_some, valueText_eq]
  unfold typeText
  cases property.type with
  | none =>
      have untyped : PropertyParts.type? (property.gap ++ property.assignment) = none := by
        rw [PropertyParts.type?, afterColon?_eq_none]
        rw [trimLeft_append property.gap_blanks, trimLeft_eq_self]
        · intro c first
          rw [property.assignment_head c first]
          decide
        · intro c first
          rw [property.assignment_head c first]
          rfl
      simp only [List.nil_append, untyped, property.value?_assignment property.gap_blanks]
      unfold assignment gap
      cases property.value <;> rfl
  | some type =>
      have valued : PropertyParts.value? property.assignment =
          property.value.map fun value => (value.text, []) :=
        property.value?_assignment (by decide : Blanks [])
      simp only [List.append_assoc, type?_written type property.gap_typeChars stop, valued]
      unfold assignment
      cases property.value <;> rfl

theorem nodes_eq (property : Property) :
    [SignatureNode.labelled .name property.name property.name] ++
      ((property.type.map fun type => type.text ++ property.gap).map fun type =>
        SignatureNode.typeAnnotation (Text.trim type)).toList ++
      valueNodes (Text.trim ((property.value.map (·.text)).getD [])) = property.nodes := by
  have name : SignatureNode.textOf property.name = [.text property.name] := by
    obtain ⟨c, first, -⟩ := property.named.starts
    apply textOf_eq
    rintro empty
    simp [empty] at first
  have trimmed (type : TypeText) : Text.trim (type.text ++ property.gap) = type.text := by
    rw [trim_append_right _ property.gap_blanks, trim_eq_self type.solid type.ends]
  have values : valueNodes (Text.trim ((property.value.map (·.text)).getD [])) =
      match property.value with
      | none => []
      | some value => [.element .addition value.text [.text (" = " ++ value.text)]] := by
    cases property.value with
    | none => rfl
    | some value =>
        have filled : value.text.isEmpty = false := by simpa using value.nonempty
        simp [valueNodes, value.trimmed, filled, SignatureNode.labelled, SignatureNode.textOf]
  rw [values]
  unfold nodes
  cases property.type <;>
    simp [SignatureNode.labelled, name, trimmed, SignatureNode.typeAnnotation]

end Property

theorem warnings_readSignature {type : ObjectType} {opening : Session.Opening} {s : Text}
    {signature : Signature} (read : Signature.read type opening.session.owner.name s = .ok signature) :
    (Session.readSignature type true opening s).1.warnings = opening.warnings := by
  unfold Session.readSignature
  rw [read]
  dsimp only
  split
  · rfl
  · simp [Session.record]

/-- A written property is read back: its name, its type and its value, and without a warning. -/
theorem read_property (type : ObjectType) (family : type.family = .property) (owner : Option Text)
    (property : Property) :
    Signature.read type owner property.text = .ok (property.signature type owner) ∧
    ∀ opening : Session.Opening, opening.session.owner.name = owner →
      (Session.readSignature type true opening property.text).1.warnings = opening.warnings := by
  have keyword : SignatureNode.textOf (type.name ++ " ") = [.text (type.name ++ " ")] :=
    textOf_eq (by simp)
  have read : Signature.read type owner property.text = .ok (property.signature type owner) := by
    unfold Signature.read
    rw [family]
    dsimp only
    rw [ofProperty, property.parse?_text, Property.signature]
    dsimp only
    rw [qualified_eq, ← property.nodes_eq, SignatureNode.labelled, keyword]
    rfl
  refine ⟨read, ?_⟩
  rintro opening rfl
  exact warnings_readSignature read

def tableProperty : Property where
  name := "table"
  named := by decide
  type := some {
    text := "(Int, String?) -> Map<String, List<Int>>"
    starts := ⟨'(', rfl, rfl⟩
    written := List.all_eq_true.mp (by decide +kernel)
    ends := by simp [isBlank] }
  value := some {
    text := "mapOf(1 to listOf(2)) = x"
    nonempty := by decide
    trimmed := by decide +kernel
    unbraced := by decide }

theorem read_property_table :
    ObjectType.family .val = .property ∧
    tableProperty.text = ("table: (Int, String?) -> Map<String, List<Int>>" ++
      " = mapOf(1 to listOf(2)) = x" : String) ∧
    Signature.read .val (some "Outer.Inner") tableProperty.text =
      .ok (tableProperty.signature .val (some "Outer.Inner")) ∧
    ∀ opening : Session.Opening, opening.session.owner.name = some "Outer.Inner" →
      (Session.readSignature .val true opening tableProperty.text).1.warnings = opening.warnings :=
  ⟨rfl, by decide +kernel, read_property .val rfl (some "Outer.Inner") tableProperty⟩

end KotlinDoc.Proofs.Domain
