import KotlinDoc.Domain.Signature
import KotlinDoc.Page.Directive
import KotlinDoc.Proofs.Index.Declaration
import KotlinDoc.Proofs.Index.Inventory

namespace KotlinDoc.Proofs

theorem identifier?_append_iff {name : Text} (named : Named false name) (s : Text) :
    (∃ rest, Word.identifier? (name ++ s) = some (name, rest)) ↔
      ∀ c ∈ s.head?, isWord c = false := by
  constructor
  · rintro ⟨rest, read⟩
    obtain ⟨-, same, ended⟩ := identifier?_eq_some_iff.mp read
    rwa [List.append_cancel_left same]
  · intro ended
    exact ⟨s, identifier?_append named ended⟩

theorem named_of_parse? {line after : Text} {header : PropertyHeader}
    (parsed : PropertyHeader.parse? line = some (header, after)) : Named false header.name := by
  simp only [PropertyHeader.parse?, Option.bind_eq_bind, Option.bind_eq_some_iff] at parsed
  obtain ⟨⟨keyword, s⟩, -, ⟨name, rest⟩, read, made⟩ := parsed
  have named := (identifier?_eq_some_iff.mp read).1
  split at made <;>
    (cases made; exact named)

theorem property_of_ofText {s raw : Text} {header : PropertyHeader}
    (read : ConstructorParameter.ofText s = .property header raw) :
    ∃ after, PropertyHeader.parse? s = some (header, after) := by
  unfold ConstructorParameter.ofText at read
  split at read
  · rename_i own after parsed
    cases read
    exact ⟨after, parsed⟩
  · split at read <;> cases read

def IsProperty (kind : MemberKind) : Prop :=
  kind = .plain .val ∨ kind = .plain .var

theorem named_of_mem_ofPrimary {header : InitialHeader} {docstring : List Text} {line : Int}
    {raw : Text} {member : Member} (found : member ∈ Member.ofPrimary header docstring line raw)
    (property : IsProperty member.kind) : Named false member.name := by
  rcases mem_ofPrimary found with ⟨kind, -⟩ | ⟨own, text, listed, made⟩
  · rw [kind] at property
    rcases property with other | other <;> cases other
  · cases made
    obtain ⟨s, -, read⟩ := List.mem_map.mp listed
    obtain ⟨after, parsed⟩ := property_of_ofText read
    exact named_of_parse? parsed

theorem property_of_kind {static : Bool} {header : MemberHeader}
    (property : IsProperty (header.kind static)) : ∃ own, header = .property own := by
  cases header with
  | property own => exact ⟨own, rfl⟩
  | _ => cases static <;> rcases property with kind | kind <;> cases kind

theorem named_of_mem_ofHeader {static : Bool} {docstring : List Text} {line : Int} {raw : Text}
    {header : MemberHeader} {member : Member}
    (found : member ∈ Member.ofHeader static docstring line raw header)
    (property : IsProperty member.kind)
    (parsed : ∀ own, header = .property own → Named false own.name) : Named false member.name := by
  rcases ofHeader_cases static docstring line raw header with
    made | ⟨kind, made⟩ | ⟨kind, made⟩ | ⟨-, own, -, made⟩ <;> rw [made] at found
  · obtain rfl := List.mem_singleton.mp found
    obtain ⟨own, rfl⟩ := property_of_kind property
    exact parsed own rfl
  · obtain rfl := List.mem_singleton.mp found
    rcases property with other | other <;> cases kind.symm.trans other
  · obtain rfl := List.mem_singleton.mp found
    rcases property with other | other <;> cases kind.symm.trans other
  · exact named_of_mem_ofPrimary found property

theorem property_of_mem_ofLine {inEnum : Bool} {line : Text} {own : PropertyHeader}
    (listed : MemberHeader.property own ∈ MemberHeader.ofLine inEnum line) :
    ∃ after, PropertyHeader.parse? line = some (own, after) := by
  unfold MemberHeader.ofLine at listed
  split at listed
  · simp at listed
  · simpa using listed

theorem named_of_mem_index? {inEnum : Bool} {lines : List Text} {position : Int}
    {members : List Member} (read : Member.index? inEnum lines position = some members)
    {member : Member} (found : member ∈ members) (property : IsProperty member.kind) :
    Named false member.name := by
  obtain ⟨line, header, listed, static, docstring, position, raw, made⟩ :=
    exists_header_of_mem_index? read found
  apply named_of_mem_ofHeader made property
  rintro own rfl
  obtain ⟨after, parsed⟩ := property_of_mem_ofLine listed
  exact named_of_parse? parsed

def signatureTail (rest : Text) : Text :=
  match Text.find? "get()" rest with
  | some position => rest.take position
  | none => rest

/-- No word starts the text, unless it is the start of a getter. -/
def Separate (rest : Text) : Prop :=
  Text.startsWith "get()" rest = true ∨ ∀ c ∈ rest.head?, isWord c = false

instance (rest : Text) : Decidable (Separate rest) :=
  match rest with
  | [] => isTrue (.inr nofun)
  | c :: s => decidable_of_iff (Text.startsWith "get()" (c :: s) = true ∨ isWord c = false)
      (by simp [Separate])

theorem separate_iff (rest : Text) :
    (∀ c ∈ (signatureTail rest).head?, isWord c = false) ↔ Separate rest := by
  unfold Separate signatureTail Text.startsWith
  cases rest with
  | nil => simp [Text.find?]
  | cons c s =>
      by_cases getter : ("get()" : Text).isPrefixOf (c :: s) = true
      · rw [Text.find?, if_pos getter]
        exact ⟨fun _ => .inl getter, fun _ c member => by cases member⟩
      · rw [Text.find?, if_neg getter]
        cases Text.find? "get()" s <;>
          exact ⟨.inr, fun separate => separate.resolve_left getter⟩

theorem entry_signature {member : Member} (property : IsProperty member.kind) :
    member.entry.signature = member.name ++ signatureTail (member.rest.getD []) := by
  have declared : member.entry.isProperty = true := by
    rcases property with kind | kind <;> simp only [MemberEntry.isProperty, Member.entry, kind] <;>
      rfl
  unfold MemberEntry.signature signatureTail
  simp only [declared, if_true]
  simp only [Member.entry]
  cases Text.find? "get()" (member.rest.getD []) <;> rfl

theorem entry_directive {member : Member} (property : IsProperty member.kind)
    (style : Directive.Style) :
    (member.entry.directive style).head? =
      some (Directive.opening member.kind.label member.entry.signature) := by
  rcases property with kind | kind <;>
    simp only [MemberEntry.directive, MemberEntry.isEnumCase, MemberEntry.directiveKind,
      MemberEntry.isProperty, Member.entry, kind] <;> rfl

theorem isProperty_of_label {kind : MemberKind} {type : ObjectType} (family : type.family = .property)
    (declared : kind.label = type.name) : IsProperty kind := by
  have keyword : type = .val ∨ type = .var := by
    cases type <;> first | exact .inl rfl | exact .inr rfl | cases family
  cases kind with
  | plain word =>
      cases word with
      | val => exact .inl rfl
      | var => exact .inr rfl
      | function => rcases keyword with rfl | rfl <;> exact absurd declared (by decide)
      | initial word =>
          rcases keyword with rfl | rfl <;> cases word <;> exact absurd declared (by decide)
  | companion word =>
      have first : (MemberKind.companion word).label.head? = some 's' := rfl
      rw [declared] at first
      rcases keyword with rfl | rfl <;> exact absurd first (by decide)
  | entry => rcases keyword with rfl | rfl <;> exact absurd declared (by decide)

def ReadsName (type : ObjectType) (owner : Option Text) (signature name : Text) : Prop :=
  ∃ result, Signature.read type owner signature = .ok result ∧
    SignatureNode.labelled .name name name ∈ result.nodes ∧
      result.description.fullName = Signature.qualified owner name

theorem parse?_name_iff (name s : Text) :
    (∃ parts after, Signature.PropertyParts.parse? s = some (parts, after) ∧ parts.name = name) ↔
      ∃ rest, Word.identifier? (Text.trimLeft s) = some (name, rest) := by
  unfold Signature.PropertyParts.parse?
  cases read : Word.identifier? (Text.trimLeft s) with
  | none => simp
  | some found =>
      obtain ⟨own, rest⟩ := found
      constructor
      · rintro ⟨parts, after, parsed, rfl⟩
        cases parsed
        exact ⟨rest, rfl⟩
      · rintro ⟨other, same⟩
        cases same
        exact ⟨_, _, rfl, rfl⟩

theorem name_of_mem_nodes {type : ObjectType} {owner : Option Text} {s : Text} {result : Signature}
    {parts : Signature.PropertyParts} {after name : Text}
    (parsed : Signature.PropertyParts.parse? s = some (parts, after))
    (read : Signature.ofProperty type owner s = .ok result)
    (shown : SignatureNode.labelled .name name name ∈ result.nodes) : parts.name = name := by
  simp only [Signature.ofProperty, parsed] at read
  cases read
  simp only [List.mem_append, List.mem_cons, List.not_mem_nil, or_false] at shown
  rcases shown with ((keyword | own) | annotated) | value
  · cases keyword
  · cases own
    rfl
  · obtain ⟨type, -, same⟩ := Option.map_eq_some_iff.mp (Option.mem_toList.mp annotated)
    cases same
  · unfold Signature.valueNodes at value
    split at value
    · cases value
    · cases List.mem_singleton.mp value

theorem readsName_iff {type : ObjectType} (family : type.family = .property) (owner : Option Text)
    {name : Text} (named : Named false name) (s : Text) :
    ReadsName type owner (name ++ s) name ↔ ∀ c ∈ s.head?, isWord c = false := by
  have reads : ∀ s, Signature.read type owner s = Signature.ofProperty type owner s := by
    intro s
    simp only [Signature.read, family]
  rw [← identifier?_append_iff named, ← trimLeft_eq_self (named.solid s), ← parse?_name_iff,
    trimLeft_eq_self (named.solid s)]
  constructor
  · rintro ⟨result, read, shown, -⟩
    rw [reads] at read
    cases parsed : Signature.PropertyParts.parse? (name ++ s) with
    | none =>
        simp only [Signature.ofProperty, parsed] at read
        cases read
    | some found => exact ⟨found.1, found.2, rfl, name_of_mem_nodes parsed read shown⟩
  · rintro ⟨parts, after, parsed, rfl⟩
    unfold ReadsName
    simp only [reads, Signature.ofProperty, parsed]
    exact ⟨_, rfl, by simp, rfl⟩

/-- The name of a property is read back from its directive just if what follows the name starts with
no word, or with a getter. -/
theorem property_name_read_iff {inEnum : Bool} {lines : List Text} {position : Int}
    {members : List Member} (indexed : Member.index? inEnum lines position = some members)
    {member : Member} (found : member ∈ members) {type : ObjectType}
    (family : type.family = .property) (declared : member.kind.label = type.name)
    (owner : Option Text) :
    (∀ style, (member.entry.directive style).head? =
      some (Directive.opening type.name member.entry.signature)) ∧
      (ReadsName type owner member.entry.signature member.name ↔
        Separate (member.rest.getD [])) := by
  have property := isProperty_of_label family declared
  have named := named_of_mem_index? indexed found property
  refine ⟨fun style => declared ▸ entry_directive property style, ?_⟩
  rw [entry_signature property, readsName_iff family owner named, separate_iff]

def counterBody : List Text :=
  ["    val x by lazy \x7b", "        1", "    \x7d", "    var y: Int = 2", "    val z get() = 3", "\x7d"]

def delegatedProperty : Member where
  visibility := .everyone
  line := 0
  kind := .plain .val
  name := "x"
  docstring := []
  rest := some "by lazy"
  origin := .body none
  raw := "    val x by lazy \x7b"

def typedProperty : Member where
  visibility := .everyone
  line := 3
  kind := .plain .var
  name := "y"
  docstring := []
  rest := some ": Int = 2"
  origin := .body none
  raw := "    var y: Int = 2"

def computedProperty : Member where
  visibility := .everyone
  line := 4
  kind := .plain .val
  name := "z"
  docstring := []
  rest := some "get() = 3"
  origin := .body none
  raw := "    val z get() = 3"

theorem property_name_read_iff_counter :
    Member.index? false counterBody 0 =
        some [delegatedProperty, typedProperty, computedProperty] ∧
      delegatedProperty.entry.signature = "xby lazy" ∧
        ¬ ReadsName .val (some "Counter") delegatedProperty.entry.signature "x" ∧
          ReadsName .var (some "Counter") typedProperty.entry.signature "y" ∧
            ReadsName .val (some "Counter") computedProperty.entry.signature "z" := by
  have indexed : Member.index? false counterBody 0 =
      some [delegatedProperty, typedProperty, computedProperty] := by
    decide +kernel
  have joined : ¬ Separate "by lazy" := by decide +kernel
  have typed : Separate ": Int = 2" := by decide +kernel
  have computed : Separate "get() = 3" := by decide +kernel
  exact ⟨indexed, rfl,
    fun read => joined ((property_name_read_iff indexed (by simp) rfl rfl _).2.mp read),
    (property_name_read_iff indexed (by simp) rfl rfl _).2.mpr typed,
    (property_name_read_iff indexed (by simp) rfl rfl _).2.mpr computed⟩

end KotlinDoc.Proofs
