import KotlinDoc.Domain.Reference
import KotlinDoc.Proofs.Domain.TypeGrammar
import KotlinDoc.Proofs.Text.Cutting

namespace KotlinDoc.Proofs.Domain

def found? (table : ObjectTable) (name : Text) : Option ObjectEntry :=
  (table.entries.find? fun item => (Link.fullNames name).contains item.1).map (·.2)

/-- The target leads to the document and the anchor of the object. -/
def Resolves (table : ObjectTable) (entry : ObjectEntry) (target : Text) : Prop :=
  ∀ content, ∃ link, Link.resolve? table target content = some link ∧
    link.destination = .internal entry.document entry.anchor

def SamePlace (first second : ObjectEntry) : Prop :=
  first.document = second.document ∧ first.anchor = second.anchor

theorem resolve?_of_found {table : ObjectTable} {target : Text} {entry : ObjectEntry}
    (found : found? table (Link.lookupName target) = some entry) (content : Text) :
    Link.resolve? table target content =
      some (Link.toObject entry (Link.lookupName target) content) := by
  obtain ⟨item, isFirst, rfl⟩ := Option.map_eq_some_iff.1 found
  simp only [Link.resolve?, isFirst]

theorem external_of_not_found {table : ObjectTable} {target content : Text} {link : Link}
    (absent : found? table (Link.lookupName target) = none)
    (resolved : Link.resolve? table target content = some link) :
    ∃ address, link.destination = .external address := by
  simp only [Link.resolve?, Option.map_eq_none_iff.1 absent] at resolved
  split at resolved
  · cases resolved
    exact ⟨_, rfl⟩
  · cases resolved

theorem resolves_iff {table : ObjectTable} {entry : ObjectEntry} {target : Text} :
    Resolves table entry target ↔
      ∃ other, found? table (Link.lookupName target) = some other ∧ SamePlace other entry := by
  constructor
  · intro resolves
    obtain ⟨link, resolved, leads⟩ := resolves []
    cases found : found? table (Link.lookupName target) with
    | none =>
        obtain ⟨address, away⟩ := external_of_not_found found resolved
        cases leads.symm.trans away
    | some other =>
        rw [resolve?_of_found found] at resolved
        obtain rfl := Option.some.inj resolved
        exact ⟨other, rfl, Destination.internal.inj leads⟩
  · rintro ⟨other, found, document, anchor⟩ content
    refine ⟨_, resolve?_of_found found content, ?_⟩
    rw [← document, ← anchor]
    rfl

theorem endsWith_singleton {c : Char} {s : Text} :
    Text.endsWith [c] s = true ↔ s.getLast? = some c := by
  rw [Text.endsWith, List.isSuffixOf_iff_suffix]
  constructor
  · rintro ⟨before, rfl⟩
    simp
  · intro last
    obtain ⟨before, rfl⟩ := List.getLast?_eq_some_iff.1 last
    exact List.suffix_append _ _

theorem unwrapped_of_word {s : Text} {c : Char} (last : s.getLast? = some c)
    (word : isWord c = true) : Link.unwrapped s = s := by
  have other : ∀ mark, isWord mark = false → ¬ Text.endsWith [mark] s = true := by
    intro mark noWord ends
    rw [endsWith_singleton, last] at ends
    obtain rfl := Option.some.inj ends
    rw [word] at noWord
    cases noWord
  simp [Link.unwrapped, other '?' (by decide +kernel), other '!' (by decide +kernel),
    other ']' (by decide +kernel)]

theorem unwrapped_nullable (s : Text) : Link.unwrapped (s ++ ['?']) = s := by
  have ends : Text.endsWith ['?'] (s ++ ['?']) = true := by simp [endsWith_singleton]
  simp [Link.unwrapped, ends]

variable (first : Identifier) (more : List Identifier)

def afterFirst (more : List Identifier) : Text :=
  more.flatMap fun part => '.' :: part.text

theorem named_text : (KotlinType.named first more).text = first.text ++ afterFirst more := by
  rw [KotlinType.text, afterFirst]

theorem nullable_text (type : KotlinType) :
    (KotlinType.nullable type).text = type.text ++ ['?'] := by
  rw [KotlinType.text]

theorem last_named :
    ∃ c, (KotlinType.named first more).text.getLast? = some c ∧ isWord c = true := by
  rw [named_text]
  rcases List.eq_nil_or_concat more with rfl | ⟨before, last, rfl⟩
  · refine ⟨first.text.getLast first.nonempty, ?_, first.word _ (List.getLast_mem _)⟩
    simp [afterFirst, List.getLast?_eq_some_getLast first.nonempty]
  · refine ⟨last.text.getLast last.nonempty, ?_, last.word _ (List.getLast_mem _)⟩
    simp [afterFirst, List.getLast?_append, List.getLast?_cons,
      List.getLast?_eq_some_getLast last.nonempty]

theorem dot_mem_named : '.' ∈ (KotlinType.named first more).text ↔ more ≠ [] := by
  have plain : '.' ∉ first.text := first.notMem (by decide +kernel)
  cases more with
  | nil => simp [named_text, afterFirst, plain]
  | cons part more => simp [named_text, afterFirst]

theorem lookupName_of_unwrapped {target : Text}
    (unwrapped : Link.unwrapped target = (KotlinType.named first more).text) :
    Link.lookupName target = if more = [] then first.text else afterFirst more := by
  simp only [Link.lookupName, unwrapped, List.contains_iff_mem, dot_mem_named]
  cases more with
  | nil => simp [named_text, afterFirst]
  | cons part more =>
      simp only [named_text, ne_eq, reduceCtorEq, not_false_eq_true, if_true, if_false]
      apply dropWhile_append_stop
      · intro c member
        have other : c ≠ '.' := fun same => first.notMem (by decide +kernel) (same ▸ member)
        simpa using other
      · simp [afterFirst]

theorem lookupName_named :
    Link.lookupName (KotlinType.named first more).text =
      if more = [] then first.text else afterFirst more := by
  obtain ⟨c, last, word⟩ := last_named first more
  exact lookupName_of_unwrapped first more (unwrapped_of_word last word)

theorem lookupName_nullable :
    Link.lookupName (KotlinType.nullable (.named first more)).text =
      if more = [] then first.text else afterFirst more := by
  apply lookupName_of_unwrapped
  rw [nullable_text, unwrapped_nullable]

theorem roleWord_of_ordered {type : ObjectType} (ordered : type ∈ ObjectType.ordered) :
    type.roleWord = type.name := by
  cases type <;> simp [ObjectType.ordered] at ordered <;> rfl

theorem dot_notMem_name (type : ObjectType) : '.' ∉ type.name := by
  cases type <;> decide

theorem roleTarget_named {type : ObjectType} (ordered : type ∈ ObjectType.ordered) :
    type.roleTarget (KotlinType.named first more).text =
      if more = [] then type.name ++ " " ++ first.text else (KotlinType.named first more).text := by
  simp only [ObjectType.roleTarget, List.contains_iff_mem, dot_mem_named,
    roleWord_of_ordered ordered]
  cases more with
  | nil => simp [named_text, afterFirst]
  | cons part more => simp

theorem lookupName_typed (type : ObjectType) :
    Link.lookupName (type.name ++ " " ++ first.text) = type.name ++ " " ++ first.text := by
  have last : (type.name ++ " " ++ first.text).getLast? =
      some (first.text.getLast first.nonempty) := by
    rw [List.getLast?_append_of_ne_nil _ first.nonempty]
    exact List.getLast?_eq_some_getLast first.nonempty
  have unwrapped := unwrapped_of_word last (first.word _ (List.getLast_mem _))
  have plain : '.' ∉ type.name ++ " " ++ first.text := by
    simp [dot_notMem_name, first.notMem (show isWord '.' = false by decide +kernel)]
  simp only [Link.lookupName, unwrapped, List.contains_iff_mem, plain, if_false]

def classItem (type : ObjectType) (document name : Text) : Text × ObjectEntry :=
  (type.name ++ " " ++ name, ⟨document, type.name, type.name ++ " " ++ name⟩)

/-- A class is recorded, and nothing else under a name that ends in the class name. -/
structure Declared (table : ObjectTable) (type : ObjectType) (document name : Text) : Prop where
  ordered : type ∈ ObjectType.ordered
  stored : classItem type document name ∈ table.entries
  alone : ∀ item ∈ table.entries, Text.endsWith (' ' :: name) item.1 = true →
    item = classItem type document name

variable {first more} {table : ObjectTable} {type : ObjectType} {document name : Text}

theorem Declared.eq_of_fullName (declared : Declared table type document name)
    {item : Text × ObjectEntry} (member : item ∈ table.entries) {other : Text}
    (fullName : (Link.fullNames other).contains item.1 = true)
    (ends : ' ' :: name <:+ ' ' :: other) : item = classItem type document name := by
  apply declared.alone item member
  obtain ⟨otherType, -, same⟩ := List.mem_map.1 (List.contains_iff_mem.1 fullName)
  rw [Text.endsWith, List.isSuffixOf_iff_suffix, ← same, List.append_assoc]
  exact ends.trans (List.suffix_append _ _)

theorem Declared.found (declared : Declared table type document name) :
    found? table name = some (classItem type document name).2 := by
  unfold found?
  cases isFirst : table.entries.find? fun item => (Link.fullNames name).contains item.1 with
  | none =>
      have absent := List.find?_eq_none.1 isFirst _ declared.stored
      refine absurd (List.contains_iff_mem.2 ?_) absent
      exact List.mem_map.2 ⟨type, declared.ordered, rfl⟩
  | some item =>
      have fullName := List.find?_some isFirst
      rw [declared.eq_of_fullName (List.mem_of_find?_eq_some isFirst) fullName (List.suffix_refl _)]
      rfl

theorem Declared.not_found_typed (declared : Declared table type document name) :
    found? table (type.name ++ " " ++ name) = none := by
  rw [found?, Option.map_eq_none_iff, List.find?_eq_none]
  intro item member fullName
  have ends : ' ' :: name <:+ ' ' :: (type.name ++ " " ++ name) := ⟨' ' :: type.name, by simp⟩
  have isItem := declared.eq_of_fullName member fullName ends
  -- the full name has a type before the one that the class is recorded with
  obtain ⟨other, -, same⟩ := List.mem_map.1 (List.contains_iff_mem.1 fullName)
  have lengths := congrArg List.length (same.trans (congrArg Prod.fst isItem))
  simp only [classItem, List.length_append, show (" ".toList).length = 1 from rfl] at lengths
  omega

/-- A reference to a recorded class, by its name or as a nullable type, leads to it just if the name
has no dot, or else if the name without its first part happens to be recorded at the same place. A
role leads to it in the latter case only. -/
theorem class_references (first : Identifier) (more : List Identifier)
    (declared : Declared table type document (KotlinType.named first more).text) :
    let entry := (classItem type document (KotlinType.named first more).text).2
    let recordedTwice :=
      ∃ other, found? table (afterFirst more) = some other ∧ SamePlace other entry
    (Resolves table entry (KotlinType.named first more).text ↔ more = [] ∨ recordedTwice) ∧
      (Resolves table entry (KotlinType.nullable (.named first more)).text ↔
        more = [] ∨ recordedTwice) ∧
      (Resolves table entry (type.roleTarget (KotlinType.named first more).text) ↔
        more ≠ [] ∧ recordedTwice) := by
  intro entry recordedTwice
  simp only [resolves_iff, lookupName_named, lookupName_nullable,
    roleTarget_named first more declared.ordered]
  cases more with
  | nil =>
      have isPlain : (KotlinType.named first []).text = first.text := by
        simp [named_text, afterFirst]
      rw [isPlain] at declared
      simp only [if_true, lookupName_typed, declared.found, declared.not_found_typed]
      simp [entry, isPlain, SamePlace]
  | cons part more => simp [lookupName_named, recordedTwice]

def shapeName : Identifier :=
  .ofText "Shape" (by decide) (by decide +kernel)

def edgeName : Identifier :=
  .ofText "Edge" (by decide) (by decide +kernel)

def drawingTable : ObjectTable :=
  ⟨[classItem .classType "shapes" "Shape", classItem .classType "shapes" "Shape.Edge"]⟩

theorem class_references_drawing :
    Declared drawingTable .classType "shapes" "Shape" ∧
      Declared drawingTable .classType "shapes" "Shape.Edge" ∧
      Resolves drawingTable (classItem .classType "shapes" "Shape").2 "Shape" ∧
      ¬ Resolves drawingTable (classItem .classType "shapes" "Shape").2 "class Shape" ∧
      ¬ Resolves drawingTable (classItem .classType "shapes" "Shape.Edge").2 "Shape.Edge" ∧
      ¬ Resolves drawingTable (classItem .classType "shapes" "Shape.Edge").2 "Shape.Edge?" := by
  have plain : Declared drawingTable .classType "shapes" "Shape" :=
    ⟨by decide, by decide +kernel, by decide +kernel⟩
  have dotted : Declared drawingTable .classType "shapes" "Shape.Edge" :=
    ⟨by decide, by decide +kernel, by decide +kernel⟩
  have absent : found? drawingTable (afterFirst [edgeName]) = none := by decide +kernel
  obtain ⟨byName, -, byRole⟩ := class_references shapeName [] plain
  obtain ⟨byPath, asNullable, -⟩ := class_references shapeName [edgeName] dotted
  refine ⟨plain, dotted, byName.2 (.inl rfl), fun leads => (byRole.1 leads).1 rfl, ?_, ?_⟩
  · intro leads
    simpa [absent] using byPath.1 leads
  · intro leads
    simpa [absent] using asNullable.1 leads

end KotlinDoc.Proofs.Domain
