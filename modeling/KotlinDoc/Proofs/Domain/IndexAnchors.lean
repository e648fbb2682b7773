import KotlinDoc.Proofs.Domain.Duplicates
import KotlinDoc.Proofs.Domain.IndexOrder
import KotlinDoc.Proofs.Text.Cutting

namespace KotlinDoc.Proofs.Domain

open ModuleIndex

def TypeWord (s : Text) : Prop :=
  ∃ type ∈ ObjectType.ordered, type.name <+: s ∧ s.length ≤ type.name.length + 1

instance (s : Text) : Decidable (TypeWord s) :=
  inferInstanceAs (Decidable (∃ type ∈ ObjectType.ordered,
    type.name <+: s ∧ s.length ≤ type.name.length + 1))

theorem leadingType?_eq_some {s : Text} {type : ObjectType} {number : Nat}
    (found : leadingType? s = some (type, number)) :
    type ∈ ObjectType.ordered ∧ type.name <+: s := by
  have listed := List.mem_of_find?_eq_some found
  have leads := List.find?_some found
  exact ⟨List.fst_mem_of_mem_zipIdx listed, List.isPrefixOf_iff_prefix.mp leads⟩

theorem eq_of_name_isPrefix : ∀ type ∈ ObjectType.ordered, ∀ other ∈ ObjectType.ordered,
    type.name <+: other.name → type = other := by
  decide

theorem leadingType?_of_isPrefix {type : ObjectType} (listed : type ∈ ObjectType.ordered) {s : Text}
    (leads : type.name <+: s) : ∃ number, leadingType? s = some (type, number) := by
  cases found : leadingType? s with
  | none =>
      rw [← List.zipIdx_map_fst 0 ObjectType.ordered] at listed
      obtain ⟨located, member, rfl⟩ := List.mem_map.mp listed
      have unled := List.find?_eq_none.mp found located member
      exact absurd (List.isPrefixOf_iff_prefix.mpr leads) unled
  | some leading =>
      obtain ⟨other, number⟩ := leading
      obtain ⟨listed', leads'⟩ := leadingType?_eq_some found
      rcases List.prefix_or_prefix_of_prefix leads leads' with first | second
      · rw [eq_of_name_isPrefix type listed other listed' first]
        exact ⟨number, rfl⟩
      · rw [eq_of_name_isPrefix other listed' type listed second]
        exact ⟨number, rfl⟩

theorem letter?_eq_none_iff (anchor : Text) :
    letter? anchor = none ↔ anchor = [] ∨ TypeWord anchor := by
  unfold letter?
  constructor
  · intro missing
    cases found : leadingType? anchor with
    | none =>
        rw [found] at missing
        have short := List.getElem?_eq_none_iff.mp missing
        exact Or.inl (List.length_eq_zero_iff.mp (Nat.le_zero.mp short))
    | some leading =>
        obtain ⟨type, number⟩ := leading
        obtain ⟨listed, leads⟩ := leadingType?_eq_some found
        rw [found] at missing
        exact Or.inr ⟨type, listed, leads, List.getElem?_eq_none_iff.mp missing⟩
  · rintro (rfl | ⟨type, listed, leads, short⟩)
    · decide
    · obtain ⟨number, found⟩ := leadingType?_of_isPrefix listed leads
      rw [found]
      exact List.getElem?_eq_none_iff.mpr short

theorem letter?_append_cons {mark : Char} (foreign : ∀ type ∈ ObjectType.ordered, mark ∉ type.name)
    (front : Text) {back : Text} (more : back ≠ []) : letter? (front ++ mark :: back) ≠ none := by
  rw [ne_eq, letter?_eq_none_iff]
  rintro (empty | ⟨type, listed, leads, short⟩)
  · simp at empty
  · have before : type.name <+: front := by
      apply List.isPrefixOf_iff_prefix.mp
      rw [← Text.startsWith, ← startsWith_append (foreign type listed) front back]
      exact List.isPrefixOf_iff_prefix.mpr leads
    have length := before.length_le
    have filled := List.length_pos_of_ne_nil more
    simp only [List.length_append, List.length_cons] at short
    omega

theorem letter?_qualified {owner : Option Text} {name : Text} (filled : name ≠ []) :
    letter? (Signature.qualified owner name) = none ↔
      Signature.qualified owner name = name ∧ TypeWord name := by
  have plain : letter? name = none ↔ name = name ∧ TypeWord name := by
    simp [letter?_eq_none_iff, filled]
  cases owner with
  | none => exact plain
  | some owner =>
      cases owner with
      | nil => exact plain
      | cons c owner =>
          have dotted : Signature.qualified (some (c :: owner)) name = (c :: owner) ++ '.' :: name := by
            simp [Signature.qualified]
          have lettered : letter? ((c :: owner) ++ '.' :: name) ≠ none :=
            letter?_append_cons (by decide) _ filled
          rw [dotted]
          refine iff_of_false lettered fun outside => ?_
          have length := congrArg List.length outside.1
          simp only [List.length_append, List.length_cons] at length
          omega

theorem qualified_ne_nil {owner : Option Text} {name : Text} (filled : name ≠ []) :
    Signature.qualified owner name ≠ [] := by
  unfold Signature.qualified
  split <;> simp [filled]

def declaredName (signature : Signature) : Text :=
  (signature.nodes.findSome? fun
    | .element .name raw _ => some raw
    | _ => none).getD []

section

variable {type : ObjectType} {owner : Option Text} {signature : Text} {result : Signature}

theorem anchor_ofClass (read : Signature.ofClass type owner signature = .ok result) :
    result.description.anchor =
      type.name ++ ' ' :: Signature.qualified owner (declaredName result) := by
  simp only [Signature.ofClass, bind, Except.bind] at read
  split at read
  · cases read
  · cases read
    simp [declaredName, SignatureNode.labelled]

theorem anchor_ofCallable (read : Signature.ofCallable type owner signature = .ok result) :
    ∃ name back, back ≠ [] ∧
      result.description.anchor = Signature.qualified owner name ++ '(' :: back := by
  have title (name names more : Text) : Signature.qualified owner (name ++ "(" ++ names ++ ")" ++ more) =
      Signature.qualified owner name ++ '(' :: (names ++ ')' :: more) := by
    simp [qualified_append]
  simp only [Signature.ofCallable] at read
  split at read
  · cases read
    exact ⟨_, _, List.append_ne_nil_of_right_ne_nil _ (List.cons_ne_nil _ _), title _ _ _⟩
  · split at read
    · cases read
      exact ⟨_, _, List.append_ne_nil_of_right_ne_nil _ (List.cons_ne_nil _ _), title _ _ _⟩
    · cases read

theorem anchor_ofEnumEntry (owner : Option Text) (signature : Text) :
    (Signature.ofEnumEntry owner signature).description.anchor =
      Signature.qualified owner (declaredName (Signature.ofEnumEntry owner signature)) := by
  simp [Signature.ofEnumEntry, declaredName, SignatureNode.labelled]

theorem anchor_ofProperty (read : Signature.ofProperty type owner signature = .ok result) :
    result.description.anchor = Signature.qualified owner (declaredName result) := by
  simp only [Signature.ofProperty] at read
  split at read
  · cases read
  · cases read
    simp [declaredName, SignatureNode.labelled]

end

theorem letter?_read {type : ObjectType} {owner : Option Text} {signature : Text} {result : Signature}
    (read : Signature.read type owner signature = .ok result) (named : declaredName result ≠ []) :
    letter? result.description.anchor = none ↔
      (type.family = .property ∨ type.family = .enumEntry) ∧
        result.description.anchor = declaredName result ∧ TypeWord (declaredName result) := by
  have space : ∀ type ∈ ObjectType.ordered, ' ' ∉ type.name := by decide
  have paren : ∀ type ∈ ObjectType.ordered, '(' ∉ type.name := by decide
  unfold Signature.read at read
  cases family : type.family with
  | classLike =>
      rw [family] at read
      rw [anchor_ofClass read]
      have filled : Signature.qualified owner (declaredName result) ≠ [] := qualified_ne_nil named
      exact iff_of_false (letter?_append_cons space _ filled) (by simp)
  | callable =>
      rw [family] at read
      obtain ⟨name, back, more, anchor⟩ := anchor_ofCallable read
      rw [anchor]
      exact iff_of_false (letter?_append_cons paren _ more) (by simp)
  | enumEntry =>
      rw [family] at read
      cases read
      rw [anchor_ofEnumEntry, letter?_qualified named]
      simp
  | property =>
      rw [family] at read
      rw [anchor_ofProperty read, letter?_qualified named]
      simp

theorem generate?_isSome_iff (table : ObjectTable) :
    (generate? table).isSome = true ↔ ∀ object ∈ table.entries, letter? object.2.anchor ≠ none := by
  rw [generate?_eq, Option.isSome_map, mapM_eq_ite]
  split
  · rename_i all
    simpa [lettered?, Option.isSome_iff_ne_none] using all
  · rename_i missing
    simpa [lettered?, Option.isSome_iff_ne_none] using missing

/-- The sessions that come about while documents are read and removed. Any named signature of any
object type may be described within any class. -/
inductive Reached : Session → Prop where
  | empty : Reached {}
  | start {session : Session} (reached : Reached session) (document : Text) :
      Reached (session.startDocument document)
  | clear {session : Session} (reached : Reached session) (document : Text) :
      Reached (session.clearDocument document)
  | within {session : Session} (reached : Reached session) (owner : Owner) :
      Reached { session with owner := owner }
  | describe {session : Session} (reached : Reached session) {occurrence : Occurrence}
      (signature : Text) {result : Signature}
      (read : Signature.read occurrence.type session.owner.name signature = .ok result)
      (described : result.description = occurrence.description) (named : declaredName result ≠ []) :
      Reached (describe session occurrence)

theorem mem_of_family {type : ObjectType}
    (family : type.family = .property ∨ type.family = .enumEntry) :
    type ∈ [ObjectType.enumCase, .val, .var] := by
  cases type <;> simp_all [ObjectType.family]

/-- A property or an enum entry whose anchor is all taken for a type. -/
def Mistaken (object : Text × ObjectEntry) : Prop :=
  (∃ type ∈ [ObjectType.enumCase, .val, .var], object.2.type = type.name) ∧ TypeWord object.2.anchor

instance (object : Text × ObjectEntry) : Decidable (Mistaken object) :=
  inferInstanceAs (Decidable ((∃ type ∈ [ObjectType.enumCase, .val, .var],
    object.2.type = type.name) ∧ TypeWord object.2.anchor))

theorem mistaken_of_reached {session : Session} (reached : Reached session) :
    ∀ object ∈ session.table.entries, letter? object.2.anchor = none → Mistaken object := by
  induction reached with
  | empty => simp
  | start reached document ih => exact ih
  | clear reached document ih =>
      intro object member
      exact ih object (mem_eraseDocument.mp member).1
  | within reached owner ih => exact ih
  | describe reached signature read described named ih =>
      intro object member missing
      rw [describe_eq] at member
      split at member
      · rcases mem_insert member with old | rfl
        · exact ih object old missing
        · have own := letter?_read read named
          rw [described] at own
          obtain ⟨family, anchor, word⟩ := own.mp missing
          rw [← anchor] at word
          exact ⟨⟨_, mem_of_family family, rfl⟩, word⟩
      · exact ih object member missing

/-- After every history the index exists just if no property and no enum entry outside classes has
the name of a type that the index tells apart, with at most one more character. -/
theorem index_exists_iff {session : Session} (reached : Reached session) :
    (generate? session.table).isSome = true ↔
      ∀ object ∈ session.table.entries, ¬ Mistaken object := by
  rw [generate?_isSome_iff]
  constructor
  · intro lettered object member mistaken
    exact lettered object member ((letter?_eq_none_iff _).mpr (Or.inr mistaken.2))
  · intro plain object member missing
    exact plain object member (mistaken_of_reached reached object member missing)

def classyProperty (owner : Text) : Occurrence :=
  ⟨.val, false, ⟨owner ++ "classy", owner ++ "classy", true⟩⟩

def classySession : Session :=
  describe { describe {} shapeClass with owner := ⟨some "Shape", some "class"⟩ } (classyProperty "Shape.")

theorem index_exists_iff_classy :
    (generate? classySession.table).isSome = true ∧
    ¬ (generate?
      (describe { classySession with owner := {} } (classyProperty [])).table).isSome = true := by
  have shape : Reached (describe {} shapeClass) :=
    Reached.empty.describe "Shape" rfl (by decide +kernel) (by decide +kernel)
  have inside : Reached classySession :=
    (shape.within _).describe "classy : Int" rfl (by decide +kernel) (by decide +kernel)
  have outside : Reached (describe { classySession with owner := {} } (classyProperty [])) :=
    (inside.within _).describe "classy : Int" rfl (by decide +kernel) (by decide +kernel)
  constructor
  · apply (index_exists_iff inside).mpr
    decide +kernel
  · rw [index_exists_iff outside]
    decide +kernel

end KotlinDoc.Proofs.Domain
