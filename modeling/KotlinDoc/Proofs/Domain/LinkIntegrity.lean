import KotlinDoc.Domain.Reference
import KotlinDoc.Proofs.Domain.History
import Mathlib.Logic.Function.Basic

/-!
# Links lead to anchors

A library is a session together with the anchors that each document got in its latest reading. The
invariant `Linked` ties the two: every entry of the table names an anchor of its document. Each
event keeps it (`perform_linked`), so it holds after every history (`libraryAfter_linked`), and a
reference that is resolved within the documentation leads to an anchor that exists.
-/

namespace KotlinDoc.Proofs.Domain

/-- A session, and the anchors of every document as its latest reading left them. -/
structure Library where
  session : Session
  anchors : Text → List Text

namespace Library

def empty : Library :=
  ⟨{}, fun _ => []⟩

def perform (library : Library) (event : Event) : Library :=
  let session := Domain.perform library.session event
  ⟨session, Function.update library.anchors session.document session.anchors⟩

def after (events : List Event) : Library :=
  events.foldl perform empty

end Library

structure Linked (library : Library) : Prop where
  current : library.anchors library.session.document = library.session.anchors
  anchored : ∀ item ∈ library.session.table.entries,
    item.2.anchor ∈ library.anchors item.2.document

/-! ## What an event keeps -/

theorem empty_linked : Linked Library.empty where
  current := rfl
  anchored := by simp [Library.empty]

theorem start_linked {library : Library} (linked : Linked library) (document : Text) :
    Linked (library.perform (.start document)) where
  current := Function.update_self ..
  anchored := by
    intro item member
    -- The entries that are left belong to other documents, whose anchors stay.
    obtain ⟨old, other⟩ := mem_eraseDocument.mp member
    have kept : (library.perform (.start document)).anchors item.2.document =
        library.anchors item.2.document := Function.update_of_ne other ..
    rw [kept]
    exact linked.anchored item old

theorem clear_linked {library : Library} (linked : Linked library) (document : Text) :
    Linked (library.perform (.clear document)) where
  current := Function.update_self ..
  anchored := by
    intro item member
    have kept : (library.perform (.clear document)).anchors = library.anchors := by
      show Function.update library.anchors library.session.document library.session.anchors = _
      rw [← linked.current, Function.update_eq_self]
    rw [kept]
    exact linked.anchored item (mem_eraseDocument.mp member).1

theorem describe_linked {library : Library} (linked : Linked library) (occurrence : Occurrence) :
    Linked (library.perform (.describe occurrence)) where
  current := Function.update_self ..
  anchored := by
    intro item member
    have step : (library.perform (.describe occurrence)).session =
        describe library.session occurrence := rfl
    have anchors : (library.perform (.describe occurrence)).anchors =
        Function.update library.anchors library.session.document
          (describe library.session occurrence).anchors := by
      simp only [Library.perform, Domain.perform, describe_document]
    rw [step, describe_eq] at member
    rw [anchors, describe_eq]
    split at member
    · -- Recorded: the anchors of the current document grow by that of the new entry.
      rename_i fresh
      rw [if_pos fresh]
      rcases mem_insert member with old | rfl
      · by_cases here : item.2.document = library.session.document
        · have known := linked.anchored item old
          rw [here, linked.current] at known
          rw [here, Function.update_self]
          exact mem_noted.mpr (Or.inl known)
        · rw [Function.update_of_ne here]
          exact linked.anchored item old
      · simp [Occurrence.entry, mem_noted]
    · rename_i unchanged
      rw [if_neg unchanged, ← linked.current, Function.update_eq_self]
      exact linked.anchored item member

theorem perform_linked {library : Library} (linked : Linked library) (event : Event) :
    Linked (library.perform event) := by
  cases event with
  | start document => exact start_linked linked document
  | describe occurrence => exact describe_linked linked occurrence
  | clear document => exact clear_linked linked document

/-! ## What a history keeps -/

theorem foldl_perform_linked (events : List Event) {library : Library} (linked : Linked library) :
    Linked (events.foldl Library.perform library) := by
  induction events generalizing library with
  | nil => exact linked
  | cons event events ih => exact ih (perform_linked linked event)

theorem libraryAfter_linked (events : List Event) : Linked (Library.after events) :=
  foldl_perform_linked events empty_linked

/-! ## Resolved references -/

theorem exists_item_of_resolve? {table : ObjectTable} {target content : Text} {link : Link}
    {document anchor : Text} (resolved : Link.resolve? table target content = some link)
    (inside : link.destination = .internal document anchor) :
    ∃ item ∈ table.entries, item.1 ∈ Link.fullNames (Link.lookupName target) ∧
      item.2.document = document ∧ item.2.anchor = anchor := by
  unfold Link.resolve? at resolved
  dsimp only at resolved
  split at resolved
  · rename_i name entry found
    have named := List.find?_some found
    obtain rfl := Option.some.inj resolved
    obtain ⟨here, there⟩ := Destination.internal.inj inside
    exact ⟨(name, entry), List.mem_of_find?_eq_some found, by simpa using named, here, there⟩
  · split at resolved
    · obtain rfl := Option.some.inj resolved
      cases inside
    · cases resolved

/-- After every history, each entry of the table has its anchor among those that its document got in
its latest reading, and each reference that is resolved within the documentation leads to such an
anchor. -/
theorem entries_and_links_anchored (events : List Event) :
    (∀ item ∈ (Library.after events).session.table.entries,
      item.2.anchor ∈ (Library.after events).anchors item.2.document) ∧
    ∀ target content link document anchor,
      Link.resolve? (Library.after events).session.table target content = some link →
      link.destination = .internal document anchor →
      anchor ∈ (Library.after events).anchors document := by
  have linked := libraryAfter_linked events
  refine ⟨linked.anchored, ?_⟩
  intro target content link document anchor resolved inside
  obtain ⟨item, member, -, rfl, rfl⟩ := exists_item_of_resolve? resolved inside
  exact linked.anchored item member

def shapeClass : Occurrence :=
  ⟨.classType, false, ⟨"class Shape", "class Shape", true⟩⟩

def areaFunction : Occurrence :=
  ⟨.topFunction, false, ⟨"Shape.area()", "Shape.area()-Double", true⟩⟩

def takenOver : List Event :=
  [.start "old", .describe shapeClass, .describe areaFunction, .start "new", .describe shapeClass,
    .start "gone", .clear "gone", .start "new", .describe shapeClass]

theorem entries_and_links_anchored_takenOver :
    areaFunction.description.anchor ∈ (Library.after takenOver).anchors "old" ∧
      Link.resolve? (Library.after takenOver).session.table "Shape?" "x" =
        some ⟨[], .internal "new" "class Shape", "Shape", "x"⟩ ∧
      shapeClass.description.anchor ∈ (Library.after takenOver).anchors "new" := by
  obtain ⟨anchored, leads⟩ := entries_and_links_anchored takenOver
  have resolved : Link.resolve? (Library.after takenOver).session.table "Shape?" "x" =
      some ⟨[], .internal "new" "class Shape", "Shape", "x"⟩ := by decide +kernel
  refine ⟨?_, resolved, leads "Shape?" "x" _ "new" "class Shape" resolved rfl⟩
  exact anchored (areaFunction.description.fullName, areaFunction.entry "old") (by decide +kernel)

end KotlinDoc.Proofs.Domain
