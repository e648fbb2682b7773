import KotlinDoc.Domain.Session
import KotlinDoc.Proofs.Domain.Table

namespace KotlinDoc.Proofs.Domain

structure Occurrence where
  type : ObjectType
  noIndex : Bool
  description : Description
deriving Repr, DecidableEq

def Occurrence.listed (occurrence : Occurrence) : Bool :=
  !occurrence.noIndex && occurrence.description.indexed

def Occurrence.entry (occurrence : Occurrence) (document : Text) : ObjectEntry :=
  ⟨document, occurrence.type.name, occurrence.description.anchor⟩

inductive Event where
  | start (document : Text)
  | describe (occurrence : Occurrence)
  | clear (document : Text)
deriving Repr, DecidableEq

def describe (session : Session) (occurrence : Occurrence) : Session :=
  match session.record occurrence.type occurrence.noIndex occurrence.description with
  | .ok recorded => recorded.session
  | .error _ => session

def perform (session : Session) : Event → Session
  | .start document => (session.clearDocument document).startDocument document
  | .describe occurrence => describe session occurrence
  | .clear document => session.clearDocument document

def noted (anchors : List Text) (anchor : Text) : List Text :=
  if anchors.contains anchor then anchors else anchors ++ [anchor]

theorem mem_noted {anchors : List Text} {anchor other : Text} :
    other ∈ noted anchors anchor ↔ other ∈ anchors ∨ other = anchor := by
  unfold noted
  split
  · rename_i known
    constructor
    · exact Or.inl
    · rintro (old | rfl)
      · exact old
      · simpa using known
  · simp

theorem describe_eq (session : Session) (occurrence : Occurrence) :
    describe session occurrence =
      if occurrence.listed ∧ occurrence.description.fullName ∉ session.anchors then
        { session with
          anchors := noted session.anchors occurrence.description.anchor
          table := session.table.insert occurrence.description.fullName
            (occurrence.entry session.document) }
      else session := by
  obtain ⟨type, noIndex, description⟩ := occurrence
  unfold describe Session.record Occurrence.listed
  cases noIndex with
  | true => simp
  | false =>
      cases indexed : description.indexed with
      | false => simp
      | true =>
          by_cases known : description.fullName ∈ session.anchors
          · cases session.table.get? description.fullName <;> simp [known]
          · simp [known, noted, Occurrence.entry]

@[simp] theorem describe_document (session : Session) (occurrence : Occurrence) :
    (describe session occurrence).document = session.document := by
  rw [describe_eq]
  split <;> rfl

theorem keyed_describe {session : Session} (keyed : Keyed session.table) (occurrence : Occurrence) :
    Keyed (describe session occurrence).table := by
  rw [describe_eq]
  split
  · exact keyed_insert keyed _ _
  · exact keyed

theorem keyed_perform {session : Session} (keyed : Keyed session.table) (event : Event) :
    Keyed (perform session event).table := by
  cases event with
  | start document => exact keyed_eraseDocument keyed document
  | describe occurrence => exact keyed_describe keyed occurrence
  | clear document => exact keyed_eraseDocument keyed document

theorem keyed_foldl_perform (events : List Event) {session : Session}
    (keyed : Keyed session.table) : Keyed (events.foldl perform session).table := by
  induction events generalizing session with
  | nil => exact keyed
  | cons event events ih => exact ih (keyed_perform keyed event)

end KotlinDoc.Proofs.Domain
