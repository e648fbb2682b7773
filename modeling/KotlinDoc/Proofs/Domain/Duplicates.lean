import KotlinDoc.Proofs.Domain.LinkIntegrity

/-!
# Objects that are described twice

A second description of an object is noticed by the anchors of the document that is read, while it
is the table that the description would change. The two agree on a name just if the name is an
anchor and recorded, or neither (`noticed_iff`). Within one reading they agree as long as anchors
are full names (`Kept`), so a name without a hyphen is noticed just if its entry was made in this
reading by a description without a return type.
-/

namespace KotlinDoc.Proofs.Domain

/-! ## Anchors of descriptions -/

theorem qualified_append (owner : Option Text) (name more : Text) :
    Signature.qualified owner (name ++ more) = Signature.qualified owner name ++ more := by
  unfold Signature.qualified
  split <;> simp

theorem qualified_returned (owner : Option Text) (title : Text) (returned : Option Text) :
    Signature.qualified owner (title ++ (returned.map ('-' :: ·)).getD []) =
        Signature.qualified owner title ∨
      ∃ more, Signature.qualified owner (title ++ (returned.map ('-' :: ·)).getD []) =
        Signature.qualified owner title ++ '-' :: more := by
  rw [qualified_append]
  cases returned with
  | none => exact .inl (List.append_nil _)
  | some type => exact .inr ⟨type, rfl⟩

theorem read_anchor {type : ObjectType} {owner : Option Text} {signature : Text}
    {result : Signature} (read : Signature.read type owner signature = .ok result) :
    result.description.anchor = result.description.fullName ∨
      ∃ returned, result.description.anchor = result.description.fullName ++ '-' :: returned := by
  unfold Signature.read at read
  cases family : type.family with
  | classLike =>
      simp only [family, Signature.ofClass, bind, Except.bind] at read
      split at read
      · cases read
      · cases read
        exact .inl rfl
  | callable =>
      simp only [family, Signature.ofCallable] at read
      split at read
      · cases read
        exact qualified_returned _ _ _
      · split at read
        · cases read
          exact qualified_returned _ _ _
        · cases read
  | enumEntry =>
      rw [family] at read
      cases read
      exact .inl rfl
  | property =>
      simp only [family, Signature.ofProperty] at read
      split at read
      · cases read
      · cases read
        exact .inl rfl

/-- The description is that of a signature which a directive has read. -/
def Occurrence.Written (occurrence : Occurrence) : Prop :=
  ∃ owner signature result, Signature.read occurrence.type owner signature = .ok result ∧
    result.description = occurrence.description

theorem Occurrence.Written.anchor_eq {occurrence : Occurrence} (written : occurrence.Written)
    (plain : '-' ∉ occurrence.description.anchor) :
    occurrence.description.anchor = occurrence.description.fullName := by
  obtain ⟨owner, signature, result, read, described⟩ := written
  rw [← described] at plain ⊢
  rcases read_anchor read with same | ⟨returned, more⟩
  · exact same
  · rw [more] at plain
    simp at plain

/-! ## What a reading keeps -/

/-- An anchor without a hyphen is recorded, for the document that is read and as its own anchor. -/
def Kept (session : Session) : Prop :=
  ∀ anchor ∈ session.anchors, '-' ∉ anchor → ∃ entry, session.table.get? anchor = some entry ∧
    entry.document = session.document ∧ entry.anchor = anchor

theorem start_kept (session : Session) (document : Text) :
    Kept (perform session (.start document)) :=
  fun _ impossible => absurd impossible List.not_mem_nil

theorem describe_kept {session : Session} (kept : Kept session) {occurrence : Occurrence}
    (written : occurrence.Written) : Kept (describe session occurrence) := by
  rw [describe_eq]
  split
  · rename_i fresh
    intro anchor member plain
    simp only [get?_insert]
    rcases mem_noted.mp member with old | rfl
    · -- An old anchor is not the full name that is recorded now.
      have other : anchor ≠ occurrence.description.fullName := fun same => fresh.2 (same ▸ old)
      rw [if_neg other]
      exact kept anchor old plain
    · rw [if_pos (written.anchor_eq plain)]
      exact ⟨_, rfl, rfl, rfl⟩
  · exact kept

theorem describes_kept (version : List Occurrence) {session : Session} (kept : Kept session)
    (written : ∀ occurrence ∈ version, occurrence.Written) :
    Kept ((version.map Event.describe).foldl perform session) := by
  induction version generalizing session with
  | nil => exact kept
  | cons occurrence version ih =>
      apply ih
      · exact describe_kept kept (written occurrence List.mem_cons_self)
      · exact fun other member => written other (List.mem_cons_of_mem _ member)

theorem describes_document (version : List Occurrence) (session : Session) :
    ((version.map Event.describe).foldl perform session).document = session.document := by
  induction version generalizing session with
  | nil => rfl
  | cons occurrence version ih =>
      rw [List.map_cons, List.foldl_cons, ih]
      exact describe_document session occurrence

/-! ## Entries and anchors after a history -/

theorem session_foldl (events : List Event) (library : Library) :
    (events.foldl Library.perform library).session = events.foldl perform library.session := by
  induction events generalizing library with
  | nil => rfl
  | cons event events ih => exact ih (library.perform event)

theorem anchor_mem_of_get? (events : List Event) {name : Text} {entry : ObjectEntry}
    (recorded : (events.foldl perform {}).table.get? name = some entry)
    (here : entry.document = (events.foldl perform {}).document) :
    entry.anchor ∈ (events.foldl perform {}).anchors := by
  have linked := libraryAfter_linked events
  have same : (Library.after events).session = events.foldl perform {} :=
    session_foldl events Library.empty
  have keyed : Keyed (events.foldl perform {}).table := keyed_foldl_perform events List.nodup_nil
  rw [get?_eq_some_iff keyed, ← same] at recorded
  rw [← same, ← linked.current, same, ← here]
  exact linked.anchored _ recorded

/-! ## Noticing a second description -/

/-- Recording a description warns of the entry under its full name and changes nothing, or adds
its own entry if there is none. -/
def Noticed (session : Session) (type : ObjectType) (description : Description) : Prop :=
  ∃ recorded, session.record type false description = .ok recorded ∧
    match session.table.get? description.fullName with
    | some entry =>
        (∀ pathOf, recorded.warnings.map (Warning.text pathOf) =
          ["duplicate object description of " ++ description.fullName ++
            ", other instance in " ++ pathOf entry.document]) ∧
          recorded.session.table = session.table
    | none =>
        recorded.warnings = [] ∧ recorded.session.table.entries = session.table.entries ++
          [(description.fullName, ⟨session.document, type.name, description.anchor⟩)]

section

variable {session : Session} (type : ObjectType) {description : Description}

theorem record_of_anchor (indexed : description.indexed = true)
    (known : description.fullName ∈ session.anchors) :
    session.record type false description =
      match session.table.get? description.fullName with
      | some entry => .ok ⟨session, [], [.duplicate description.fullName entry.document]⟩
      | none => .error (.unrecorded description.fullName) := by
  simp only [Session.record, indexed, List.contains_iff_mem.mpr known]
  rfl

theorem record_of_fresh (indexed : description.indexed = true)
    (fresh : description.fullName ∉ session.anchors) :
    ∃ anchors, session.record type false description = .ok
      ⟨{ session with
          anchors := anchors
          table := session.table.insert description.fullName
            ⟨session.document, type.name, description.anchor⟩ },
        [description.anchor], []⟩ := by
  simp [Session.record, indexed, fresh]

theorem noticed_iff (indexed : description.indexed = true) :
    Noticed session type description ↔ (description.fullName ∈ session.anchors ↔
      (session.table.get? description.fullName).isSome) := by
  unfold Noticed
  by_cases known : description.fullName ∈ session.anchors
  · rw [record_of_anchor type indexed known]
    cases session.table.get? description.fullName with
    | none => simp [known]
    | some entry => exact iff_of_true ⟨_, rfl, fun _ => rfl, rfl⟩ (by simp [known])
  · obtain ⟨anchors, recorded⟩ := record_of_fresh type indexed known
    rw [recorded]
    cases found : session.table.get? description.fullName with
    | none => simp [known, ObjectTable.insert, found]
    | some entry => simp [known]

end

def within (events : List Event) (document : Text) (version : List Occurrence) : Session :=
  (events ++ Event.start document :: version.map Event.describe).foldl perform {}

/-- After every history and within every reading, a description is noticed just if the anchors of
the document and the table agree on its full name. Without a hyphen in the name that is so just if
the name is not recorded, or recorded for this document with itself as anchor; otherwise the entry
is replaced without a warning. -/
theorem duplicate_noticed_iff (events : List Event) (document : Text) (version : List Occurrence)
    (written : ∀ occurrence ∈ version, occurrence.Written) (type : ObjectType)
    (description : Description) (indexed : description.indexed = true) :
    let session := within events document version
    let ownEntry := ∀ entry, session.table.get? description.fullName = some entry →
      entry.document = document ∧ entry.anchor = description.fullName
    (Noticed session type description ↔ (description.fullName ∈ session.anchors ↔
      (session.table.get? description.fullName).isSome)) ∧
    ('-' ∉ description.fullName → (Noticed session type description ↔ ownEntry) ∧
      (¬ ownEntry → ∃ recorded, session.record type false description = .ok recorded ∧
        recorded.warnings = [] ∧ recorded.session.table.get? description.fullName =
          some ⟨document, type.name, description.anchor⟩)) := by
  intro session ownEntry
  have reading : session = (version.map Event.describe).foldl perform
      (perform (events.foldl perform {}) (.start document)) := by
    simp [session, within]
  have here : session.document = document := by
    rw [reading, describes_document]
    rfl
  have kept : Kept session := by
    rw [reading]
    exact describes_kept version (start_kept _ document) written
  refine ⟨noticed_iff type indexed, fun plain => ?_⟩
  -- A name without a hyphen is an anchor just if its entry is one of this reading and its own anchor.
  have anchored : description.fullName ∈ session.anchors ↔
      ∃ entry, session.table.get? description.fullName = some entry ∧
        entry.document = document ∧ entry.anchor = description.fullName := by
    constructor
    · intro known
      obtain ⟨entry, recorded, there, own⟩ := kept _ known plain
      exact ⟨entry, recorded, there.trans here, own⟩
    · rintro ⟨entry, recorded, there, own⟩
      rw [← own]
      exact anchor_mem_of_get? _ recorded (there.trans here.symm)
  have noticed : Noticed session type description ↔ ownEntry := by
    rw [noticed_iff type indexed, anchored]
    cases found : session.table.get? description.fullName <;> simp [ownEntry, found]
  refine ⟨noticed, fun foreign => ?_⟩
  have fresh : description.fullName ∉ session.anchors := by
    intro known
    obtain ⟨entry, recorded, own⟩ := anchored.mp known
    apply foreign
    intro other found
    rw [recorded] at found
    exact Option.some.inj found ▸ own
  obtain ⟨anchors, recorded⟩ := record_of_fresh type indexed fresh
  exact ⟨_, recorded, rfl, by simp [get?_insert, here]⟩

def circleClass : Occurrence :=
  ⟨.classType, false, ⟨"class Circle", "class Circle", true⟩⟩

def drawn : Session :=
  within [.start "old", .describe shapeClass] "new" [areaFunction, circleClass]

theorem duplicate_noticed_iff_drawn :
    Noticed drawn .classType circleClass.description ∧
      (¬ Noticed drawn .classType shapeClass.description ∧
        ∃ recorded, drawn.record .classType false shapeClass.description = .ok recorded ∧
          recorded.warnings = [] ∧ recorded.session.table.get? "class Shape" =
            some ⟨"new", "class", "class Shape"⟩) ∧
      ¬ Noticed drawn .topFunction areaFunction.description := by
  have written : ∀ occurrence ∈ [areaFunction, circleClass], occurrence.Written := by
    intro occurrence member
    rcases List.mem_pair.mp member with rfl | rfl
    · exact ⟨some "Shape", "area() : Double", _, rfl, by decide +kernel⟩
    · exact ⟨none, "Circle", _, rfl, by decide +kernel⟩
  have run := duplicate_noticed_iff [.start "old", .describe shapeClass] "new"
    [areaFunction, circleClass] written
  obtain ⟨-, circle⟩ := run .classType circleClass.description rfl
  obtain ⟨-, shape⟩ := run .classType shapeClass.description rfl
  obtain ⟨-, area⟩ := run .topFunction areaFunction.description rfl
  have foreign : ¬ ∀ entry, drawn.table.get? "class Shape" = some entry →
      entry.document = "new" ∧ entry.anchor = "class Shape" := by
    intro own
    exact absurd (own ⟨"old", "class", "class Shape"⟩ (by decide +kernel)).1 (by decide)
  refine ⟨(circle (by decide)).1.mpr ?_, ⟨fun noticed => ?_, (shape (by decide)).2 foreign⟩, ?_⟩
  · have recorded : drawn.table.get? "class Circle" = some (circleClass.entry "new") := by
      decide +kernel
    intro entry found
    obtain rfl : circleClass.entry "new" = entry := Option.some.inj (recorded.symm.trans found)
    exact ⟨rfl, rfl⟩
  · exact foreign ((shape (by decide)).1.mp noticed)
  · intro noticed
    have own := (area (by decide)).1.mp noticed (areaFunction.entry "new") (by decide +kernel)
    exact absurd own.2 (by decide)

end KotlinDoc.Proofs.Domain
