import KotlinDoc.Proofs.Domain.History
import Mathlib.Data.List.Induction
import Mathlib.Logic.Function.Basic

/-!
# Incremental builds

Documents are read, removed and read again in any order. If no object is described in two documents,
the table that results is that of a clean build, which reads the latest version of each surviving
document once. Both tables are characterised by one statement, `Reflects`: what is recorded under a
name is what the latest version of some document records under it when it is read alone.
-/

namespace KotlinDoc.Proofs.Domain

abbrev Version := List Occurrence

inductive Edit where
  | read (document : Text) (version : Version)
  | remove (document : Text)
deriving Repr, DecidableEq

def Edit.events : Edit → List Event
  | .read document version => .start document :: version.map .describe
  | .remove document => [.clear document]

def Edit.apply (session : Session) (edit : Edit) : Session :=
  edit.events.foldl perform session

def build (edits : List Edit) : Session :=
  edits.foldl Edit.apply {}

def Edit.advance (versions : Text → Option Version) : Edit → Text → Option Version
  | .read document version => Function.update versions document (some version)
  | .remove document => Function.update versions document none

def latest (edits : List Edit) : Text → Option Version :=
  edits.foldl Edit.advance fun _ => none

/-- The edits of a clean build: the latest versions of documents are read one after the other. -/
def clean (edits : List Edit) (order : List Text) : List Edit :=
  order.filterMap fun document => (latest edits document).map (.read document)

def described (version : Version) : List Text :=
  (version.filter (·.listed)).map (·.description.fullName)

def Edit.described : Edit → List (Text × Text)
  | .read document version => (Domain.described version).map (·, document)
  | .remove _ => []

/-- No object is described in two documents. -/
def Separate (edits : List Edit) : Prop :=
  ∀ mine ∈ edits.flatMap Edit.described, ∀ yours ∈ edits.flatMap Edit.described,
    mine.1 = yours.1 → mine.2 = yours.2

instance (edits : List Edit) : Decidable (Separate edits) :=
  inferInstanceAs (Decidable (∀ mine ∈ edits.flatMap Edit.described,
    ∀ yours ∈ edits.flatMap Edit.described, mine.1 = yours.1 → mine.2 = yours.2))

/-! ## Reading one document -/

def contribution (document : Text) (version : Version) (name : Text) : Option ObjectEntry :=
  (Edit.apply {} (.read document version)).table.get? name

/-- Two sessions read the same document, and the table of the one lies over `base` where that of the
other stands alone. -/
structure Over (base : ObjectTable) (alone session : Session) : Prop where
  document : session.document = alone.document
  anchors : session.anchors = alone.anchors
  get? : ∀ name, session.table.get? name = (alone.table.get? name).or (base.get? name)

theorem describe_over {base : ObjectTable} {alone session : Session}
    (layered : Over base alone session) (occurrence : Occurrence) :
    Over base (describe alone occurrence) (describe session occurrence) := by
  -- Whether an occurrence is recorded depends on the anchors, which agree, and not on the table.
  rw [describe_eq, describe_eq, layered.anchors, layered.document]
  split
  · refine ⟨rfl, rfl, fun name => ?_⟩
    simp only [get?_insert]
    split
    · rfl
    · exact layered.get? name
  · exact layered

theorem describes_over {base : ObjectTable} (version : Version) {alone session : Session}
    (layered : Over base alone session) :
    Over base ((version.map Event.describe).foldl perform alone)
      ((version.map Event.describe).foldl perform session) := by
  induction version generalizing alone session with
  | nil => exact layered
  | cons occurrence version ih => exact ih (describe_over layered occurrence)

theorem read_get? (session : Session) (document : Text) (version : Version) (name : Text) :
    (Edit.apply session (.read document version)).table.get? name =
      (contribution document version name).or
        ((session.table.eraseDocument document).get? name) := by
  have start : Over (session.table.eraseDocument document) (perform {} (.start document))
      (perform session (.start document)) := ⟨rfl, rfl, fun _ => rfl⟩
  exact (describes_over version start).get? name

theorem keyed_apply {session : Session} (keyed : Keyed session.table) (edit : Edit) :
    Keyed (edit.apply session).table :=
  keyed_foldl_perform edit.events keyed

theorem keyed_empty : Keyed ({} : Session).table :=
  List.nodup_nil

theorem describes_entries (version all : Version) (subset : version ⊆ all) (session : Session)
    (entries : ∀ item ∈ session.table.entries,
      item.2.document = session.document ∧ item.1 ∈ described all) :
    ∀ item ∈ ((version.map Event.describe).foldl perform session).table.entries,
      item.2.document = session.document ∧ item.1 ∈ described all := by
  induction version generalizing session with
  | nil => exact entries
  | cons occurrence version ih =>
      have rest : version ⊆ all := fun _ member => subset (List.mem_cons_of_mem _ member)
      have step : ∀ item ∈ (describe session occurrence).table.entries,
          item.2.document = (describe session occurrence).document ∧ item.1 ∈ described all := by
        intro item member
        rw [describe_document]
        rw [describe_eq] at member
        split at member
        · rename_i fresh
          rcases mem_insert member with old | rfl
          · exact entries item old
          · refine ⟨rfl, List.mem_map_of_mem (List.mem_filter.mpr ⟨?_, fresh.1⟩)⟩
            exact subset List.mem_cons_self
        · exact entries item member
      simpa [perform] using ih rest _ step

theorem contribution_eq_some {document : Text} {version : Version} {name : Text}
    {entry : ObjectEntry} (recorded : contribution document version name = some entry) :
    entry.document = document ∧ name ∈ described version := by
  have member := (get?_eq_some_iff (keyed_apply keyed_empty _) name entry).mp recorded
  have nothing : (perform {} (.start document)).table.entries = [] := rfl
  exact describes_entries version version (List.Subset.refl _) (perform {} (.start document))
    (by rw [nothing]; simp) _ member

/-! ## What the edits leave -/

/-- The table records what the versions contribute, and nothing else. -/
structure Reflects (table : ObjectTable) (versions : Text → Option Version) : Prop where
  keyed : Keyed table
  get?_iff : ∀ name entry, table.get? name = some entry ↔
    ∃ document version, versions document = some version ∧
      contribution document version name = some entry

theorem remove_reflects {session : Session} {versions : Text → Option Version}
    (reflects : Reflects session.table versions) (document : Text) :
    Reflects (Edit.apply session (.remove document)).table
      (Edit.advance versions (.remove document)) where
  keyed := keyed_apply reflects.keyed _
  get?_iff := by
    intro name entry
    refine (get?_eraseDocument reflects.keyed document name entry).trans ?_
    rw [reflects.get?_iff]
    constructor
    · rintro ⟨⟨owner, version, current, recorded⟩, elsewhere⟩
      rw [(contribution_eq_some recorded).1] at elsewhere
      exact ⟨owner, version, by simpa [Edit.advance, elsewhere] using current, recorded⟩
    · rintro ⟨owner, version, current, recorded⟩
      by_cases same : owner = document
      · simp [Edit.advance, same] at current
      · refine ⟨⟨owner, version, by simpa [Edit.advance, same] using current, recorded⟩, ?_⟩
        rwa [(contribution_eq_some recorded).1]

theorem read_reflects {session : Session} {versions : Text → Option Version}
    (reflects : Reflects session.table versions) (document : Text) (version : Version)
    (separate : ∀ other version', versions other = some version' → ∀ name ∈ described version,
      name ∈ described version' → document = other) :
    Reflects (Edit.apply session (.read document version)).table
      (Edit.advance versions (.read document version)) where
  keyed := keyed_apply reflects.keyed _
  get?_iff := by
    intro name entry
    rw [read_get?, Option.or_eq_some_iff, get?_eraseDocument reflects.keyed, reflects.get?_iff]
    constructor
    · rintro (recorded | ⟨-, ⟨owner, version', current, recorded⟩, elsewhere⟩)
      · exact ⟨document, version, by simp [Edit.advance], recorded⟩
      · rw [(contribution_eq_some recorded).1] at elsewhere
        exact ⟨owner, version', by simpa [Edit.advance, elsewhere] using current, recorded⟩
    · rintro ⟨owner, version', current, recorded⟩
      by_cases same : owner = document
      · subst same
        obtain rfl : version = version' := by simpa [Edit.advance] using current
        exact Or.inl recorded
      · have current : versions owner = some version' := by
          simpa [Edit.advance, same] using current
        obtain ⟨owned, named⟩ := contribution_eq_some recorded
        refine Or.inr ⟨?_, ⟨owner, version', current, recorded⟩, by rwa [owned]⟩
        -- The version that is read contributes nothing under a name of another document.
        cases own : contribution document version name with
        | none => rfl
        | some _ =>
            have clash := separate owner version' current name (contribution_eq_some own).2 named
            exact absurd clash.symm same

theorem latest_append (edits : List Edit) (edit : Edit) :
    latest (edits ++ [edit]) = edit.advance (latest edits) := by
  simp [latest]

theorem build_append (edits : List Edit) (edit : Edit) :
    build (edits ++ [edit]) = edit.apply (build edits) := by
  simp [build]

theorem mem_of_latest {edits : List Edit} {document : Text} {version : Version}
    (current : latest edits document = some version) : .read document version ∈ edits := by
  induction edits using List.reverseRecOn with
  | nil => simp [latest] at current
  | append_singleton edits edit ih =>
      rw [latest_append] at current
      rw [List.mem_append]
      cases edit with
      | read other version' =>
          by_cases same : document = other
          · subst same
            obtain rfl : version' = version := by simpa [Edit.advance] using current
            exact Or.inr List.mem_cons_self
          · exact Or.inl (ih (by simpa [Edit.advance, same] using current))
      | remove other =>
          by_cases same : document = other
          · simp [Edit.advance, same] at current
          · exact Or.inl (ih (by simpa [Edit.advance, same] using current))

theorem Separate.of_subset {edits fewer : List Edit} (separate : Separate edits)
    (subset : fewer ⊆ edits) : Separate fewer := by
  have listed : fewer.flatMap Edit.described ⊆ edits.flatMap Edit.described := by
    intro pair member
    obtain ⟨edit, mem, here⟩ := List.mem_flatMap.mp member
    exact List.mem_flatMap.mpr ⟨edit, subset mem, here⟩
  exact fun mine first yours second => separate mine (listed first) yours (listed second)

theorem Separate.document_eq {edits : List Edit} (separate : Separate edits)
    {document other : Text} {version version' : Version}
    (mine : .read document version ∈ edits) (yours : .read other version' ∈ edits) {name : Text}
    (first : name ∈ described version) (second : name ∈ described version') :
    document = other :=
  separate (name, document) (List.mem_flatMap.mpr ⟨_, mine, List.mem_map_of_mem first⟩)
    (name, other) (List.mem_flatMap.mpr ⟨_, yours, List.mem_map_of_mem second⟩) rfl

theorem build_reflects {edits : List Edit} (separate : Separate edits) :
    Reflects (build edits).table (latest edits) := by
  induction edits using List.reverseRecOn with
  | nil => exact ⟨keyed_empty, fun name entry => by simp [build, latest, ObjectTable.get?]⟩
  | append_singleton edits edit ih =>
      have before := ih (separate.of_subset (List.subset_append_left _ _))
      rw [build_append, latest_append]
      cases edit with
      | read document version =>
          refine read_reflects before document version fun other version' current name => ?_
          exact separate.document_eq (by simp) (List.mem_append_left _ (mem_of_latest current))
      | remove document => exact remove_reflects before document

/-! ## Clean builds -/

theorem clean_subset (edits : List Edit) (order : List Text) : clean edits order ⊆ edits := by
  intro edit member
  obtain ⟨document, -, found⟩ := List.mem_filterMap.mp member
  obtain ⟨version, current, rfl⟩ := Option.map_eq_some_iff.mp found
  exact mem_of_latest current

theorem latest_clean (edits : List Edit) (order : List Text) (document : Text) :
    latest (clean edits order) document =
      if document ∈ order then latest edits document else none := by
  induction order using List.reverseRecOn with
  | nil => simp [clean, latest]
  | append_singleton order last ih =>
      have step : clean edits (order ++ [last]) = clean edits order ++ clean edits [last] := by
        simp [clean]
      cases current : latest edits last with
      | none =>
          have skipped : clean edits [last] = [] := by simp [clean, current]
          rw [step, skipped, List.append_nil, ih]
          by_cases same : document = last
          · simp [same, current]
          · simp [same]
      | some version =>
          have taken : clean edits [last] = [.read last version] := by simp [clean, current]
          rw [step, taken, latest_append]
          by_cases same : document = last
          · simp [Edit.advance, same, current]
          · simpa [Edit.advance, same] using ih

/-- An incremental build ends with the table of a clean build, whatever the order in which that
reads the surviving documents. -/
theorem build_get?_eq_clean (edits : List Edit) (separate : Separate edits) (order : List Text)
    (surviving : ∀ document, document ∈ order ↔ (latest edits document).isSome) (name : Text) :
    (build edits).table.get? name = (build (clean edits order)).table.get? name := by
  have incremental := build_reflects separate
  have fresh := build_reflects (separate.of_subset (clean_subset edits order))
  have versions : latest (clean edits order) = latest edits := by
    funext document
    rw [latest_clean]
    split
    · rfl
    · rename_i gone
      rw [surviving, Option.not_isSome_iff_eq_none] at gone
      exact gone.symm
  rw [versions] at fresh
  apply Option.ext
  intro entry
  rw [incremental.get?_iff, fresh.get?_iff]

def overload (type : Text) : Occurrence :=
  ⟨.topFunction, false, ⟨"Shape.area()", "Shape.area()-" ++ type, true⟩⟩

def revisions : List Edit :=
  [.read "shapes" [overload "Int"], .read "circles" [⟨.classType, false, ⟨"Circle", "Circle", true⟩⟩],
    .read "notes" [], .read "shapes" [overload "Long", overload "Double"], .remove "circles"]

theorem build_get?_eq_clean_revisions :
    (build revisions).table.get? "Shape.area()" = some ((overload "Double").entry "shapes") ∧
    ∀ name, (build revisions).table.get? name =
      (build (clean revisions ["notes", "shapes"])).table.get? name := by
  refine ⟨by decide +kernel, fun name => ?_⟩
  refine build_get?_eq_clean revisions (by decide +kernel) _ (fun document => ?_) name
  by_cases first : document = "shapes"
  · subst first
    decide +kernel
  · by_cases second : document = "notes"
    · subst second
      decide +kernel
    · have gone : latest revisions document = none := by
        simp only [revisions, latest, List.foldl, Edit.advance, Function.update_apply, first, second,
          if_false]
        split <;> rfl
      simp only [gone, List.mem_cons, List.not_mem_nil, first, second, Option.isSome_none, or_self,
        Bool.false_eq_true]

end KotlinDoc.Proofs.Domain
