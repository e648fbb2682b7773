import KotlinDoc.Proofs.Command.Workspace

/-!
# Nothing is overwritten unasked

Without the option to overwrite, a run keeps every file, however it ends. The test for pages that
are there already covers every page that the run then writes: a file can stand at the place of a
page and escape the test only if another file blocks the way to the documentation directory, and
that one blocks the writing, too (`blocked_of_unseen`, `not_write_of_blocked`).
-/

namespace KotlinDoc.Proofs.Command

open Files

section

variable {workspace : Workspace} {arguments : Arguments} {file : List Text × ByteArray}

def Blocked (fs : FileSystem) (cwd : Location) (documentation : Text) : Prop :=
  ∃ before, before <+: Path.names documentation ∧
    ∃ bytes, fs.node? (walk (FileSystem.origin cwd documentation) before) = some (.file bytes)

theorem Blocked.evolves {fs new : FileSystem} {cwd : Location} {documentation : Text}
    {target : Location → Prop} (blocked : Blocked fs cwd documentation)
    (evolves : Evolves target fs new) : Blocked new cwd documentation := by
  obtain ⟨before, onWay, there⟩ := blocked
  exact ⟨before, onWay, evolves.exists_file there⟩

theorem not_reached_of_blocked {fs : FileSystem} {cwd : Location}
    (blocked : Blocked fs cwd arguments.documentation) : ¬ Reached fs cwd arguments file := by
  obtain ⟨before, onWay, bytes, there⟩ := blocked
  intro reached
  have directory := reached.directory (onWay.trans (List.prefix_append _ _))
  rw [isDirectory_iff, there] at directory
  cases directory

theorem not_write_of_blocked {fs new : FileSystem} {cwd : Location} (tree : IsTree fs)
    (placed : fs.isDirectory cwd = true) (source : IsSource file.1)
    (blocked : Blocked fs cwd arguments.documentation) :
    (pageFor cwd arguments file).write arguments.selection cwd fs ≠ .ok new := by
  intro ok
  have evolves : Evolves (fun _ => False) fs (prepared fs cwd arguments file) :=
    prepared_evolves tree placed source
  exact not_reached_of_blocked (blocked.evolves evolves) ((write_eq_ok source).mp ok).1

theorem blocked_of_unseen (source : IsSource file.1) {bytes : ByteArray}
    (there : workspace.files.node? (place workspace.cwd arguments.documentation file.1) =
      some (.file bytes))
    (unseen : (workspace.documented arguments.documentation).exists? workspace.cwd
      (pagePath arguments.documentation file.1) = false) :
    Blocked (workspace.documented arguments.documentation) workspace.cwd
      arguments.documentation := by
  have evolves := documented_evolves workspace arguments.documentation fun _ => False
  have kept : (workspace.documented arguments.documentation).node?
      (place workspace.cwd arguments.documentation file.1) = some (.file bytes) :=
    makeAlong_kept _ _ there
  refine (makeAlong_along workspace.files _ (isDirectory_origin workspace.placed _)).resolve_left ?_
  intro along
  rw [Bool.eq_false_iff, ne_eq, exists?_page source, kept] at unseen
  apply unseen
  refine ⟨(along_append _ _ _).mpr ⟨along, ?_⟩, rfl⟩
  -- Below the documentation directory the file itself shows that there are directories.
  unfold place pageNames at kept
  rw [← List.append_assoc] at kept
  exact along_of_below (evolves.tree workspace.tree) (isLocation_dropLast source) kept

theorem writing_evolves_free
    (free : ∀ file ∈ workspace.plan arguments.source,
      (workspace.documented arguments.documentation).exists? workspace.cwd
        (pagePath arguments.documentation file.1) = false) :
    Evolves (fun location => ∀ bytes, workspace.files.node? location ≠ some (.file bytes))
      workspace.files (workspace.writing arguments).files := by
  have made := documented_evolves workspace arguments.documentation
    fun location => ∀ bytes, workspace.files.node? location ≠ some (.file bytes)
  have tree := made.tree workspace.tree
  have placed := made.isDirectory workspace.placed
  refine made.trans (writePages_evolves tree placed (fun _ => isSource_of_mem_plan) ?_)
  intro file member mid new evolves ok bytes there
  have source := isSource_of_mem_plan member
  have blocked := (blocked_of_unseen source there (free file member)).evolves evolves
  exact not_write_of_blocked (evolves.tree tree) (evolves.isDirectory placed) source blocked ok

/-! ## The courses of a run -/

variable {run : Run}

theorem Course.keeps_files (goes : Course workspace arguments run)
    (cautious : arguments.overwrite = false) {location : Location} {bytes : ByteArray}
    (there : workspace.files.node? location = some (.file bytes)) :
    run.files.node? location = some (.file bytes) := by
  cases goes with
  | unread unread => exact there
  | taken read _ member found => exact makeAlong_kept _ _ there
  | free read free =>
      have evolves := writing_evolves_free (free cautious)
      exact (evolves.file_iff (fun missing => missing bytes there) bytes).mpr there

theorem Course.wouldOverwrite_iff (goes : Course workspace arguments run)
    (cautious : arguments.overwrite = false) :
    run.outcome = .wouldOverwrite ↔
      (∃ symbols, (workspace.indexing arguments.source).2 = .ok symbols) ∧
        ∃ destination, workspace.IsDestination arguments destination ∧
          (workspace.documented arguments.documentation).exists? workspace.cwd destination = true := by
  cases goes with
  | unread unread => simp [unread]
  | taken read _ member found =>
      simp only [read, true_iff]
      exact ⟨⟨_, rfl⟩, _, isDestination_iff.mpr ⟨_, member, rfl⟩, found⟩
  | free read free =>
      constructor
      · intro stopped
        exact absurd stopped (writing_outcome workspace arguments)
      · rintro ⟨-, destination, isDestination, found⟩
        obtain ⟨file, member, rfl⟩ := isDestination_iff.mp isDestination
        rw [free cautious file member] at found
        cases found

theorem Course.files_of_wouldOverwrite (goes : Course workspace arguments run)
    (stopped : run.outcome = .wouldOverwrite) :
    run.files = workspace.documented arguments.documentation := by
  cases goes with
  | unread unread => cases stopped
  | taken read _ member found => rfl
  | free read free => exact absurd stopped (writing_outcome workspace arguments)

end

/-- Without the option to overwrite, every file is kept, however the run ends. The run refuses just
if the source files can be read and one of the pages is there; it then makes at most the
documentation directory. If a source file cannot be read, nothing changes. -/
theorem files_kept_without_overwrite (workspace : Workspace) (line : List Text)
    (cautious : ∀ arguments, Arguments.parse line = .run arguments → arguments.overwrite = false) :
    (∀ location bytes, workspace.files.node? location = some (.file bytes) →
      (workspace.run line).files.node? location = some (.file bytes)) ∧
    ((workspace.run line).outcome = .wouldOverwrite ↔
      ∃ arguments, Arguments.parse line = .run arguments ∧
        (∃ symbols, (workspace.indexing arguments.source).2 = .ok symbols) ∧
        ∃ destination, workspace.IsDestination arguments destination ∧
          (workspace.documented arguments.documentation).exists? workspace.cwd destination = true) ∧
    ((workspace.run line).outcome = .wouldOverwrite → ∀ location,
      (workspace.run line).files.node? location = workspace.files.node? location ∨
        workspace.files.node? location = none ∧
        (workspace.run line).files.node? location = some .directory ∧
        ∃ arguments before, Arguments.parse line = .run arguments ∧
          before <+: Path.names arguments.documentation ∧
          location = walk (FileSystem.origin workspace.cwd arguments.documentation) before) ∧
    (∀ source error, sourceOf? (Arguments.parse line) = some source →
      (workspace.indexing source).2 = .error error →
      (workspace.run line).files = workspace.files ∧
        (workspace.run line).outcome = .failed error) := by
  have unread : ∀ source error, sourceOf? (Arguments.parse line) = some source →
      (workspace.indexing source).2 = .error error →
      (workspace.run line).files = workspace.files ∧
        (workspace.run line).outcome = .failed error := by
    intro source error asked failed
    rw [run_of_indexing_error asked failed]
    exact ⟨rfl, rfl⟩
  by_cases both : ∃ arguments, Arguments.parse line = .run arguments
  · obtain ⟨arguments, parsed⟩ := both
    have goes : Course workspace arguments (workspace.run line) := run_course parsed
    have mine := cautious arguments parsed
    refine ⟨fun location bytes => goes.keeps_files mine, ?_, ?_, unread⟩
    · rw [goes.wouldOverwrite_iff mine]
      constructor
      · exact fun stopped => ⟨arguments, parsed, stopped⟩
      · rintro ⟨other, same, stopped⟩
        cases parsed.symm.trans same
        exact stopped
    · intro stopped location
      rw [goes.files_of_wouldOverwrite stopped]
      refine (makeAlong_node? _ _ _ location).imp_right ?_
      rintro ⟨none, made, before, onWay⟩
      exact ⟨none, made, arguments, before, parsed, onWay⟩
  · obtain ⟨same, goesOn⟩ := run_unplaced (not_exists.mp both)
    rw [same] at unread ⊢
    refine ⟨fun _ _ there => there, ?_, fun stopped => absurd stopped goesOn, unread⟩
    constructor
    · exact fun stopped => absurd stopped goesOn
    · rintro ⟨arguments, parsed, -⟩
      exact absurd ⟨arguments, parsed⟩ both

theorem files_kept_without_overwrite_library :
    (∀ arguments, Arguments.parse ["src", "out"] = .run arguments → arguments.overwrite = false) ∧
      (library.run ["src", "out"]).outcome = .wouldOverwrite ∧
      (library.run ["src", "out"]).files.node? ["w", "out", "b", "B.rst"] =
        some (.file "old".toUTF8) := by
  have line : Arguments.parse ["src", "out"] = .run ⟨"src", "out", false, {}⟩ := by decide +kernel
  have cautious : ∀ arguments, Arguments.parse ["src", "out"] = .run arguments →
      arguments.overwrite = false := by
    intro arguments parsed
    cases line.symm.trans parsed
    rfl
  have kept := files_kept_without_overwrite library ["src", "out"] cautious
  exact ⟨cautious, by decide +kernel, kept.1 _ _ rfl⟩

end KotlinDoc.Proofs.Command
