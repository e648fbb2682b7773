import KotlinDoc.Proofs.Command.Writing

namespace KotlinDoc.Proofs.Command

open Files

structure Workspace where
  files : FileSystem
  order : WalkOrder
  cwd : Location
  tree : IsTree files
  placed : files.isDirectory cwd = true

namespace Workspace

variable (workspace : Workspace)

def inOrder (order : WalkOrder) : Workspace :=
  { workspace with order := order }

def run (line : List Text) : Run :=
  Run.ofLine workspace.order workspace.files workspace.cwd line

def sourceFiles (source : Text) : List SourceFile :=
  Run.sourceFiles workspace.order workspace.files (root workspace.cwd source)

def indexing (source : Text) : List Text × Except FileError (List Symbol) :=
  SourceFile.indexAll (workspace.sourceFiles source)

def HasSymbols (file : SourceFile) : Prop :=
  ∃ symbol symbols, file.symbols = .ok (symbol :: symbols)

def destination? (arguments : Arguments) (file : SourceFile) : Option Text :=
  Path.destination? (cwdPath workspace.cwd) file.path arguments.source arguments.documentation

def IsDestination (arguments : Arguments) (destination : Text) : Prop :=
  ∃ file ∈ workspace.sourceFiles arguments.source,
    HasSymbols file ∧ workspace.destination? arguments file = some destination

def documented (documentation : Text) : FileSystem :=
  workspace.files.makeDirectories workspace.cwd documentation

def plan (source : Text) : List (List Text × ByteArray) :=
  planned workspace.order workspace.files workspace.cwd source

def writing (arguments : Arguments) : Run :=
  writePages (workspace.documented arguments.documentation) workspace.cwd arguments
    (workspace.plan arguments.source)

end Workspace

section

variable {workspace : Workspace} {arguments : Arguments}

theorem symbolsOf_ne_nil {cwd : Location} {source : Text} {file : List Text × ByteArray} :
    symbolsOf cwd source file ≠ [] ↔ Workspace.HasSymbols (sourceFile cwd source file) := by
  unfold symbolsOf indexed Workspace.HasSymbols
  cases (sourceFile cwd source file).symbols with
  | error error => simp
  | ok symbols => cases symbols <;> simp

theorem mem_plan {source : Text} {file : List Text × ByteArray} :
    file ∈ workspace.plan source ↔
      file ∈ sources workspace.order workspace.files workspace.cwd source ∧
        Workspace.HasSymbols (sourceFile workspace.cwd source file) := by
  unfold Workspace.plan planned
  rw [List.mem_filter, ← symbolsOf_ne_nil]
  simp

theorem mem_plan_inOrder {source : Text} {file : List Text × ByteArray} {order : WalkOrder}
    (member : file ∈ (workspace.inOrder order).plan source) : file ∈ workspace.plan source := by
  obtain ⟨listed, symbols⟩ := mem_plan.mp member
  exact mem_plan.mpr ⟨mem_sources_of_order workspace.tree listed, symbols⟩

theorem mem_sourceFiles_inOrder {source : Text} {file : SourceFile} {order : WalkOrder}
    (member : file ∈ (workspace.inOrder order).sourceFiles source) :
    file ∈ workspace.sourceFiles source := by
  obtain ⟨listed, there, rfl⟩ := List.mem_map.mp member
  exact List.mem_map.mpr ⟨listed, mem_sources_of_order workspace.tree there, rfl⟩

theorem isSource_of_mem_plan {source : Text} {file : List Text × ByteArray}
    (member : file ∈ workspace.plan source) : IsSource file.1 :=
  isSource_of_mem_sources workspace.tree (mem_plan.mp member).1

theorem nodup_plan (workspace : Workspace) (source : Text) :
    ((workspace.plan source).map Prod.fst).Nodup :=
  (nodup_kotlinFiles workspace.tree _ _).sublist (List.filter_sublist.map _)

theorem destination?_sourceFile {file : List Text × ByteArray} (source : IsSource file.1)
    (arguments : Arguments) :
    workspace.destination? arguments (sourceFile workspace.cwd arguments.source file) =
      some (pagePath arguments.documentation file.1) :=
  destination?_below (isAbsolute_cwdPath _) _ _ source

theorem isDestination_iff {destination : Text} :
    workspace.IsDestination arguments destination ↔
      ∃ file ∈ workspace.plan arguments.source,
        pagePath arguments.documentation file.1 = destination := by
  unfold Workspace.IsDestination Workspace.sourceFiles
  rw [sourceFiles_eq]
  constructor
  · rintro ⟨_, member, symbols, here⟩
    obtain ⟨file, listed, rfl⟩ := List.mem_map.mp member
    rw [destination?_sourceFile (isSource_of_mem_sources workspace.tree listed)] at here
    exact ⟨file, mem_plan.mpr ⟨listed, symbols⟩, Option.some.inj here⟩
  · rintro ⟨file, member, rfl⟩
    obtain ⟨listed, symbols⟩ := mem_plan.mp member
    exact ⟨_, List.mem_map.mpr ⟨file, listed, rfl⟩, symbols,
      destination?_sourceFile (isSource_of_mem_plan member) arguments⟩

/-! ## The courses of a run -/

/-- What a run with both paths does. -/
inductive Course (workspace : Workspace) (arguments : Arguments) : Run → Prop where
  | unread {notices : List Text} {error : FileError}
      (unread : workspace.indexing arguments.source = (notices, .error error)) :
      Course workspace arguments ⟨workspace.files, notices, .failed error⟩
  | taken {notices : List Text} {symbols : List Symbol} {file : List Text × ByteArray}
      (read : workspace.indexing arguments.source = (notices, .ok symbols))
      (cautious : arguments.overwrite = false) (member : file ∈ workspace.plan arguments.source)
      (there : (workspace.documented arguments.documentation).exists? workspace.cwd
        (pagePath arguments.documentation file.1) = true) :
      Course workspace arguments ⟨workspace.documented arguments.documentation,
        notices ++ (pageFor workspace.cwd arguments file).refusal, .wouldOverwrite⟩
  | free {notices : List Text} {symbols : List Symbol}
      (read : workspace.indexing arguments.source = (notices, .ok symbols))
      (free : arguments.overwrite = false → ∀ file ∈ workspace.plan arguments.source,
        (workspace.documented arguments.documentation).exists? workspace.cwd
          (pagePath arguments.documentation file.1) = false) :
      Course workspace arguments
        { workspace.writing arguments with
          printed := notices ++ (workspace.writing arguments).printed }

theorem withArguments_error {notices : List Text} {error : FileError}
    (unread : workspace.indexing arguments.source = (notices, .error error)) :
    Run.withArguments workspace.order workspace.files workspace.cwd arguments =
      ⟨workspace.files, notices, .failed error⟩ := by
  unfold Workspace.indexing Workspace.sourceFiles root cwdPath at unread
  unfold Run.withArguments
  dsimp only
  rw [unread]

theorem withArguments_ok {notices : List Text} {symbols : List Symbol}
    (read : workspace.indexing arguments.source = (notices, .ok symbols)) :
    Run.withArguments workspace.order workspace.files workspace.cwd arguments =
      match if arguments.overwrite then none
        else ((workspace.plan arguments.source).map (pageFor workspace.cwd arguments)).find?
          ((workspace.documented arguments.documentation).exists? workspace.cwd ·.destination) with
      | some page => ⟨workspace.documented arguments.documentation, notices ++ page.refusal,
          .wouldOverwrite⟩
      | none =>
        { workspace.writing arguments with
          printed := notices ++ (workspace.writing arguments).printed } := by
  have pages : Run.pages (cwdPath workspace.cwd) arguments symbols =
      (workspace.plan arguments.source).map (pageFor workspace.cwd arguments) := by
    rw [← (indexAll_eq_ok.mp (congrArg Prod.snd read)).2]
    exact pages_eq workspace.tree workspace.order workspace.cwd arguments
  unfold Workspace.indexing Workspace.sourceFiles root cwdPath at read
  unfold cwdPath at pages
  unfold Run.withArguments
  dsimp only
  rw [read]
  dsimp only
  rw [pages]
  rfl

theorem course (workspace : Workspace) (arguments : Arguments) :
    Course workspace arguments
      (Run.withArguments workspace.order workspace.files workspace.cwd arguments) := by
  cases result : workspace.indexing arguments.source with
  | mk notices index =>
      cases index with
      | error error =>
          rw [withArguments_error result]
          exact .unread result
      | ok symbols =>
          rw [withArguments_ok result]
          split
          · rename_i page found
            split at found
            · cases found
            · rename_i cautious
              have member := List.mem_of_find?_eq_some found
              obtain ⟨file, planned, rfl⟩ := List.mem_map.mp member
              have there := List.find?_some found
              exact .taken result (by simpa using cautious) planned there
          · rename_i none
            refine .free result fun cautious file planned => ?_
            rw [if_neg (by simp [cautious]), List.find?_eq_none] at none
            exact Bool.eq_false_iff.mpr (none _ (List.mem_map.mpr ⟨file, planned, rfl⟩))

/-! ## Changes -/

def FileChanged (fs new : FileSystem) (location : Location) : Prop :=
  ∃ bytes, ¬ (new.node? location = some (.file bytes) ↔ fs.node? location = some (.file bytes))

theorem target_of_fileChanged {target : Location → Prop} {fs new : FileSystem}
    (evolves : Evolves target fs new) {location : Location}
    (changed : FileChanged fs new location) : target location := by
  obtain ⟨bytes, differs⟩ := changed
  by_contra missed
  exact differs (evolves.file_iff missed bytes)

theorem writePages_outcome {fs : FileSystem} {cwd : Location}
    {files : List (List Text × ByteArray)} (source : ∀ file ∈ files, IsSource file.1) :
    (writePages fs cwd arguments files).outcome ≠ .wouldOverwrite := by
  induction files generalizing fs with
  | nil => nofun
  | cons file files ih =>
      cases ok : (pageFor cwd arguments file).write arguments.selection cwd fs with
      | error error =>
          rw [writePages_cons_error (source file List.mem_cons_self) ok]
          nofun
      | ok new =>
          rw [writePages_cons_ok ok]
          exact ih fun other member => source other (List.mem_cons_of_mem _ member)

theorem writing_outcome (workspace : Workspace) (arguments : Arguments) :
    (workspace.writing arguments).outcome ≠ .wouldOverwrite :=
  writePages_outcome fun _ => isSource_of_mem_plan

theorem documented_evolves (workspace : Workspace) (documentation : Text)
    (target : Location → Prop) :
    Evolves target workspace.files (workspace.documented documentation) :=
  (makeAlong_evolves workspace.tree (isDirectory_origin workspace.placed _)
    fun _ => isPiece_of_mem_names).mono fun _ impossible => impossible.elim

theorem writing_evolves (workspace : Workspace) (arguments : Arguments) :
    Evolves (fun location => ∃ file ∈ workspace.plan arguments.source,
        place workspace.cwd arguments.documentation file.1 = location)
      workspace.files (workspace.writing arguments).files := by
  have made := documented_evolves workspace arguments.documentation fun location =>
    ∃ file ∈ workspace.plan arguments.source,
      place workspace.cwd arguments.documentation file.1 = location
  refine made.trans (writePages_evolves (made.tree workspace.tree)
    (made.isDirectory workspace.placed) (fun _ => isSource_of_mem_plan) ?_)
  exact fun file member _ _ _ _ => ⟨file, member, rfl⟩

theorem Course.evolves {run : Run} (goes : Course workspace arguments run) :
    Evolves (fun _ => True) workspace.files run.files := by
  cases goes with
  | unread unread => exact .refl
  | taken read _ member found => exact documented_evolves workspace _ _
  | free read free => exact (writing_evolves workspace arguments).mono fun _ _ => trivial

/-! ## Runs that end well -/

theorem Course.of_done {run : Run} (goes : Course workspace arguments run)
    (done : run.outcome = .done) :
    ∃ notices symbols, workspace.indexing arguments.source = (notices, .ok symbols) ∧
      (workspace.writing arguments).outcome = .done ∧
      run = { workspace.writing arguments with
        printed := notices ++ (workspace.writing arguments).printed } := by
  cases goes with
  | unread unread => cases done
  | taken read _ _ _ => cases done
  | free read _ => exact ⟨_, _, read, done, rfl⟩

theorem writing_settled (done : (workspace.writing arguments).outcome = .done)
    {file : List Text × ByteArray} (member : file ∈ workspace.plan arguments.source) :
    Settled (workspace.writing arguments).files workspace.cwd arguments file := by
  have made := documented_evolves workspace arguments.documentation fun _ => True
  exact writePages_settled (made.tree workspace.tree) (made.isDirectory workspace.placed)
    (fun _ => isSource_of_mem_plan) (nodup_plan workspace _) done file member

theorem writing_eq (done : (workspace.writing arguments).outcome = .done) :
    workspace.writing arguments = ⟨(workspace.writing arguments).files,
      (workspace.plan arguments.source).map fun file =>
        (pageFor workspace.cwd arguments file).notice, .done⟩ := by
  have printed : (workspace.writing arguments).printed = (workspace.plan arguments.source).map
      fun file => (pageFor workspace.cwd arguments file).notice :=
    writePages_printed (fun _ => isSource_of_mem_plan) done
  rw [← printed, ← done]

/-! ## Command lines -/

def sourceOf? : Request → Option Text
  | .run arguments => some arguments.source
  | .unplaced source => some source
  | .help | .refused => none

theorem run_of_parse {line : List Text} (parsed : Arguments.parse line = .run arguments) :
    workspace.run line = Run.withArguments workspace.order workspace.files workspace.cwd arguments := by
  unfold Workspace.run Run.ofLine
  rw [parsed]

theorem run_course {line : List Text} (parsed : Arguments.parse line = .run arguments) :
    Course workspace arguments (workspace.run line) := by
  rw [run_of_parse parsed]
  exact course workspace arguments

def unplacedOutcome : Except FileError (List Symbol) → Outcome
  | .error error => .failed error
  | .ok symbols => if symbols.isEmpty then .done else .unplaced

theorem withoutPlace_eq (workspace : Workspace) (source : Text) :
    Run.withoutPlace workspace.order workspace.files workspace.cwd source =
      ⟨workspace.files, (workspace.indexing source).1,
        unplacedOutcome (workspace.indexing source).2⟩ := by
  cases result : workspace.indexing source with
  | mk notices index =>
      unfold Workspace.indexing Workspace.sourceFiles root cwdPath at result
      unfold Run.withoutPlace
      dsimp only
      rw [result]
      cases index <;> rfl

theorem run_of_indexing_error {line : List Text} {source : Text} {error : FileError}
    (asked : sourceOf? (Arguments.parse line) = some source)
    (unread : (workspace.indexing source).2 = .error error) :
    workspace.run line = ⟨workspace.files, (workspace.indexing source).1, .failed error⟩ := by
  have result : workspace.indexing source = ((workspace.indexing source).1, .error error) :=
    Prod.ext rfl unread
  unfold Workspace.run Run.ofLine
  cases parsed : Arguments.parse line with
  | run arguments =>
      rw [parsed] at asked
      cases asked
      exact withArguments_error result
  | unplaced place =>
      rw [parsed] at asked
      cases asked
      dsimp only
      rw [withoutPlace_eq, unread]
      rfl
  | help =>
      rw [parsed] at asked
      cases asked
  | refused =>
      rw [parsed] at asked
      cases asked

theorem indexing_ok_of_done {line : List Text} {source : Text}
    (asked : sourceOf? (Arguments.parse line) = some source)
    (done : (workspace.run line).outcome = .done) :
    ∃ symbols, (workspace.indexing source).2 = .ok symbols := by
  cases read : (workspace.indexing source).2 with
  | ok symbols => exact ⟨symbols, rfl⟩
  | error error =>
      rw [run_of_indexing_error asked read] at done
      cases done

theorem run_of_unplaced {line : List Text} {source : Text}
    (parsed : Arguments.parse line = .unplaced source) :
    workspace.run line = ⟨workspace.files, (workspace.indexing source).1,
      unplacedOutcome (workspace.indexing source).2⟩ := by
  unfold Workspace.run Run.ofLine
  rw [parsed]
  exact withoutPlace_eq workspace source

theorem done_iff_of_unplaced {line : List Text} {source : Text}
    (parsed : Arguments.parse line = .unplaced source) :
    (workspace.run line).outcome = .done ↔
      ∀ file ∈ workspace.sourceFiles source, file.symbols = .ok [] := by
  have silent : ∀ file : SourceFile,
      file.symbols = .ok [] ↔ Readable file ∧ indexed file = [] := by
    intro file
    unfold indexed
    rw [readable_iff]
    cases file.symbols <;> simp
  have ended : (workspace.indexing source).2 = .ok [] ↔
      ∀ file ∈ workspace.sourceFiles source, file.symbols = .ok [] := by
    simp only [silent]
    rw [forall₂_and, ← List.flatMap_eq_nil_iff]
    exact indexAll_eq_ok
  rw [run_of_unplaced parsed, ← ended]
  cases (workspace.indexing source).2 with
  | error error => simp [unplacedOutcome]
  | ok symbols => cases symbols <;> simp [unplacedOutcome]

theorem run_unplaced {line : List Text}
    (unplaced : ∀ arguments, Arguments.parse line ≠ .run arguments) :
    (workspace.run line).files = workspace.files ∧
      (workspace.run line).outcome ≠ .wouldOverwrite := by
  cases parsed : Arguments.parse line with
  | run arguments => exact absurd parsed (unplaced arguments)
  | unplaced source =>
      rw [run_of_unplaced parsed]
      refine ⟨rfl, ?_⟩
      cases (workspace.indexing source).2 with
      | error error => simp [unplacedOutcome]
      | ok symbols => cases symbols <;> simp [unplacedOutcome]
  | help =>
      unfold Workspace.run Run.ofLine
      rw [parsed]
      exact ⟨rfl, by simp⟩
  | refused =>
      unfold Workspace.run Run.ofLine
      rw [parsed]
      exact ⟨rfl, by simp⟩

theorem run_unplaced_inOrder {line : List Text}
    (unplaced : ∀ arguments, Arguments.parse line ≠ .run arguments)
    (done : (workspace.run line).outcome = .done) (order : WalkOrder) :
    ((workspace.inOrder order).run line).files = workspace.files ∧
      ((workspace.inOrder order).run line).outcome = .done := by
  refine ⟨(run_unplaced unplaced).1, ?_⟩
  cases parsed : Arguments.parse line with
  | run arguments => exact absurd parsed (unplaced arguments)
  | unplaced source =>
      have silent := (done_iff_of_unplaced parsed).mp done
      exact (done_iff_of_unplaced parsed).mpr fun file member =>
        silent file (mem_sourceFiles_inOrder member)
  | help =>
      unfold Workspace.run Run.ofLine at done ⊢
      rw [parsed] at done ⊢
      exact done
  | refused =>
      unfold Workspace.run Run.ofLine at done ⊢
      rw [parsed] at done ⊢
      exact done

theorem run_evolves (workspace : Workspace) (line : List Text) :
    Evolves (fun _ => True) workspace.files (workspace.run line).files := by
  by_cases both : ∃ arguments, Arguments.parse line = .run arguments
  · obtain ⟨arguments, parsed⟩ := both
    exact (run_course parsed).evolves
  · rw [(run_unplaced (not_exists.mp both)).1]

end

def Workspace.after (workspace : Workspace) (line : List Text) : Workspace where
  files := (workspace.run line).files
  order := workspace.order
  cwd := workspace.cwd
  tree := (run_evolves workspace line).tree workspace.tree
  placed := (run_evolves workspace line).isDirectory workspace.placed

/-- Two source files, of which the one in a subdirectory leaves its braces open, and an old page for
that one. -/
def library : Workspace where
  files := ⟨[
    (["w"], .directory),
    (["w", "src"], .directory),
    (["w", "src", "A.kt"], .file "/** Doc. */\nclass A \x7b\n    val x = 1\n\x7d\n".toUTF8),
    (["w", "src", "b"], .directory),
    (["w", "src", "b", "B.kt"], .file "class B \x7b\x7b\n    fun f(".toUTF8),
    (["w", "out"], .directory),
    (["w", "out", "b"], .directory),
    (["w", "out", "b", "B.rst"], .file "old".toUTF8)]⟩
  order := .sorted
  cwd := ["w"]
  tree := by decide +kernel
  placed := by decide +kernel

end KotlinDoc.Proofs.Command
