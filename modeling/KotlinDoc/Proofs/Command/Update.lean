import KotlinDoc.Proofs.Command.Workspace

namespace KotlinDoc.Proofs.Command

open Files

section

variable {workspace : Workspace} {arguments : Arguments}

theorem writing_documented (done : (workspace.writing arguments).outcome = .done) :
    (workspace.writing arguments).files.makeDirectories workspace.cwd arguments.documentation =
      (workspace.writing arguments).files := by
  cases files : workspace.plan arguments.source with
  | nil =>
      have same : (workspace.writing arguments).files =
          workspace.documented arguments.documentation := by
        unfold Workspace.writing
        rw [files]
        rfl
      rw [same]
      exact makeAlong_makeAlong _ _ _
  | cons file others =>
      have member : file ∈ workspace.plan arguments.source := by simp [files]
      have along := (writing_settled done member).reached
      exact makeAlong_eq_self ((along_append _ _ _).mp along).1

end

def Workspace.rewritten (workspace : Workspace) (arguments : Arguments) (order : WalkOrder) :
    Workspace where
  files := (workspace.writing arguments).files
  order := order
  cwd := workspace.cwd
  tree := (writing_evolves workspace arguments).tree workspace.tree
  placed := (writing_evolves workspace arguments).isDirectory workspace.placed

section

variable {workspace : Workspace} {arguments : Arguments}

theorem sources_rewritten (workspace : Workspace) (arguments : Arguments) (order : WalkOrder)
    (source : Text) :
    sources order (workspace.rewritten arguments order).files workspace.cwd source =
      sources order workspace.files workspace.cwd source := by
  have other : ∀ location, (∃ file ∈ workspace.plan arguments.source,
      place workspace.cwd arguments.documentation file.1 = location) →
      isKotlin location = false := by
    rintro _ ⟨file, -, rfl⟩
    exact isKotlin_place _ _ _
  unfold sources
  exact (writing_evolves workspace arguments).kotlinFiles workspace.tree other order
    (Path.names (root workspace.cwd source))

theorem indexing_rewritten (workspace : Workspace) (arguments : Arguments) (order : WalkOrder)
    (source : Text) :
    (workspace.rewritten arguments order).indexing source =
      (workspace.inOrder order).indexing source := by
  unfold Workspace.indexing Workspace.sourceFiles
  rw [sourceFiles_eq, sourceFiles_eq]
  exact congrArg (fun files => SourceFile.indexAll (files.map (sourceFile workspace.cwd source)))
    (sources_rewritten workspace arguments order source)

theorem plan_rewritten (workspace : Workspace) (arguments : Arguments) (order : WalkOrder)
    (source : Text) :
    (workspace.rewritten arguments order).plan source = (workspace.inOrder order).plan source :=
  congrArg (List.filter fun file => !(symbolsOf workspace.cwd source file).isEmpty)
    (sources_rewritten workspace arguments order source)

theorem writing_rewritten (done : (workspace.writing arguments).outcome = .done)
    (order : WalkOrder) :
    (workspace.rewritten arguments order).writing arguments =
      ⟨(workspace.writing arguments).files,
        ((workspace.inOrder order).plan arguments.source).map fun file =>
          (pageFor workspace.cwd arguments file).notice, .done⟩ := by
  have made : (workspace.rewritten arguments order).documented arguments.documentation =
      (workspace.rewritten arguments order).files := writing_documented done
  have settled : ∀ file ∈ (workspace.inOrder order).plan arguments.source,
      Settled (workspace.rewritten arguments order).files workspace.cwd arguments file :=
    fun file member => writing_settled done (mem_plan_inOrder member)
  unfold Workspace.writing
  rw [made, plan_rewritten]
  exact writePages_of_settled (workspace.rewritten arguments order).tree
    (fun _ => isSource_of_mem_plan) settled

theorem indexing_inOrder {source : Text} {symbols : List Symbol}
    (read : (workspace.indexing source).2 = .ok symbols) (order : WalkOrder) :
    ∃ others, ((workspace.inOrder order).indexing source).2 = .ok others := by
  have readable := (indexAll_eq_ok.mp read).1
  exact ⟨_, indexAll_eq_ok.mpr
    ⟨fun file member => readable file (mem_sourceFiles_inOrder member), rfl⟩⟩

/-- Whatever order the files are found in, a second run prints what they are and writes what is
there. -/
theorem Course.again {run : Run} (goes : Course workspace arguments run)
    (bold : arguments.overwrite = true) (done : run.outcome = .done) (order : WalkOrder) :
    Run.withArguments order run.files workspace.cwd arguments = ⟨run.files,
      ((workspace.inOrder order).indexing arguments.source).1 ++
        ((workspace.inOrder order).plan arguments.source).map fun file =>
          (pageFor workspace.cwd arguments file).notice, .done⟩ := by
  obtain ⟨notices, symbols, read, written, rfl⟩ := goes.of_done done
  obtain ⟨others, too⟩ := indexing_inOrder (congrArg Prod.snd read) order
  have again : (workspace.rewritten arguments order).indexing arguments.source =
      (((workspace.inOrder order).indexing arguments.source).1, .ok others) := by
    rw [indexing_rewritten]
    exact Prod.ext rfl too
  have second := withArguments_ok again
  rw [if_pos bold, writing_rewritten written] at second
  exact second

theorem Course.eq_of_done {run : Run} (goes : Course workspace arguments run)
    (done : run.outcome = .done) :
    run = ⟨run.files, (workspace.indexing arguments.source).1 ++
      (workspace.plan arguments.source).map fun file =>
        (pageFor workspace.cwd arguments file).notice, .done⟩ := by
  obtain ⟨notices, symbols, read, written, rfl⟩ := goes.of_done done
  rw [read, writing_eq written]

theorem Course.destination_of_fileChanged {run : Run} (goes : Course workspace arguments run)
    (done : run.outcome = .done) {location : Location}
    (changed : FileChanged workspace.files run.files location) :
    ∃ destination, workspace.IsDestination arguments destination ∧
      run.files.locate workspace.cwd destination = .ok location := by
  obtain ⟨notices, symbols, read, written, rfl⟩ := goes.of_done done
  obtain ⟨file, member, rfl⟩ := target_of_fileChanged (writing_evolves workspace arguments) changed
  exact ⟨_, isDestination_iff.mpr ⟨file, member, rfl⟩,
    (writing_settled written member).locate_eq (isSource_of_mem_plan member)⟩

theorem Course.file_of_isDestination {run : Run} (goes : Course workspace arguments run)
    (done : run.outcome = .done) {destination : Text}
    (isDestination : workspace.IsDestination arguments destination) :
    ∃ location bytes, run.files.locate workspace.cwd destination = .ok location ∧
      run.files.node? location = some (.file bytes) := by
  obtain ⟨notices, symbols, read, written, rfl⟩ := goes.of_done done
  obtain ⟨file, member, rfl⟩ := isDestination_iff.mp isDestination
  have settled := writing_settled written member
  exact ⟨_, _, settled.locate_eq (isSource_of_mem_plan member), settled.stored⟩

theorem Course.keeps_kotlin {run : Run} (goes : Course workspace arguments run)
    (done : run.outcome = .done) {location : Location} (kotlin : isKotlin location = true) :
    ¬ FileChanged workspace.files run.files location := by
  obtain ⟨notices, symbols, read, written, rfl⟩ := goes.of_done done
  intro changed
  obtain ⟨file, -, rfl⟩ := target_of_fileChanged (writing_evolves workspace arguments) changed
  rw [isKotlin_place] at kotlin
  cases kotlin

end

/-- A run that may overwrite and ends well changes files at the destinations of its pages only,
where it leaves a file, and no Kotlin file. Run once more, in whatever order the files are then
found, it ends well and changes nothing. -/
theorem overwriting_run_idempotent (workspace : Workspace) (line : List Text)
    (bold : ∀ arguments, Arguments.parse line = .run arguments → arguments.overwrite = true)
    (done : (workspace.run line).outcome = .done) :
    (∀ location, FileChanged workspace.files (workspace.run line).files location →
      ∃ arguments destination, Arguments.parse line = .run arguments ∧
        workspace.IsDestination arguments destination ∧
        (workspace.run line).files.locate workspace.cwd destination = .ok location) ∧
    (∀ arguments destination, Arguments.parse line = .run arguments →
      workspace.IsDestination arguments destination →
      ∃ location bytes,
        (workspace.run line).files.locate workspace.cwd destination = .ok location ∧
        (workspace.run line).files.node? location = some (.file bytes)) ∧
    (∀ location, isKotlin location = true →
      ¬ FileChanged workspace.files (workspace.run line).files location) ∧
    (∀ order, (((workspace.after line).inOrder order).run line).files = (workspace.run line).files ∧
      (((workspace.after line).inOrder order).run line).outcome = .done) ∧
    (workspace.after line).run line = workspace.run line := by
  by_cases both : ∃ arguments, Arguments.parse line = .run arguments
  · obtain ⟨arguments, parsed⟩ := both
    have goes : Course workspace arguments (workspace.run line) := run_course parsed
    have second : ∀ order, ((workspace.after line).inOrder order).run line = _ :=
      fun order => (run_of_parse parsed).trans (goes.again (bold _ parsed) done order)
    refine ⟨?_, ?_, fun _ => goes.keeps_kotlin done, ?_, ?_⟩
    · intro location changed
      obtain ⟨destination, leads⟩ := goes.destination_of_fileChanged done changed
      exact ⟨arguments, destination, parsed, leads⟩
    · intro other destination same isDestination
      cases parsed.symm.trans same
      exact goes.file_of_isDestination done isDestination
    · intro order
      rw [second order]
      exact ⟨rfl, rfl⟩
    · exact (second workspace.order).trans (goes.eq_of_done done).symm
  · have unplaced := not_exists.mp both
    have same : (workspace.run line).files = workspace.files := (run_unplaced unplaced).1
    have again : ∀ order, ((workspace.after line).inOrder order).run line =
        (workspace.inOrder order).run line := by
      intro order
      show Run.ofLine order (workspace.run line).files workspace.cwd line = _
      rw [same]
      rfl
    have kept : ∀ location, ¬ FileChanged workspace.files (workspace.run line).files location := by
      rintro location ⟨bytes, differs⟩
      exact differs (by rw [same])
    refine ⟨fun location changed => absurd changed (kept location),
      fun arguments _ parsed => absurd parsed (unplaced arguments), fun location _ => kept location,
      fun order => ?_, again workspace.order⟩
    rw [again, same]
    exact run_unplaced_inOrder unplaced done order

theorem overwriting_run_idempotent_inside :
    (∀ arguments, Arguments.parse ["--overwrite", "src", "src/b/../docs"] = .run arguments →
      arguments.overwrite = true) ∧
      (library.run ["--overwrite", "src", "src/b/../docs"]).outcome = .done ∧
      (((library.after ["--overwrite", "src", "src/b/../docs"]).inOrder
          ⟨List.reverse, List.reverse_perm⟩).run ["--overwrite", "src", "src/b/../docs"]).files =
        (library.run ["--overwrite", "src", "src/b/../docs"]).files ∧
      (library.after ["--overwrite", "src", "src/b/../docs"]).run
          ["--overwrite", "src", "src/b/../docs"] =
        library.run ["--overwrite", "src", "src/b/../docs"] := by
  have line : Arguments.parse ["--overwrite", "src", "src/b/../docs"] =
      .run ⟨"src", "src/b/../docs", true, {}⟩ := by decide +kernel
  have bold : ∀ arguments, Arguments.parse ["--overwrite", "src", "src/b/../docs"] =
      .run arguments → arguments.overwrite = true := by
    intro arguments parsed
    cases line.symm.trans parsed
    rfl
  have done : (library.run ["--overwrite", "src", "src/b/../docs"]).outcome = .done := by
    decide +kernel
  obtain ⟨-, -, -, again, repeated⟩ := overwriting_run_idempotent library _ bold done
  exact ⟨bold, done, (again _).1, repeated⟩

end KotlinDoc.Proofs.Command
