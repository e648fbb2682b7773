import KotlinDoc.Proofs.Command.Workspace

namespace KotlinDoc.Proofs.Command

open Files

def announcement (relative : Text) : Text :=
  "Writing documentation for '" ++ relative ++ "'..."

/-- The text of the page for a source file with the given path below the source directory, if it has
symbols: a heading, a rule as long as the heading, two empty lines, and the lines of the symbols. -/
def pageText? (selection : Selection) (relative : Text) (symbols : List Symbol) : Option Text :=
  let heading : Text := "Documentation for " ++ relative
  let rule : Text := List.replicate heading.length '='
  let body : Text := (Document.lines selection [] (symbols.map Symbol.entry)).flatMap (· ++ "\n")
  if symbols.isEmpty then none else some (heading ++ "\n" ++ rule ++ "\n\n\n" ++ body)

/-- The request has a source path and a selection. Without a documentation path the selection does
not matter. -/
def Asks (selection : Selection) (source : Text) : Request → Prop
  | .run arguments => arguments.source = source ∧ arguments.selection = selection
  | .unplaced path => path = source
  | .help | .refused => False

/-- What a run writes for a source file: a text, announced and found at the destination afterwards,
or nothing. -/
def Workspace.Writes (workspace : Workspace) (line : List Text) (file : SourceFile)
    (relative : Text) : Option Text → Prop
  | some text => announcement relative ∈ (workspace.run line).printed ∧
      ∃ arguments destination location, Arguments.parse line = .run arguments ∧
        workspace.destination? arguments file = some destination ∧
        (workspace.run line).files.locate workspace.cwd destination = .ok location ∧
        (workspace.run line).files.node? location = some (.file (String.ofList text).toUTF8)
  | none => announcement relative ∉ (workspace.run line).printed ∧
      ∀ arguments destination location, Arguments.parse line = .run arguments →
        workspace.destination? arguments file = some destination →
        (workspace.run line).files.locate workspace.cwd destination = .ok location →
        ¬ FileChanged workspace.files (workspace.run line).files location

theorem mem_notices {files : List SourceFile} {text : Text}
    (member : text ∈ (SourceFile.indexAll files).1) : ∃ file : SourceFile, text = file.notice := by
  induction files with
  | nil => cases member
  | cons file files ih =>
      rw [SourceFile.indexAll] at member
      cases read : file.symbols with
      | error error =>
          simp only [read, List.mem_singleton] at member
          exact ⟨file, member⟩
      | ok symbols =>
          simp only [read, List.mem_cons] at member
          rcases member with first | later
          · exact ⟨file, first⟩
          · exact ih later

theorem announcement_ne_notice (relative : Text) (file : SourceFile) :
    announcement relative ≠ file.notice := by
  intro same
  have first : some 'W' = some 'I' := congrArg List.head? same
  simp at first

theorem announcement_inj {relative other : Text} (same : announcement relative = announcement other) :
    relative = other := by
  unfold announcement at same
  exact List.append_cancel_left (List.append_cancel_right same)

theorem ofNames_inj {names other : List Text} (named : IsLocation names) (too : IsLocation other)
    (same : Path.ofNames names = Path.ofNames other) : names = other := by
  have all := congrArg Path.names same
  rwa [names_ofNames fun name member => (named name member).isPiece,
    names_ofNames fun name member => (too name member).isPiece] at all

section

variable {workspace : Workspace} {arguments : Arguments} {file : List Text × ByteArray}

theorem announcement_mem_writing (done : (workspace.writing arguments).outcome = .done)
    (named : IsLocation file.1) :
    announcement (Path.ofNames file.1) ∈ (workspace.writing arguments).printed ↔
      ∃ other ∈ workspace.plan arguments.source, other.1 = file.1 := by
  rw [writing_eq done]
  constructor
  · intro member
    obtain ⟨other, planned, same⟩ := List.mem_map.mp member
    exact ⟨other, planned, ofNames_inj (isSource_of_mem_plan planned).located named
      (announcement_inj same)⟩
  · rintro ⟨other, planned, same⟩
    refine List.mem_map.mpr ⟨other, planned, ?_⟩
    rw [← same]
    rfl

theorem announcement_mem_printed {notices : List Text} {symbols : List Symbol}
    (read : workspace.indexing arguments.source = (notices, .ok symbols))
    (done : (workspace.writing arguments).outcome = .done) (named : IsLocation file.1) :
    announcement (Path.ofNames file.1) ∈ notices ++ (workspace.writing arguments).printed ↔
      ∃ other ∈ workspace.plan arguments.source, other.1 = file.1 := by
  rw [List.mem_append, announcement_mem_writing done named, or_iff_right]
  intro member
  rw [show notices = (workspace.indexing arguments.source).1 by rw [read]] at member
  obtain ⟨other, same⟩ := mem_notices member
  exact announcement_ne_notice _ other same

theorem eq_of_mem_sources {source : Text} {other : List Text × ByteArray}
    (member : file ∈ sources workspace.order workspace.files workspace.cwd source)
    (too : other ∈ sources workspace.order workspace.files workspace.cwd source)
    (same : other.1 = file.1) :
    other = file :=
  List.inj_on_of_nodup_map (nodup_kotlinFiles workspace.tree _ _) too member same

theorem pageText?_of_hasSymbols {cwd : Location}
    (nonempty : symbolsOf cwd arguments.source file ≠ []) :
    ∃ text, pageText? arguments.selection (Path.ofNames file.1)
        (symbolsOf cwd arguments.source file) = some text ∧
      written cwd arguments file = (String.ofList text).toUTF8 := by
  unfold pageText?
  dsimp only
  rw [if_neg (by simpa using nonempty)]
  refine ⟨_, rfl, ?_⟩
  unfold written Run.Page.bytes Run.Page.text Document.text Document.heading
  simp only [List.flatMap_cons, List.flatMap_nil, List.append_assoc]
  rfl

theorem writes_of_run {line : List Text} (parsed : Arguments.parse line = .run arguments)
    (done : (workspace.run line).outcome = .done)
    (member : file ∈ sources workspace.order workspace.files workspace.cwd arguments.source) :
    workspace.Writes line (sourceFile workspace.cwd arguments.source file) (Path.ofNames file.1)
      (pageText? arguments.selection (Path.ofNames file.1)
        (symbolsOf workspace.cwd arguments.source file)) := by
  have source := isSource_of_mem_sources workspace.tree member
  obtain ⟨notices, symbols, read, finished, result⟩ := (run_course parsed).of_done done
  have announced := announcement_mem_printed read finished source.located
  by_cases empty : symbolsOf workspace.cwd arguments.source file = []
  · -- No page is planned for the file, and no other page has its place.
    have alone : ¬ ∃ other ∈ workspace.plan arguments.source, other.1 = file.1 := by
      rintro ⟨other, planned, same⟩
      obtain ⟨listed, symbols⟩ := mem_plan.mp planned
      rw [eq_of_mem_sources member listed same] at symbols
      exact symbolsOf_ne_nil.mpr symbols empty
    have unwritten : pageText? arguments.selection (Path.ofNames file.1)
        (symbolsOf workspace.cwd arguments.source file) = none := by
      rw [empty]
      rfl
    rw [unwritten]
    unfold Workspace.Writes
    rw [result]
    refine ⟨fun printed => alone (announced.mp printed), ?_⟩
    intro other destination location same here located changed
    cases parsed.symm.trans same
    rw [destination?_sourceFile source] at here
    cases here
    obtain ⟨-, rfl⟩ := (locate_page source).mp located
    obtain ⟨other, planned, samePlace⟩ :=
      target_of_fileChanged (writing_evolves workspace arguments) changed
    exact alone ⟨other, planned, place_inj (isSource_of_mem_plan planned) source samePlace⟩
  · have planned : file ∈ workspace.plan arguments.source :=
      mem_plan.mpr ⟨member, symbolsOf_ne_nil.mp empty⟩
    have settled := writing_settled finished planned
    obtain ⟨text, page, bytes⟩ := pageText?_of_hasSymbols empty
    rw [page]
    unfold Workspace.Writes
    rw [result]
    refine ⟨announced.mpr ⟨file, planned, rfl⟩, arguments, _, _, parsed,
      destination?_sourceFile source arguments, settled.locate_eq source, ?_⟩
    rw [← bytes]
    exact settled.stored

theorem writes_of_unplaced {line : List Text} {source : Text}
    (parsed : Arguments.parse line = .unplaced source)
    (done : (workspace.run line).outcome = .done)
    (member : file ∈ sources workspace.order workspace.files workspace.cwd source)
    (selection : Selection) :
    workspace.Writes line (sourceFile workspace.cwd source file) (Path.ofNames file.1)
      (pageText? selection (Path.ofNames file.1) (symbolsOf workspace.cwd source file)) := by
  have noRun : ∀ arguments, Arguments.parse line ≠ .run arguments := by
    intro arguments same
    cases parsed.symm.trans same
  have silent : (sourceFile workspace.cwd source file).symbols = .ok [] :=
    (done_iff_of_unplaced parsed).mp done _ (List.mem_map.mpr ⟨file, member, rfl⟩)
  have empty : symbolsOf workspace.cwd source file = [] := by
    unfold symbolsOf indexed
    rw [silent]
  rw [empty]
  refine ⟨?_, fun arguments _ _ same => absurd same (noRun arguments)⟩
  rw [run_of_unplaced parsed]
  intro printed
  obtain ⟨other, same⟩ := mem_notices printed
  exact announcement_ne_notice _ other same

end

theorem sourceOf?_of_asks {selection : Selection} {source : Text} {request : Request}
    (asks : Asks selection source request) : sourceOf? request = some source := by
  cases request with
  | run arguments => exact congrArg some asks.1
  | unplaced path => exact congrArg some asks
  | help => exact asks.elim
  | refused => exact asks.elim

/-- What a run that ends well writes for a source file is a function of the path of the file below
the source directory, its symbols and the selection. -/
theorem writes_page {workspace : Workspace} {line : List Text} {selection : Selection}
    {source : Text} {file : SourceFile} {relative : Text}
    (asks : Asks selection source (Arguments.parse line))
    (done : (workspace.run line).outcome = .done) (member : file ∈ workspace.sourceFiles source)
    (below : Path.relative? (cwdPath workspace.cwd) file.path source = some relative) :
    ∃ symbols, file.symbols = .ok symbols ∧
      workspace.Writes line file relative (pageText? selection relative symbols) := by
  obtain ⟨all, read⟩ := indexing_ok_of_done (sourceOf?_of_asks asks) done
  obtain ⟨symbols, own⟩ := readable_iff.mp ((indexAll_eq_ok.mp read).1 file member)
  refine ⟨symbols, own, ?_⟩
  unfold Workspace.sourceFiles at member
  rw [sourceFiles_eq] at member
  obtain ⟨listed, inside, rfl⟩ := List.mem_map.mp member
  have isSource := isSource_of_mem_sources workspace.tree inside
  have path : Path.relative? (cwdPath workspace.cwd)
      (sourceFile workspace.cwd source listed).path source = some (Path.ofNames listed.1) :=
    relative?_below (isAbsolute_cwdPath _) source isSource.located (ne_nil_of_isKotlin isSource.kotlin)
  have same : symbols = symbolsOf workspace.cwd source listed := by
    unfold symbolsOf indexed
    rw [own]
  cases path.symm.trans below
  rw [same]
  cases parsed : Arguments.parse line with
  | run arguments =>
      rw [parsed] at asks
      obtain ⟨rfl, rfl⟩ := asks
      exact writes_of_run parsed done inside
  | unplaced path =>
      rw [parsed] at asks
      obtain rfl : path = source := asks
      exact writes_of_unplaced parsed done inside selection
  | help =>
      rw [parsed] at asks
      exact asks.elim
  | refused =>
      rw [parsed] at asks
      exact asks.elim

theorem pageText?_congr {symbols others : List Symbol}
    (same : symbols.map Symbol.entry = others.map Symbol.entry) (selection : Selection)
    (relative : Text) : pageText? selection relative symbols = pageText? selection relative others := by
  have empty : symbols.isEmpty = others.isEmpty := by
    have entries := congrArg List.isEmpty same
    rwa [List.isEmpty_map, List.isEmpty_map] at entries
  unfold pageText?
  rw [empty, same]

/-- Two runs that end well write the same text for a source file with the same path below the source
directory and the same bytes, or both write none, whatever other files there are. -/
theorem page_depends_on_own_file (first second : Workspace) {line line' : List Text}
    {source source' : Text} {selection : Selection} {file file' : SourceFile} {relative : Text}
    (asks : Asks selection source (Arguments.parse line))
    (asks' : Asks selection source' (Arguments.parse line'))
    (done : (first.run line).outcome = .done) (done' : (second.run line').outcome = .done)
    (member : file ∈ first.sourceFiles source) (member' : file' ∈ second.sourceFiles source')
    (below : Path.relative? (cwdPath first.cwd) file.path source = some relative)
    (below' : Path.relative? (cwdPath second.cwd) file'.path source' = some relative)
    (same : file.bytes = file'.bytes) :
    ∃ symbols, file.symbols = .ok symbols ∧
      first.Writes line file relative (pageText? selection relative symbols) ∧
      second.Writes line' file' relative (pageText? selection relative symbols) := by
  obtain ⟨symbols, own, writes⟩ := writes_page asks done member below
  obtain ⟨symbols', own', writes'⟩ := writes_page asks' done' member' below'
  have entries : symbols.map Symbol.entry = symbols'.map Symbol.entry := by
    unfold SourceFile.symbols at own own'
    rw [← same] at own'
    cases read : Lines.ofBytes? file.bytes with
    | none =>
        rw [read] at own
        cases own
    | some lines =>
        rw [read] at own own'
        cases own
        cases own'
        exact entries_index _ _ _
  rw [← pageText?_congr entries] at writes'
  exact ⟨symbols, own, writes, writes'⟩

def shelf : Workspace where
  files := ⟨[
    (["lib"], .directory),
    (["lib", "0.kt"], .file "/** No end.\nclass Lost \x7b\n".toUTF8),
    (["lib", "b"], .directory),
    (["lib", "b", "B.kt"], .file "class B \x7b\x7b\n    fun f(".toUTF8)]⟩
  order := ⟨List.reverse, List.reverse_perm⟩
  cwd := []
  tree := by decide +kernel
  placed := by decide +kernel

theorem page_depends_on_own_file_moved :
    ∃ symbols,
      SourceFile.symbols ⟨"/w/src/b/B.kt", "class B \x7b\x7b\n    fun f(".toUTF8⟩ = .ok symbols ∧
      library.Writes ["--overwrite", "src", "out"]
        ⟨"/w/src/b/B.kt", "class B \x7b\x7b\n    fun f(".toUTF8⟩ "b/B.kt"
        (pageText? {} "b/B.kt" symbols) ∧
      shelf.Writes ["lib", "new/docs"] ⟨"/lib/b/B.kt", "class B \x7b\x7b\n    fun f(".toUTF8⟩ "b/B.kt"
        (pageText? {} "b/B.kt" symbols) := by
  have asks : Asks {} "src" (Arguments.parse ["--overwrite", "src", "out"]) := by
    rw [show Arguments.parse ["--overwrite", "src", "out"] = .run ⟨"src", "out", true, {}⟩ by
      decide +kernel]
    exact ⟨rfl, rfl⟩
  have asks' : Asks {} "lib" (Arguments.parse ["lib", "new/docs"]) := by
    rw [show Arguments.parse ["lib", "new/docs"] = .run ⟨"lib", "new/docs", false, {}⟩ by
      decide +kernel]
    exact ⟨rfl, rfl⟩
  let listed : List Text × ByteArray := (["b", "B.kt"], "class B \x7b\x7b\n    fun f(".toUTF8)
  have member : listed ∈ sources library.order library.files library.cwd "src" :=
    (mem_kotlinFiles library.tree).mpr ⟨rfl, rfl⟩
  have member' : listed ∈ sources shelf.order shelf.files shelf.cwd "lib" :=
    (mem_kotlinFiles shelf.tree).mpr ⟨rfl, rfl⟩
  exact page_depends_on_own_file library shelf asks asks' (by decide +kernel) (by decide +kernel)
    (List.mem_map.mpr ⟨listed, member, rfl⟩) (List.mem_map.mpr ⟨listed, member', rfl⟩)
    (by decide +kernel) (by decide +kernel) rfl

end KotlinDoc.Proofs.Command
