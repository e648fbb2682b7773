import KotlinDoc.Command.Run
import KotlinDoc.Proofs.Files.Listing
import KotlinDoc.Proofs.Index.FileSymbols

namespace KotlinDoc.Proofs.Command

open Files

def indexed (file : SourceFile) : List Symbol :=
  match file.symbols with
  | .ok symbols => symbols
  | .error _ => []

def Readable (file : SourceFile) : Prop :=
  (Lines.ofBytes? file.bytes).isSome = true

instance (file : SourceFile) : Decidable (Readable file) :=
  inferInstanceAs (Decidable (_ = true))

theorem readable_iff {file : SourceFile} :
    Readable file ↔ ∃ symbols, file.symbols = .ok symbols := by
  unfold Readable SourceFile.symbols
  cases Lines.ofBytes? file.bytes <;> simp

theorem indexAll_eq_ok {files : List SourceFile} {symbols : List Symbol} :
    (SourceFile.indexAll files).2 = .ok symbols ↔
      (∀ file ∈ files, Readable file) ∧ files.flatMap indexed = symbols := by
  induction files generalizing symbols with
  | nil => simp [SourceFile.indexAll]
  | cons file files ih =>
      have here : indexed file = match file.symbols with
        | .ok symbols => symbols
        | .error _ => [] := rfl
      rw [SourceFile.indexAll, List.flatMap_cons, List.forall_mem_cons, readable_iff, here]
      cases own : file.symbols with
      | error error => simp
      | ok first =>
          cases rest : (SourceFile.indexAll files).2 with
          | error error =>
              have unreadable : ¬ ∀ file ∈ files, Readable file := by
                intro readable
                have ok := ih.mpr ⟨readable, rfl⟩
                rw [rest] at ok
                cases ok
              simp [rest, Except.map, unreadable]
          | ok later =>
              obtain ⟨readable, same⟩ := ih.mp rest
              simpa [rest, Except.map, same] using fun _ => readable

theorem mem_index_of_mem_indexed {file : SourceFile} {symbol : Symbol}
    (member : symbol ∈ indexed file) : ∃ lines, symbol ∈ Symbol.index file.path lines := by
  unfold indexed SourceFile.symbols at member
  cases read : Lines.ofBytes? file.bytes with
  | none => simp [read] at member
  | some lines =>
      rw [read] at member
      exact ⟨lines, member⟩

theorem file_of_mem_indexed {file : SourceFile} {symbol : Symbol} (member : symbol ∈ indexed file) :
    symbol.declaration.file = file.path := by
  obtain ⟨lines, found⟩ := mem_index_of_mem_indexed member
  exact file_of_mem_index found

section

variable {α : Type} {key : α → Text}

def keys (key : α → Text) (seen : List Text) (things : List α) : List Text :=
  things.foldl (fun files thing =>
    if files.contains (key thing) then files else files ++ [key thing]) seen

theorem groupBy_eq (key : α → Text) (things : List α) :
    Symbol.groupBy key things =
      (keys key [] things).map fun name => (name, things.filter fun thing => key thing == name) :=
  rfl

theorem keys_cons (seen : List Text) (thing : α) (things : List α) :
    keys key seen (thing :: things) =
      keys key (if key thing ∈ seen then seen else seen ++ [key thing]) things := by
  simp [keys]

theorem keys_append (seen : List Text) (things more : List α) :
    keys key seen (things ++ more) = keys key (keys key seen things) more :=
  List.foldl_append

theorem mem_keys {seen : List Text} {things : List α} {name : Text}
    (member : name ∈ keys key seen things) : name ∈ seen ∨ ∃ thing ∈ things, key thing = name := by
  induction things generalizing seen with
  | nil => exact Or.inl member
  | cons thing things ih =>
      rw [keys_cons] at member
      rcases ih member with old | ⟨other, later, same⟩
      · split at old
        · exact Or.inl old
        · rcases List.mem_append.mp old with before | now
          · exact Or.inl before
          · exact Or.inr ⟨thing, List.mem_cons_self, (List.mem_singleton.mp now).symm⟩
      · exact Or.inr ⟨other, List.mem_cons_of_mem _ later, same⟩

theorem keys_fresh (before seen : List Text) {things : List α}
    (fresh : ∀ thing ∈ things, key thing ∉ before) :
    keys key (before ++ seen) things = before ++ keys key seen things := by
  induction things generalizing seen with
  | nil => rfl
  | cons thing things ih =>
      have rest := fun other member => fresh other (List.mem_cons_of_mem thing member)
      have own := fresh thing List.mem_cons_self
      rw [keys_cons, keys_cons]
      by_cases known : key thing ∈ seen
      · rw [if_pos (List.mem_append_right _ known), if_pos known, ih _ rest]
      · have new : key thing ∉ before ++ seen := by simp [own, known]
        rw [if_neg new, if_neg known, List.append_assoc, ih _ rest]

theorem groupBy_append {things more : List α}
    (disjoint : ∀ thing ∈ things, ∀ other ∈ more, key thing ≠ key other) :
    Symbol.groupBy key (things ++ more) = Symbol.groupBy key things ++ Symbol.groupBy key more := by
  have second : keys key (keys key [] things) more = keys key [] things ++ keys key [] more := by
    have fresh : ∀ other ∈ more, key other ∉ keys key [] things := by
      intro other member known
      obtain ⟨thing, there, same⟩ := (mem_keys known).resolve_left List.not_mem_nil
      exact disjoint thing there other member same
    simpa using keys_fresh (keys key [] things) [] fresh
  rw [groupBy_eq, groupBy_eq, groupBy_eq, keys_append, second, List.map_append]
  congr 1
  · apply List.map_congr_left
    intro name member
    obtain ⟨thing, there, rfl⟩ := (mem_keys member).resolve_left List.not_mem_nil
    have none : more.filter (fun other => key other == key thing) = [] := by
      rw [List.filter_eq_nil_iff]
      intro other here
      simpa using Ne.symm (disjoint thing there other here)
    rw [List.filter_append, none, List.append_nil]
  · apply List.map_congr_left
    intro name member
    obtain ⟨other, here, rfl⟩ := (mem_keys member).resolve_left List.not_mem_nil
    have none : things.filter (fun thing => key thing == key other) = [] := by
      rw [List.filter_eq_nil_iff]
      intro thing there
      simpa using disjoint thing there other here
    rw [List.filter_append, none, List.nil_append]

theorem keys_known {name : Text} {things : List α} (same : ∀ thing ∈ things, key thing = name) :
    keys key [name] things = [name] := by
  induction things with
  | nil => rfl
  | cons thing things ih =>
      rw [keys_cons, same thing List.mem_cons_self, if_pos List.mem_cons_self]
      exact ih fun other member => same other (List.mem_cons_of_mem _ member)

theorem groupBy_same {name : Text} {things : List α} (same : ∀ thing ∈ things, key thing = name) :
    Symbol.groupBy key things = if things = [] then [] else [(name, things)] := by
  cases things with
  | nil => rfl
  | cons thing things =>
      have rest : ∀ other ∈ things, key other = name :=
        fun other member => same other (List.mem_cons_of_mem _ member)
      have all : (thing :: things).filter (fun other => key other == name) = thing :: things := by
        rw [List.filter_eq_self]
        intro other member
        simpa using same other member
      rw [groupBy_eq, keys_cons, same thing List.mem_cons_self, if_neg List.not_mem_nil,
        List.nil_append, keys_known rest, if_neg (List.cons_ne_nil _ _), List.map_singleton, all]

theorem groupBy_flatMap {β : Type} {path : β → Text} {things : β → List α} {files : List β}
    (distinct : (files.map path).Nodup)
    (own : ∀ file ∈ files, ∀ thing ∈ things file, key thing = path file) :
    Symbol.groupBy key (files.flatMap things) =
      (files.filter fun file => !(things file).isEmpty).map fun file => (path file, things file) := by
  induction files with
  | nil => rfl
  | cons file files ih =>
      rw [List.map_cons, List.nodup_cons] at distinct
      have mine := own file List.mem_cons_self
      have others := fun other member => own other (List.mem_cons_of_mem file member)
      rw [List.flatMap_cons, groupBy_append, groupBy_same mine, ih distinct.2 others,
        List.filter_cons]
      · by_cases empty : things file = []
        · simp [empty]
        · simp [empty]
      · intro thing there other later same
        obtain ⟨last, member, here⟩ := List.mem_flatMap.mp later
        apply distinct.1
        rw [mine thing there, others last member other here] at same
        exact List.mem_map.mpr ⟨last, member, same.symm⟩

end

def cwdPath (cwd : Location) : Text :=
  "/" ++ Path.ofNames cwd

theorem isAbsolute_cwdPath (cwd : Location) : Path.isAbsolute (cwdPath cwd) = true :=
  rfl

def root (cwd : Location) (source : Text) : Text :=
  Path.absolute (cwdPath cwd) source

def sources (order : WalkOrder) (fs : FileSystem) (cwd : Location) (source : Text) :
    List (List Text × ByteArray) :=
  fs.kotlinFiles order (Path.names (root cwd source))

def sourceFile (cwd : Location) (source : Text) (file : List Text × ByteArray) : SourceFile :=
  ⟨below (root cwd source) file.1, file.2⟩

def symbolsOf (cwd : Location) (source : Text) (file : List Text × ByteArray) : List Symbol :=
  indexed (sourceFile cwd source file)

def pageFor (cwd : Location) (arguments : Arguments) (file : List Text × ByteArray) : Run.Page where
  file := below (root cwd arguments.source) file.1
  relative := Path.ofNames file.1
  destination := pagePath arguments.documentation file.1
  symbols := symbolsOf cwd arguments.source file

def planned (order : WalkOrder) (fs : FileSystem) (cwd : Location) (source : Text) :
    List (List Text × ByteArray) :=
  (sources order fs cwd source).filter fun file => !(symbolsOf cwd source file).isEmpty

section

variable {order : WalkOrder} {fs : FileSystem} {cwd : Location} {source : Text}

theorem sourceFiles_eq (order : WalkOrder) (fs : FileSystem) (cwd : Location) (source : Text) :
    Run.sourceFiles order fs (root cwd source) =
      (sources order fs cwd source).map (sourceFile cwd source) :=
  rfl

theorem mem_sources_of_order (tree : IsTree fs) {other : WalkOrder}
    {file : List Text × ByteArray} (member : file ∈ sources order fs cwd source) :
    file ∈ sources other fs cwd source :=
  (mem_kotlinFiles tree).mpr ((mem_kotlinFiles tree).mp member)

theorem isSource_of_mem_sources (tree : IsTree fs) {file : List Text × ByteArray}
    (member : file ∈ sources order fs cwd source) : IsSource file.1 := by
  obtain ⟨there, kotlin⟩ := (mem_kotlinFiles tree).mp member
  exact ⟨fun name inside => tree.isLocation there name (List.mem_append_right _ inside), kotlin⟩

theorem nodup_paths (tree : IsTree fs) :
    ((sources order fs cwd source).map fun file => (sourceFile cwd source file).path).Nodup := by
  have distinct := nodup_kotlinFiles tree order (Path.names (root cwd source))
  rw [show (sources order fs cwd source).map (fun file => (sourceFile cwd source file).path) =
    ((sources order fs cwd source).map Prod.fst).map (below (root cwd source)) by simp [sourceFile]]
  refine List.Nodup.map_on ?_ distinct
  intro names member names' member' same
  obtain ⟨file, there, rfl⟩ := List.mem_map.mp member
  obtain ⟨file', there', rfl⟩ := List.mem_map.mp member'
  have all := congrArg Path.names same
  rw [(names_below (isSource_of_mem_sources tree there).located _).1,
    (names_below (isSource_of_mem_sources tree there').located _).1] at all
  exact List.append_cancel_left all

theorem pages_eq (tree : IsTree fs) (order : WalkOrder) (cwd : Location) (arguments : Arguments) :
    Run.pages (cwdPath cwd) arguments
        ((Run.sourceFiles order fs (root cwd arguments.source)).flatMap indexed) =
      (planned order fs cwd arguments.source).map (pageFor cwd arguments) := by
  have groups : Symbol.groupBy (·.declaration.file)
      ((Run.sourceFiles order fs (root cwd arguments.source)).flatMap indexed) =
        (planned order fs cwd arguments.source).map fun file =>
          ((sourceFile cwd arguments.source file).path, symbolsOf cwd arguments.source file) := by
    rw [sourceFiles_eq, List.flatMap_map]
    exact groupBy_flatMap (nodup_paths tree) fun file _ symbol => file_of_mem_indexed
  unfold Run.pages
  rw [groups, List.map_map]
  apply List.map_congr_left
  intro file member
  have isSource := isSource_of_mem_sources tree (List.mem_filter.mp member).1
  have fromRoot := isAbsolute_cwdPath cwd
  have relative := relative?_below fromRoot arguments.source isSource.located
    (ne_nil_of_isKotlin isSource.kotlin)
  have destination := destination?_below fromRoot arguments.source arguments.documentation isSource
  show Run.Page.mk _ ((Path.relative? (cwdPath cwd) (below (Path.absolute (cwdPath cwd)
    arguments.source) file.1) arguments.source).getD []) ((Path.destination? (cwdPath cwd) (below
    (Path.absolute (cwdPath cwd) arguments.source) file.1) arguments.source
    arguments.documentation).getD []) _ = _
  rw [relative, destination]
  rfl

end

end KotlinDoc.Proofs.Command
