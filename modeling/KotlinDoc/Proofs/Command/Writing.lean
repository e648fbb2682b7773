import KotlinDoc.Proofs.Command.Pages

/-!
# Writing pages

The page for a source file has a place of its own below the documentation directory. Writing it
makes the directories on the way and writes one file at that place. So writing pages is a chain of
changes with these places as targets (`writePages_evolves`). Once all pages are written each one is
settled: it stands at its place, and writing it again changes nothing (`writePages_of_settled`).
-/

namespace KotlinDoc.Proofs.Command

open Files

def route (documentation : Text) (names : List Text) : List Text :=
  Path.names documentation ++ names.dropLast

def place (cwd : Location) (documentation : Text) (names : List Text) : Location :=
  walk (FileSystem.origin cwd documentation) (Path.names documentation) ++ pageNames names

/-! ## The paths of pages -/

section

variable {fs : FileSystem} {cwd : Location} {documentation : Text} {names : List Text}

theorem isKotlin_place (cwd : Location) (documentation : Text) (names : List Text) :
    isKotlin (place cwd documentation names) = false :=
  isKotlin_append_pageNames _ _

theorem place_inj {other : List Text} (source : IsSource names) (too : IsSource other)
    (same : place cwd documentation names = place cwd documentation other) : names = other :=
  source.pageNames_inj too (List.append_cancel_left same)

theorem isPiece_pageNames (source : IsSource names) : ∀ name ∈ pageNames names, IsPiece name :=
  fun name member => (source.pages_isLocation name member).isPiece

theorem isName_lastPage (source : IsSource names) : IsName (pageName (names.getLastD [])) :=
  source.pages_isLocation _ (by simp [pageNames])

theorem isLocation_dropLast (source : IsSource names) : IsLocation names.dropLast :=
  fun name member => source.located name (List.dropLast_subset _ member)

theorem pagePath_eq (source : IsSource names) :
    pagePath documentation names =
      separated documentation ++ slashed names.dropLast ++ pageName (names.getLastD []) := by
  unfold pagePath
  rw [join_relative (isAbsolute_ofNames (isPiece_pageNames source)), pageNames, ofNames_concat,
    List.append_assoc]

theorem isFront_route (documentation : Text) (names : List Text) :
    IsFront (separated documentation ++ slashed names) :=
  isFront_append (isFront_separated _) (isFront_slashed _)

theorem names_route (source : IsSource names) :
    Path.names (separated documentation ++ slashed names.dropLast) = route documentation names := by
  rw [names_front (isFront_separated _), names_separated, names_slashed]
  · rfl
  · exact fun name member => (isLocation_dropLast source name member).isPiece

theorem isPiece_route (source : IsSource names) :
    ∀ name ∈ route documentation names, IsPiece name := by
  intro name member
  rcases List.mem_append.mp member with inDocumentation | inSource
  · exact isPiece_of_mem_names inDocumentation
  · exact (isLocation_dropLast source name inSource).isPiece

theorem origin_congr {path other : Text} (same : Path.isAbsolute path = Path.isAbsolute other) :
    FileSystem.origin cwd path = FileSystem.origin cwd other := by
  unfold FileSystem.origin
  rw [same]

theorem isAbsolute_pagePath (source : IsSource names) :
    Path.isAbsolute (pagePath documentation names) = Path.isAbsolute documentation :=
  isAbsolute_join (isAbsolute_ofNames (isPiece_pageNames source)) documentation

theorem walk_route (source : IsSource names) :
    walk (FileSystem.origin cwd documentation) (route documentation names) =
      walk (FileSystem.origin cwd documentation) (Path.names documentation) ++ names.dropLast := by
  unfold route
  rw [walk_append, walk_names (isLocation_dropLast source)]

theorem place_eq (source : IsSource names) :
    place cwd documentation names =
      walk (FileSystem.origin cwd documentation) (route documentation names) ++
        [pageName (names.getLastD [])] := by
  rw [walk_route source, List.append_assoc]
  rfl

theorem dropLast_place (source : IsSource names) :
    (place cwd documentation names).dropLast =
      walk (FileSystem.origin cwd documentation) (route documentation names) := by
  rw [place_eq source, List.dropLast_concat]

theorem locate_page (source : IsSource names) {location : Location} :
    fs.locate cwd (pagePath documentation names) = .ok location ↔
      Along fs (FileSystem.origin cwd documentation) (route documentation names) ∧
        place cwd documentation names = location := by
  have last := isName_lastPage source
  have steps : FileSystem.steps (pagePath documentation names) =
      route documentation names ++ [pageName (names.getLastD [])] := by
    rw [pagePath_eq source, steps_file (isFront_route _ _) last.isPiece, names_route source]
  unfold FileSystem.locate
  rw [steps, origin_congr (isAbsolute_pagePath source), follow_concat, next_name last,
    place_eq source]

theorem makeDirectories_page (fs : FileSystem) (source : IsSource names) :
    fs.makeDirectories cwd (Path.directory (pagePath documentation names)) =
      fs.makeAlong (FileSystem.origin cwd documentation) (route documentation names) := by
  have last := (isName_lastPage source).isPiece
  obtain ⟨directories, absolute⟩ := directory_file (isFront_route documentation names.dropLast) last
  rw [← pagePath_eq source] at directories absolute
  rw [names_route source] at directories
  unfold FileSystem.makeDirectories
  rw [directories, origin_congr (absolute.trans (isAbsolute_pagePath source))]

theorem exists?_page (source : IsSource names) :
    fs.exists? cwd (pagePath documentation names) = true ↔
      Along fs (FileSystem.origin cwd documentation) (route documentation names) ∧
        (fs.node? (place cwd documentation names)).isSome = true := by
  have nonempty : (pagePath documentation names).isEmpty = false := by
    rw [pagePath_eq source, List.isEmpty_eq_false_iff]
    exact List.append_ne_nil_of_right_ne_nil _ (isName_lastPage source).nonempty
  unfold FileSystem.exists?
  rw [nonempty]
  constructor
  · intro there
    split at there
    · rename_i location located
      obtain ⟨along, rfl⟩ := (locate_page source).mp located
      exact ⟨along, there⟩
    · cases there
  · rintro ⟨along, there⟩
    rw [(locate_page source).mpr ⟨along, rfl⟩]
    exact there

theorem isDirectory_origin (placed : fs.isDirectory cwd = true) (documentation : Text) :
    fs.isDirectory (FileSystem.origin cwd documentation) = true := by
  unfold FileSystem.origin
  split
  · rfl
  · exact placed

end

/-! ## One page -/

def written (cwd : Location) (arguments : Arguments) (file : List Text × ByteArray) : ByteArray :=
  (pageFor cwd arguments file).bytes arguments.selection

def prepared (fs : FileSystem) (cwd : Location) (arguments : Arguments)
    (file : List Text × ByteArray) : FileSystem :=
  fs.makeAlong (FileSystem.origin cwd arguments.documentation)
    (route arguments.documentation file.1)

def Reached (fs : FileSystem) (cwd : Location) (arguments : Arguments)
    (file : List Text × ByteArray) : Prop :=
  Along fs (FileSystem.origin cwd arguments.documentation) (route arguments.documentation file.1)

structure Settled (fs : FileSystem) (cwd : Location) (arguments : Arguments)
    (file : List Text × ByteArray) : Prop where
  reached : Reached fs cwd arguments file
  stored : fs.node? (place cwd arguments.documentation file.1) =
    some (.file (written cwd arguments file))

section

variable {fs new : FileSystem} {cwd : Location} {arguments : Arguments}
  {file : List Text × ByteArray} {target : Location → Prop}

theorem write_eq_ok (source : IsSource file.1) :
    (pageFor cwd arguments file).write arguments.selection cwd fs = .ok new ↔
      Reached (prepared fs cwd arguments file) cwd arguments file ∧
        (prepared fs cwd arguments file).isDirectory
          (place cwd arguments.documentation file.1) = false ∧
        (prepared fs cwd arguments file).set (place cwd arguments.documentation file.1)
          (.file (written cwd arguments file)) = new := by
  unfold Run.Page.write
  rw [show (pageFor cwd arguments file).destination = pagePath arguments.documentation file.1 from rfl,
    makeDirectories_page fs source]
  change (prepared fs cwd arguments file).write cwd _ (written cwd arguments file) = _ ↔ _
  unfold FileSystem.write
  constructor
  · intro ok
    split at ok
    · cases ok
    · rename_i location located
      obtain ⟨reached, rfl⟩ := (locate_page source).mp located
      split at ok
      · cases ok
      · rename_i free
        exact ⟨reached, by simpa using free, by simpa using ok⟩
  · rintro ⟨reached, free, rfl⟩
    rw [(locate_page source).mpr ⟨reached, rfl⟩]
    simp only [free]
    rfl

theorem prepared_evolves (tree : IsTree fs) (placed : fs.isDirectory cwd = true)
    (source : IsSource file.1) : Evolves target fs (prepared fs cwd arguments file) :=
  (makeAlong_evolves tree (isDirectory_origin placed _) (isPiece_route source)).mono
    fun _ impossible => impossible.elim

theorem isLocation_place (tree : IsTree fs) (source : IsSource file.1)
    (reached : Reached fs cwd arguments file) :
    IsLocation (place cwd arguments.documentation file.1) := by
  have directory := reached.directory List.prefix_rfl
  rw [place_eq source]
  intro name member
  rcases List.mem_append.mp member with onWay | last
  · exact tree.isLocation (isDirectory_iff.mp directory) name onWay
  · rw [List.mem_singleton.mp last]
    exact isName_lastPage source

theorem write_evolves (tree : IsTree fs) (placed : fs.isDirectory cwd = true)
    (source : IsSource file.1)
    (ok : (pageFor cwd arguments file).write arguments.selection cwd fs = .ok new)
    (aimed : target (place cwd arguments.documentation file.1)) : Evolves target fs new := by
  obtain ⟨reached, free, rfl⟩ := (write_eq_ok source).mp ok
  have evolves : Evolves target fs (prepared fs cwd arguments file) :=
    prepared_evolves tree placed source
  refine evolves.tail (.file aimed (isLocation_place (evolves.tree tree) source reached) ?_ free _)
  rw [dropLast_place source]
  exact reached.directory List.prefix_rfl

theorem write_settled (source : IsSource file.1)
    (ok : (pageFor cwd arguments file).write arguments.selection cwd fs = .ok new) :
    Settled new cwd arguments file := by
  obtain ⟨reached, free, rfl⟩ := (write_eq_ok source).mp ok
  have below := ne_nil_of_free free
  refine ⟨?_, ?_⟩
  · refine reached.mono fun location directory => ?_
    rw [isDirectory_iff, node?_set _ below, if_neg]
    · exact isDirectory_iff.mp directory
    · rintro rfl
      rw [directory] at free
      cases free
  · rw [node?_set _ below, if_pos rfl]

theorem Settled.write_eq (settled : Settled fs cwd arguments file) (tree : IsTree fs)
    (source : IsSource file.1) :
    (pageFor cwd arguments file).write arguments.selection cwd fs = .ok fs := by
  have same : prepared fs cwd arguments file = fs := makeAlong_eq_self settled.reached
  have free : fs.isDirectory (place cwd arguments.documentation file.1) = false := by
    rw [Bool.eq_false_iff, ne_eq, isDirectory_iff, settled.stored]
    nofun
  rw [write_eq_ok source, same]
  exact ⟨settled.reached, free, set_eq_self tree (ne_nil_of_free free) settled.stored⟩

theorem Settled.locate_eq (settled : Settled fs cwd arguments file) (source : IsSource file.1) :
    fs.locate cwd (pagePath arguments.documentation file.1) =
      .ok (place cwd arguments.documentation file.1) :=
  (locate_page source).mpr ⟨settled.reached, rfl⟩

theorem Settled.mono (settled : Settled fs cwd arguments file) (evolves : Evolves target fs new)
    (missed : ¬ target (place cwd arguments.documentation file.1)) :
    Settled new cwd arguments file where
  reached := settled.reached.mono fun _ => evolves.isDirectory
  stored := (evolves.file_iff missed _).mpr settled.stored

end

/-! ## All pages -/

section

variable {fs : FileSystem} {cwd : Location} {arguments : Arguments}
  {files : List (List Text × ByteArray)} {target : Location → Prop}

def writePages (fs : FileSystem) (cwd : Location) (arguments : Arguments)
    (files : List (List Text × ByteArray)) : Run :=
  Run.writeAll arguments.selection cwd fs (files.map (pageFor cwd arguments))

theorem writePages_cons_ok {file : List Text × ByteArray} {new : FileSystem}
    (ok : (pageFor cwd arguments file).write arguments.selection cwd fs = .ok new) :
    writePages fs cwd arguments (file :: files) =
      { writePages new cwd arguments files with
        printed := (pageFor cwd arguments file).notice ::
          (writePages new cwd arguments files).printed } := by
  unfold writePages
  rw [List.map_cons, Run.writeAll, ok]

theorem writePages_cons_error {file : List Text × ByteArray} {error : FileError}
    (source : IsSource file.1)
    (failed : (pageFor cwd arguments file).write arguments.selection cwd fs = .error error) :
    writePages fs cwd arguments (file :: files) =
      ⟨prepared fs cwd arguments file, [(pageFor cwd arguments file).notice], .failed error⟩ := by
  unfold writePages
  rw [List.map_cons, Run.writeAll, failed]
  exact congrArg (Run.mk · _ _) (makeDirectories_page fs source)

theorem writePages_evolves (tree : IsTree fs) (placed : fs.isDirectory cwd = true)
    (source : ∀ file ∈ files, IsSource file.1)
    (aimed : ∀ file ∈ files, ∀ mid new, Evolves target fs mid →
      (pageFor cwd arguments file).write arguments.selection cwd mid = .ok new →
      target (place cwd arguments.documentation file.1)) :
    Evolves target fs (writePages fs cwd arguments files).files := by
  induction files generalizing fs with
  | nil => exact .refl
  | cons file files ih =>
      have own := source file List.mem_cons_self
      cases ok : (pageFor cwd arguments file).write arguments.selection cwd fs with
      | error error =>
          rw [writePages_cons_error own ok]
          exact prepared_evolves tree placed own
      | ok new =>
          have first : Evolves target fs new := write_evolves tree placed own ok
            (aimed file List.mem_cons_self fs new .refl ok)
          rw [writePages_cons_ok ok]
          refine first.trans (ih (first.tree tree) (first.isDirectory placed) ?_ ?_)
          · exact fun other member => source other (List.mem_cons_of_mem _ member)
          · exact fun other member mid last evolves =>
              aimed other (List.mem_cons_of_mem _ member) mid last (first.trans evolves)

theorem writePages_settled (tree : IsTree fs) (placed : fs.isDirectory cwd = true)
    (source : ∀ file ∈ files, IsSource file.1) (distinct : (files.map Prod.fst).Nodup)
    (done : (writePages fs cwd arguments files).outcome = .done) :
    ∀ file ∈ files, Settled (writePages fs cwd arguments files).files cwd arguments file := by
  induction files generalizing fs with
  | nil => exact fun file member => absurd member List.not_mem_nil
  | cons file files ih =>
      rw [List.map_cons, List.nodup_cons] at distinct
      have own := source file List.mem_cons_self
      have others : ∀ other ∈ files, IsSource other.1 :=
        fun other member => source other (List.mem_cons_of_mem _ member)
      cases ok : (pageFor cwd arguments file).write arguments.selection cwd fs with
      | error error =>
          rw [writePages_cons_error own ok] at done
          cases done
      | ok new =>
          have first : Evolves (fun _ => True) fs new := write_evolves tree placed own ok trivial
          have tree' := first.tree tree
          have placed' := first.isDirectory placed
          rw [writePages_cons_ok ok] at done ⊢
          intro written member
          rcases List.mem_cons.mp member with rfl | later
          · -- The later pages have other places.
            have rest : Evolves (fun location => location ≠ place cwd arguments.documentation written.1)
                new (writePages new cwd arguments files).files := by
              refine writePages_evolves tree' placed' others ?_
              intro other there _ _ _ _ same
              exact distinct.1 (List.mem_map.mpr
                ⟨other, there, place_inj (others other there) own same⟩)
            exact (write_settled own ok).mono rest fun moved => moved rfl
          · exact ih tree' placed' others distinct.2 done written later

theorem writePages_of_settled (tree : IsTree fs) (source : ∀ file ∈ files, IsSource file.1)
    (settled : ∀ file ∈ files, Settled fs cwd arguments file) :
    writePages fs cwd arguments files =
      ⟨fs, files.map fun file => (pageFor cwd arguments file).notice, .done⟩ := by
  induction files with
  | nil => rfl
  | cons file files ih =>
      have own := (settled file List.mem_cons_self).write_eq tree (source file List.mem_cons_self)
      rw [writePages_cons_ok own, ih (fun other member => source other (List.mem_cons_of_mem _ member))
        fun other member => settled other (List.mem_cons_of_mem _ member)]
      rfl

theorem writePages_printed (source : ∀ file ∈ files, IsSource file.1)
    (done : (writePages fs cwd arguments files).outcome = .done) :
    (writePages fs cwd arguments files).printed =
      files.map fun file => (pageFor cwd arguments file).notice := by
  induction files generalizing fs with
  | nil => rfl
  | cons file files ih =>
      cases ok : (pageFor cwd arguments file).write arguments.selection cwd fs with
      | error error =>
          rw [writePages_cons_error (source file List.mem_cons_self) ok] at done
          cases done
      | ok new =>
          rw [writePages_cons_ok ok] at done ⊢
          rw [List.map_cons, ih (fun other member => source other (List.mem_cons_of_mem _ member)) done]

end

end KotlinDoc.Proofs.Command
