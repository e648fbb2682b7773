import KotlinDoc.Files.Path
import KotlinDoc.Proofs.Files.Walk
import KotlinDoc.Proofs.Text.Cutting

/-!
# The names of paths

All that matters of a path are its names and whether it starts at the root. A path seen from a
directory has the names of both (`names_join`), and a normal path from the root has names that a
directory can list. Hence a file below a source directory has the names below it as its relative
path (`relative?_below`), and its page has the same names, but for the last one, below the
documentation directory (`destination?_below`).
-/

namespace KotlinDoc.Proofs.Files

/-! ## Names -/

theorem pieces_eq_splitOn (separator : Char) (s : Text) :
    Text.pieces separator s = s.splitOn separator := by
  unfold Text.pieces
  rw [piecesAt_eq_splitOnP, List.splitOn_eq_splitOnP]

theorem names_append_slash (before after : Text) :
    Path.names (before ++ '/' :: after) = Path.names before ++ Path.names after := by
  unfold Path.names
  simp only [pieces_eq_splitOn]
  rw [List.splitOn_append_cons_self, List.filter_append]

theorem names_nil : Path.names [] = [] :=
  rfl

theorem names_slash (s : Text) : Path.names ('/' :: s) = Path.names s :=
  names_append_slash [] s

theorem names_concat_slash (s : Text) : Path.names (s ++ ['/']) = Path.names s := by
  rw [names_append_slash, names_nil, List.append_nil]

theorem isPiece_of_mem_names {path name : Text} (member : name ∈ Path.names path) :
    IsPiece name := by
  obtain ⟨piece, nonempty⟩ := List.mem_filter.mp member
  refine ⟨by simpa using nonempty, fun slash => ?_⟩
  have plain := (mem_of_mem_piecesAt piece slash).2
  cases plain

theorem names_piece {name : Text} (piece : IsPiece name) : Path.names name = [name] := by
  unfold Path.names
  rw [pieces_eq_splitOn, List.splitOn_eq_singleton piece.slashless]
  simp [piece.nonempty]

theorem names_ofNames {names : List Text} (pieces : ∀ name ∈ names, IsPiece name) :
    Path.names (Path.ofNames names) = names := by
  by_cases none : names = []
  · subst none
    rfl
  · unfold Path.names
    rw [pieces_eq_splitOn]
    show (List.splitOn '/' (['/'].intercalate names)).filter _ = names
    rw [List.splitOn_intercalate '/' (fun name member => (pieces name member).slashless) none]
    apply List.filter_eq_self.mpr
    intro name member
    simp [(pieces name member).nonempty]

/-! ## Paths of files -/

def IsFront (front : Text) : Prop :=
  front = [] ∨ ∃ before, front = before ++ ['/']

def slashed (names : List Text) : Text :=
  names.flatMap (· ++ ['/'])

theorem isFront_append {front more : Text} (first : IsFront front) (second : IsFront more) :
    IsFront (front ++ more) := by
  rcases second with rfl | ⟨before, rfl⟩
  · rwa [List.append_nil]
  · exact Or.inr ⟨front ++ before, by rw [List.append_assoc]⟩

theorem isFront_slashed (names : List Text) : IsFront (slashed names) := by
  rcases List.eq_nil_or_concat' names with rfl | ⟨names, last, rfl⟩
  · exact Or.inl rfl
  · exact Or.inr ⟨slashed names ++ last, by simp [slashed]⟩

theorem ofNames_concat (names : List Text) (last : Text) :
    Path.ofNames (names ++ [last]) = slashed names ++ last := by
  induction names with
  | nil => simp [Path.ofNames, Text.joined, slashed]
  | cons name names ih =>
      obtain ⟨second, rest, found⟩ := List.exists_cons_of_ne_nil (l := names ++ [last]) (by simp)
      unfold Path.ofNames at ih ⊢
      rw [List.cons_append, found, joined_cons_cons, ← found, ih]
      simp [slashed]

theorem names_front {front : Text} (isFront : IsFront front) (s : Text) :
    Path.names (front ++ s) = Path.names front ++ Path.names s := by
  rcases isFront with rfl | ⟨before, rfl⟩
  · rfl
  · rw [names_concat_slash, List.append_assoc]
    exact names_append_slash before s

theorem names_slashed {names : List Text} (pieces : ∀ name ∈ names, IsPiece name) :
    Path.names (slashed names) = names := by
  induction names with
  | nil => rfl
  | cons name names ih =>
      have rest := ih fun other member => pieces other (List.mem_cons_of_mem _ member)
      rw [show slashed (name :: names) = name ++ '/' :: slashed names by simp [slashed],
        names_append_slash, names_piece (pieces name List.mem_cons_self), rest]
      rfl

section

variable {front last : Text}

theorem not_endsWith_slash (front : Text) (piece : IsPiece last) :
    ¬ Text.endsWith ['/'] (front ++ last) = true := by
  obtain ⟨before, c, rfl⟩ := (List.eq_nil_or_concat' last).resolve_left piece.nonempty
  intro ends
  obtain ⟨rest, same⟩ := List.isSuffixOf_iff_suffix.mp ends
  rw [← List.append_assoc] at same
  obtain rfl := List.singleton_inj.mp (List.append_inj' same rfl).2
  exact piece.slashless (by simp)

theorem steps_file (isFront : IsFront front) (piece : IsPiece last) :
    FileSystem.steps (front ++ last) = Path.names front ++ [last] := by
  show Path.names (front ++ last) ++
    (if Text.endsWith ['/'] (front ++ last) = true then [Path.here] else []) = _
  rw [if_neg (not_endsWith_slash front piece), names_front isFront, names_piece piece,
    List.append_nil]

theorem isAbsolute_cons (c : Char) (s : Text) : Path.isAbsolute (c :: s) = ('/' == c) := by
  simp [Path.isAbsolute, Text.startsWith, List.isPrefixOf]

theorem isAbsolute_append {s : Text} (nonempty : s ≠ []) (t : Text) :
    Path.isAbsolute (s ++ t) = Path.isAbsolute s := by
  cases s with
  | nil => exact absurd rfl nonempty
  | cons c s => rw [List.cons_append, isAbsolute_cons, isAbsolute_cons]

theorem isAbsolute_piece (piece : IsPiece last) : Path.isAbsolute last = false := by
  obtain ⟨nonempty, slashless⟩ := piece
  cases last with
  | nil => exact absurd rfl nonempty
  | cons c s =>
      rw [isAbsolute_cons, beq_eq_false_iff_ne]
      rintro rfl
      exact slashless List.mem_cons_self

theorem directory_file (isFront : IsFront front) (piece : IsPiece last) :
    Path.names (Path.directory (front ++ last)) = Path.names front ∧
      Path.isAbsolute (Path.directory (front ++ last)) = Path.isAbsolute (front ++ last) := by
  unfold Path.directory
  rcases isFront with rfl | ⟨before, rfl⟩
  · rw [List.nil_append, cutLast_of_notMem piece.slashless]
    exact ⟨rfl, (isAbsolute_piece piece).symm⟩
  · rw [List.append_assoc, List.singleton_append, cutLast_append before piece.slashless,
      names_concat_slash]
    dsimp only
    by_cases root : before = []
    · subst root
      exact ⟨rfl, rfl⟩
    · rw [if_neg (by simpa using root), isAbsolute_append root]
      exact ⟨rfl, rfl⟩

end

/-! ## Joining -/

def separated (directory : Text) : Text :=
  if directory.isEmpty || Text.endsWith "/" directory then directory else directory ++ ['/']

theorem isFront_separated (directory : Text) : IsFront (separated directory) := by
  unfold separated
  split
  · rename_i done
    rcases Bool.or_eq_true_iff.mp done with empty | ends
    · exact Or.inl (List.isEmpty_iff.mp empty)
    · obtain ⟨before, same⟩ := List.isSuffixOf_iff_suffix.mp ends
      exact Or.inr ⟨before, same.symm⟩
  · exact Or.inr ⟨directory, rfl⟩

theorem names_separated (directory : Text) :
    Path.names (separated directory) = Path.names directory := by
  unfold separated
  split
  · rfl
  · exact names_concat_slash directory

theorem join_relative {path : Text} (relative : Path.isAbsolute path = false) (directory : Text) :
    Path.join directory path = separated directory ++ path := by
  unfold Path.join separated
  rw [relative]
  simp only [Bool.false_eq_true, if_false]
  split
  · rfl
  · rfl

theorem names_join {path : Text} (relative : Path.isAbsolute path = false) (directory : Text) :
    Path.names (Path.join directory path) = Path.names directory ++ Path.names path := by
  rw [join_relative relative, names_front (isFront_separated directory), names_separated]

theorem isAbsolute_join {path : Text} (relative : Path.isAbsolute path = false) (directory : Text) :
    Path.isAbsolute (Path.join directory path) = Path.isAbsolute directory := by
  rw [join_relative relative]
  unfold separated
  by_cases empty : directory = []
  · subst empty
    exact relative
  · split
    · exact isAbsolute_append empty path
    · rw [List.append_assoc]
      exact isAbsolute_append empty _

theorem isAbsolute_ofNames {names : List Text} (pieces : ∀ name ∈ names, IsPiece name) :
    Path.isAbsolute (Path.ofNames names) = false := by
  cases names with
  | nil => rfl
  | cons first names =>
      have piece := pieces first List.mem_cons_self
      cases names with
      | nil => simpa [Path.ofNames, Text.joined] using isAbsolute_piece piece
      | cons second names =>
          unfold Path.ofNames
          rw [joined_cons_cons, List.append_assoc, isAbsolute_append piece.nonempty]
          exact isAbsolute_piece piece

/-! ## Normal paths -/

theorem reduceOnto_names {names : List Text} (named : IsLocation names) (absolute : Bool)
    (done : List Text) : Path.reduceOnto absolute done names = done.reverse ++ names := by
  induction names generalizing done with
  | nil => simp [Path.reduceOnto]
  | cons name names ih =>
      have first := named name List.mem_cons_self
      have rest : IsLocation names := fun other member => named other (List.mem_cons_of_mem _ member)
      simp [Path.reduceOnto, first.notHere, first.notUp, ih rest]

theorem isLocation_reduceOnto {names : List Text} (pieces : ∀ name ∈ names, IsPiece name)
    {done : List Text} (named : IsLocation done) :
    IsLocation (Path.reduceOnto true done names) := by
  induction names generalizing done with
  | nil => exact fun name member => named name (List.mem_reverse.mp member)
  | cons name names ih =>
      have rest : ∀ other ∈ names, IsPiece other :=
        fun other member => pieces other (List.mem_cons_of_mem _ member)
      unfold Path.reduceOnto
      split
      · exact ih rest named
      · rename_i notHere
        split
        · cases done with
          | nil => exact ih rest named
          | cons last done =>
              have known := named last List.mem_cons_self
              dsimp only
              rw [if_neg (by simpa using known.notUp)]
              exact ih rest fun other member => named other (List.mem_cons_of_mem _ member)
        · rename_i notUp
          apply ih rest
          intro other member
          rcases List.mem_cons.mp member with rfl | old
          · obtain ⟨nonempty, slashless⟩ := pieces other List.mem_cons_self
            exact ⟨nonempty, slashless, by simpa using notHere, by simpa using notUp⟩
          · exact named other old

section

variable {path : Text}

theorem root_cases (fromRoot : Path.isAbsolute path = true) :
    Path.root path = ['/', '/'] ∨ Path.root path = ['/'] := by
  unfold Path.root
  split
  · exact Or.inl rfl
  · exact Or.inr rfl

theorem normalize_absolute (fromRoot : Path.isAbsolute path = true) :
    Path.normalize path = Path.root path ++ Path.ofNames (Path.reducedNames path) := by
  unfold Path.normalize
  rcases root_cases fromRoot with root | root <;> rw [root] <;> rfl

theorem isAbsolute_normalize (fromRoot : Path.isAbsolute path = true) :
    Path.isAbsolute (Path.normalize path) = true := by
  rw [normalize_absolute fromRoot]
  rcases root_cases fromRoot with root | root <;> rw [root] <;> rfl

theorem isLocation_reducedNames (fromRoot : Path.isAbsolute path = true) :
    IsLocation (Path.reducedNames path) := by
  unfold Path.reducedNames
  rw [fromRoot]
  exact isLocation_reduceOnto (fun _ => isPiece_of_mem_names)
    fun _ member => absurd member List.not_mem_nil

theorem names_normalize (fromRoot : Path.isAbsolute path = true) :
    Path.names (Path.normalize path) = Path.reducedNames path := by
  have named := isLocation_reducedNames fromRoot
  have reduced := names_ofNames fun name member => (named name member).isPiece
  rw [normalize_absolute fromRoot]
  rcases root_cases fromRoot with root | root <;> rw [root]
  · show Path.names ('/' :: '/' :: Path.ofNames (Path.reducedNames path)) = _
    rw [names_slash, names_slash, reduced]
  · show Path.names ('/' :: Path.ofNames (Path.reducedNames path)) = _
    rw [names_slash, reduced]

theorem names_normalize_of_isLocation (fromRoot : Path.isAbsolute path = true)
    (named : IsLocation (Path.names path)) :
    Path.names (Path.normalize path) = Path.names path := by
  rw [names_normalize fromRoot, Path.reducedNames, reduceOnto_names named]
  rfl

end

theorem join_absolute {path : Text} (fromRoot : Path.isAbsolute path = true) (directory : Text) :
    Path.join directory path = path := by
  unfold Path.join
  rw [fromRoot]
  rfl

section

variable {cwd : Text}

theorem isAbsolute_join_cwd (fromRoot : Path.isAbsolute cwd = true) (path : Text) :
    Path.isAbsolute (Path.join cwd path) = true := by
  cases absolute : Path.isAbsolute path with
  | true => rwa [join_absolute absolute]
  | false => rwa [isAbsolute_join absolute]

theorem isAbsolute_absolute (fromRoot : Path.isAbsolute cwd = true) (path : Text) :
    Path.isAbsolute (Path.absolute cwd path) = true :=
  isAbsolute_normalize (isAbsolute_join_cwd fromRoot path)

theorem isLocation_names_absolute (fromRoot : Path.isAbsolute cwd = true) (path : Text) :
    IsLocation (Path.names (Path.absolute cwd path)) := by
  unfold Path.absolute
  rw [names_normalize (isAbsolute_join_cwd fromRoot path)]
  exact isLocation_reducedNames (isAbsolute_join_cwd fromRoot path)

end

/-! ## Files below a directory -/

def below (directory : Text) (names : List Text) : Text :=
  names.foldl Path.join directory

theorem names_below {names : List Text} (named : IsLocation names) (directory : Text) :
    Path.names (below directory names) = Path.names directory ++ names ∧
      Path.isAbsolute (below directory names) = Path.isAbsolute directory := by
  induction names generalizing directory with
  | nil => exact ⟨(List.append_nil _).symm, rfl⟩
  | cons name names ih =>
      have piece := (named name List.mem_cons_self).isPiece
      have relative := isAbsolute_piece piece
      obtain ⟨rest, absolute⟩ := ih (fun other member => named other (List.mem_cons_of_mem _ member))
        (Path.join directory name)
      rw [names_join relative, names_piece piece] at rest
      rw [isAbsolute_join relative] at absolute
      exact ⟨rest.trans (by simp), absolute⟩

theorem dropCommon_append (names more : List Text) :
    Path.dropCommon names (names ++ more) = ([], more) := by
  induction names with
  | nil => cases more <;> rfl
  | cons name names ih => simp [Path.dropCommon, ih]

theorem relative?_below {cwd : Text} (fromRoot : Path.isAbsolute cwd = true) (source : Text)
    {names : List Text} (named : IsLocation names) (nonempty : names ≠ []) :
    Path.relative? cwd (below (Path.absolute cwd source) names) source =
      some (Path.ofNames names) := by
  obtain ⟨all, absolute⟩ := names_below named (Path.absolute cwd source)
  rw [isAbsolute_absolute fromRoot source] at absolute
  have notEmpty : (below (Path.absolute cwd source) names).isEmpty = false := by
    cases found : below (Path.absolute cwd source) names with
    | nil =>
        rw [found] at absolute
        cases absolute
    | cons c s => rfl
  have located : IsLocation (Path.names (below (Path.absolute cwd source) names)) := by
    rw [all]
    intro name member
    rcases List.mem_append.mp member with above | own
    · exact isLocation_names_absolute fromRoot source name above
    · exact named name own
  have normal : Path.names (Path.absolute cwd (below (Path.absolute cwd source) names)) =
      Path.names (Path.absolute cwd source) ++ names := by
    rw [← all]
    conv_lhs => rw [Path.absolute, join_absolute absolute]
    exact names_normalize_of_isLocation absolute located
  unfold Path.relative?
  rw [notEmpty, normal, dropCommon_append]
  cases names with
  | nil => exact absurd rfl nonempty
  | cons name names => rfl

/-! ## Pages -/

def pageName (name : Text) : Text :=
  name.take (name.length - 3) ++ ".rst".toList

def pageNames (names : List Text) : List Text :=
  names.dropLast ++ [pageName (names.getLastD [])]

def pagePath (documentation : Text) (names : List Text) : Text :=
  Path.join documentation (Path.ofNames (pageNames names))

def isKotlin (names : List Text) : Bool :=
  (names.getLast?.map FileSystem.isKotlinName).getD false

structure IsSource (names : List Text) : Prop where
  located : IsLocation names
  kotlin : isKotlin names = true

theorem ne_nil_of_isKotlin {names : List Text} (kotlin : isKotlin names = true) : names ≠ [] := by
  rintro rfl
  cases kotlin

theorem exists_stem_of_isKotlin {names : List Text} (kotlin : isKotlin names = true) :
    ∃ directories stem, names = directories ++ [stem ++ ".kt".toList] := by
  rcases List.eq_nil_or_concat' names with rfl | ⟨directories, name, rfl⟩
  · cases kotlin
  · have ends : Text.endsWith ".kt" name = true := by
      simpa [isKotlin, FileSystem.isKotlinName] using kotlin
    obtain ⟨stem, rfl⟩ := List.isSuffixOf_iff_suffix.mp ends
    exact ⟨directories, stem, rfl⟩

theorem pageNames_stem (directories : List Text) (stem : Text) :
    pageNames (directories ++ [stem ++ ".kt".toList]) = directories ++ [stem ++ ".rst".toList] := by
  simp [pageNames, pageName]

theorem isName_rst {name : Text} (slashless : '/' ∉ name) : IsName (name ++ ".rst".toList) := by
  have long : 4 ≤ (name ++ ".rst".toList).length := by simp
  refine ⟨?_, ?_, ?_, ?_⟩
  · intro empty
    rw [empty] at long
    exact absurd long (by decide)
  · intro slash
    rcases List.mem_append.mp slash with inName | inEnding
    · exact slashless inName
    · exact absurd inEnding (by decide)
  · intro here
    rw [here] at long
    exact absurd long (by decide)
  · intro up
    rw [up] at long
    exact absurd long (by decide)

namespace IsSource

variable {names : List Text}

theorem pages_isLocation (source : IsSource names) : IsLocation (pageNames names) := by
  obtain ⟨directories, stem, rfl⟩ := exists_stem_of_isKotlin source.kotlin
  rw [pageNames_stem]
  intro name member
  rcases List.mem_append.mp member with above | last
  · exact source.located name (List.mem_append_left _ above)
  · obtain rfl := List.mem_singleton.mp last
    have own := source.located (stem ++ ".kt".toList) (by simp)
    exact isName_rst fun slash => own.slashless (List.mem_append_left _ slash)

theorem pageNames_inj (source : IsSource names) {other : List Text} (too : IsSource other)
    (same : pageNames names = pageNames other) : names = other := by
  obtain ⟨directories, stem, rfl⟩ := exists_stem_of_isKotlin source.kotlin
  obtain ⟨directories', stem', rfl⟩ := exists_stem_of_isKotlin too.kotlin
  rw [pageNames_stem, pageNames_stem] at same
  obtain ⟨rfl, last⟩ := List.append_inj' same rfl
  obtain rfl := List.append_cancel_right (List.singleton_inj.mp last)
  rfl

end IsSource

theorem isKotlin_append_pageNames (location : Location) (names : List Text) :
    isKotlin (location ++ pageNames names) = false := by
  have last : (location ++ pageNames names).getLast? = some (pageName (names.getLastD [])) := by
    simp [pageNames]
  unfold isKotlin
  rw [last, Option.map_some, Option.getD_some, Bool.eq_false_iff]
  intro kotlin
  obtain ⟨stem, same⟩ := List.isSuffixOf_iff_suffix.mp kotlin
  have ending : stem ++ ['.'] ++ ['k', 't'] =
      (names.getLastD []).take ((names.getLastD []).length - 3) ++ ['.', 'r'] ++ ['s', 't'] := by
    simpa [pageName] using same
  exact absurd (List.append_inj' ending rfl).2 (by decide)

theorem destination?_below {cwd : Text} (fromRoot : Path.isAbsolute cwd = true)
    (source documentation : Text) {names : List Text} (isSource : IsSource names) :
    Path.destination? cwd (below (Path.absolute cwd source) names) source documentation =
      some (pagePath documentation names) := by
  have pieces : ∀ {names : List Text}, IsLocation names → ∀ name ∈ names, IsPiece name :=
    fun located name member => (located name member).isPiece
  unfold Path.destination? pagePath
  rw [relative?_below fromRoot source isSource.located (ne_nil_of_isKotlin isSource.kotlin),
    Option.map_some]
  dsimp only
  rw [join_relative (isAbsolute_ofNames (pieces isSource.located)),
    join_relative (isAbsolute_ofNames (pieces isSource.pages_isLocation))]
  obtain ⟨directories, stem, rfl⟩ := exists_stem_of_isKotlin isSource.kotlin
  have cut : ∀ front : Text,
      (front ++ ".kt".toList).take ((front ++ ".kt".toList).length - 3) = front := by
    intro front
    simp
  rw [pageNames_stem, ofNames_concat, ofNames_concat]
  simp only [← List.append_assoc]
  rw [cut]

end KotlinDoc.Proofs.Files
