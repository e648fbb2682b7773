import KotlinDoc.Proofs.Files.Paths
import Mathlib.Data.List.DropRight

namespace KotlinDoc.Proofs.Files

theorem separated_piece {last : Text} (piece : IsPiece last) (front : Text) :
    separated (front ++ last) = front ++ last ++ ['/'] := by
  have filled : (front ++ last).isEmpty = false := by simp [piece.nonempty]
  have noSlash : Text.endsWith "/" (front ++ last) = false :=
    eq_false_of_ne_true (not_endsWith_slash front piece)
  unfold separated
  rw [filled, noSlash]
  rfl

theorem separated_front {front : Text} (isFront : IsFront front) : separated front = front := by
  unfold separated
  rcases isFront with rfl | ⟨before, rfl⟩
  · rfl
  · have ends : Text.endsWith "/" (before ++ ['/']) = true :=
      List.isSuffixOf_iff_suffix.mpr ⟨before, rfl⟩
    rw [ends, Bool.or_true]
    rfl

theorem separated_append {front : Text} (isFront : IsFront front) (directory : Text) :
    separated (front ++ directory) = front ++ separated directory := by
  rcases List.eq_nil_or_concat' directory with rfl | ⟨before, c, rfl⟩
  · rw [List.append_nil, separated_front isFront]
    exact (List.append_nil front).symm
  · by_cases slash : c = '/'
    · subst slash
      rw [separated_front (isFront_append isFront (Or.inr ⟨before, rfl⟩)),
        separated_front (Or.inr ⟨before, rfl⟩)]
    · have piece : IsPiece [c] := ⟨by simp, by simpa using Ne.symm slash⟩
      rw [← List.append_assoc, separated_piece piece, separated_piece piece]
      simp

theorem slashed_append (names more : List Text) :
    slashed (names ++ more) = slashed names ++ slashed more :=
  List.flatMap_append

theorem ofNames_append (names : List Text) {more : List Text} (nonempty : more ≠ []) :
    Path.ofNames (names ++ more) = slashed names ++ Path.ofNames more := by
  obtain ⟨front, last, rfl⟩ := (List.eq_nil_or_concat' more).resolve_left nonempty
  rw [← List.append_assoc, ofNames_concat, ofNames_concat, slashed_append, List.append_assoc]

theorem separated_ofNames {front : Text} (isFront : IsFront front) {names : List Text}
    (pieces : ∀ name ∈ names, IsPiece name) :
    separated (front ++ Path.ofNames names) = front ++ slashed names := by
  rcases List.eq_nil_or_concat' names with rfl | ⟨names, last, rfl⟩
  · rw [separated_append isFront]
    rfl
  · rw [ofNames_concat, ← List.append_assoc, separated_piece (pieces last (by simp)), slashed_append]
    simp [slashed]

theorem join_join {path : Text} (relative : Path.isAbsolute path = false) (first second : Text) :
    Path.join first (Path.join second path) = Path.join (Path.join first second) path := by
  have whole := isAbsolute_join relative second
  cases absolute : Path.isAbsolute second with
  | true =>
      rw [absolute] at whole
      rw [join_absolute whole, join_absolute absolute]
  | false =>
      rw [absolute] at whole
      rw [join_relative whole, join_relative absolute, join_relative relative,
        join_relative relative, separated_append (isFront_separated first), List.append_assoc]

theorem below_eq_join {names : List Text} (pieces : ∀ name ∈ names, IsPiece name)
    (nonempty : names ≠ []) (directory : Text) :
    below directory names = Path.join directory (Path.ofNames names) := by
  have front : ∀ names : List Text, (∀ name ∈ names, IsPiece name) →
      separated (below directory names) = separated directory ++ slashed names := by
    intro names
    induction names using List.reverseRecOn with
    | nil => intro _; simp [below, slashed]
    | append_singleton names last ih =>
        intro pieces
        have piece := pieces last (by simp)
        have rest := ih fun name member => pieces name (List.mem_append_left _ member)
        have step : below directory (names ++ [last]) = Path.join (below directory names) last := by
          simp [below]
        rw [step, join_relative (isAbsolute_piece piece), separated_piece piece, rest, slashed_append]
        simp [slashed]
  obtain ⟨names, last, rfl⟩ := (List.eq_nil_or_concat' names).resolve_left nonempty
  have step : below directory (names ++ [last]) = Path.join (below directory names) last := by
    simp [below]
  rw [step, join_relative (isAbsolute_piece (pieces last (by simp))),
    front names fun name member => pieces name (List.mem_append_left _ member),
    join_relative (isAbsolute_ofNames pieces), ofNames_concat, List.append_assoc]

theorem reduceOnto_append {more : List Text} (named : IsLocation more) (absolute : Bool)
    (done names : List Text) :
    Path.reduceOnto absolute done (names ++ more) = Path.reduceOnto absolute done names ++ more := by
  induction names generalizing done with
  | nil => exact reduceOnto_names named absolute done
  | cons name names ih =>
      simp only [List.cons_append, Path.reduceOnto]
      split
      · exact ih done
      · split
        · cases done with
          | nil => exact ih _
          | cons last rest => exact ih _
        · exact ih _

theorem root_single {c : Char} (other : c ≠ '/') (s : Text) : Path.root ('/' :: c :: s) = ['/'] := by
  simp [Path.root, Path.isAbsolute, Text.startsWith, List.isPrefixOf, other.symm]

theorem root_double {c : Char} (other : c ≠ '/') (s : Text) :
    Path.root ('/' :: '/' :: c :: s) = ['/', '/'] := by
  simp [Path.root, Text.startsWith, List.isPrefixOf, other.symm]

theorem root_long (c d : Char) (s t : Text) :
    Path.root ('/' :: c :: d :: s) = Path.root ('/' :: c :: d :: t) := by
  simp [Path.root, Path.isAbsolute, Text.startsWith, List.isPrefixOf]

theorem root_join {directory path : Text} (fromRoot : Path.isAbsolute directory = true)
    (relative : Path.isAbsolute path = false) :
    Path.root (Path.join directory path) = Path.root directory := by
  have other : ∀ {c s}, path = c :: s → c ≠ '/' := by
    rintro c s rfl rfl
    cases relative
  obtain ⟨s, rfl⟩ : ∃ s, directory = '/' :: s :=
    ⟨_, (List.isPrefixOf_iff_prefix.mp fromRoot).choose_spec.symm⟩
  obtain ⟨slash, ends⟩ : ∃ slash, separated ('/' :: s) = '/' :: (s ++ slash) := by
    unfold separated
    split
    · exact ⟨[], by simp⟩
    · exact ⟨['/'], by simp⟩
  rw [join_relative relative]
  -- One slash alone stays one, and two stay two, since the path starts with none.
  rcases s with _ | ⟨c, _ | ⟨d, s⟩⟩
  · cases path with
    | nil => rfl
    | cons c s => exact root_single (other rfl) s
  · by_cases slash : c = '/'
    · subst slash
      cases path with
      | nil => rfl
      | cons c s => exact root_double (other rfl) s
    · rw [ends, root_single slash]
      exact root_single slash _
  · rw [ends]
    exact root_long c d _ _

theorem absolute_join {cwd : Text} (fromRoot : Path.isAbsolute cwd = true) (directory : Text)
    {names : List Text} (named : IsLocation names) (nonempty : names ≠ []) :
    Path.absolute cwd (Path.join directory (Path.ofNames names)) =
      Path.join (Path.absolute cwd directory) (Path.ofNames names) := by
  have pieces : ∀ name ∈ names, IsPiece name := fun name member => (named name member).isPiece
  have relative := isAbsolute_ofNames pieces
  have whole := isAbsolute_join_cwd fromRoot directory
  have reduced : Path.reducedNames (Path.join (Path.join cwd directory) (Path.ofNames names)) =
      Path.reducedNames (Path.join cwd directory) ++ names := by
    unfold Path.reducedNames
    rw [isAbsolute_join relative, names_join relative, names_ofNames pieces, reduceOnto_append named]
  have slashes : IsFront (Path.root (Path.join cwd directory)) := by
    rcases root_cases whole with root | root
    · exact Or.inr ⟨['/'], root⟩
    · exact Or.inr ⟨[], root⟩
  unfold Path.absolute
  rw [join_join relative, normalize_absolute ((isAbsolute_join relative _).trans whole),
    root_join whole relative, reduced, ofNames_append _ nonempty, normalize_absolute whole,
    join_relative relative, separated_ofNames slashes, List.append_assoc]
  exact fun name member => (isLocation_reducedNames whole name member).isPiece

def sourcePath (cwd source : Text) (names : List Text) : Text :=
  Path.join (Path.absolute cwd source) (Path.ofNames names)

theorem destination?_sourcePath {cwd : Text} (fromRoot : Path.isAbsolute cwd = true)
    (source documentation : Text) {names : List Text} (isSource : IsSource names) :
    Path.destination? cwd (sourcePath cwd source names) source documentation =
      some (pagePath documentation names) := by
  have pieces : ∀ name ∈ names, IsPiece name :=
    fun name member => (isSource.located name member).isPiece
  rw [sourcePath, ← below_eq_join pieces (ne_nil_of_isKotlin isSource.kotlin)]
  exact destination?_below fromRoot source documentation isSource

theorem pagePath_eq_rdrop (documentation : Text) {names : List Text} (isSource : IsSource names) :
    pagePath documentation names =
      Path.join documentation ((Path.ofNames names).rdrop 3) ++ ".rst" := by
  have relative := isAbsolute_ofNames fun name member => (isSource.located name member).isPiece
  have pieces : ∀ name ∈ pageNames names, IsPiece name :=
    fun name member => (isSource.pages_isLocation name member).isPiece
  obtain ⟨directories, stem, rfl⟩ := exists_stem_of_isKotlin isSource.kotlin
  have cut : (Path.ofNames (directories ++ [stem ++ ".kt".toList])).rdrop 3 =
      slashed directories ++ stem := by
    rw [ofNames_concat, ← List.append_assoc, List.rdrop, List.length_append]
    exact List.take_left
  have relative' : Path.isAbsolute (slashed directories ++ stem) = false := by
    by_cases empty : slashed directories ++ stem = []
    · rw [empty]
      rfl
    · rwa [ofNames_concat, ← List.append_assoc, isAbsolute_append empty] at relative
  unfold pagePath
  rw [join_relative (isAbsolute_ofNames pieces), cut, join_relative relative', pageNames_stem,
    ofNames_concat]
  simp

theorem pagePath_inj {documentation : Text} {names other : List Text} (isSource : IsSource names)
    (too : IsSource other) (same : pagePath documentation names = pagePath documentation other) :
    names = other := by
  have pieces {names : List Text} (isSource : IsSource names) :
      ∀ name ∈ pageNames names, IsPiece name :=
    fun name member => (isSource.pages_isLocation name member).isPiece
  unfold pagePath at same
  rw [join_relative (isAbsolute_ofNames (pieces isSource)),
    join_relative (isAbsolute_ofNames (pieces too))] at same
  apply isSource.pageNames_inj too
  rw [← names_ofNames (pieces isSource), ← names_ofNames (pieces too),
    List.append_cancel_left same]

/-- The page for a file has the place of the file below the source directory, less its ending. So no
two files have the same page, and every page lies below the documentation directory. -/
theorem destination?_faithful {cwd : Text} (fromRoot : Path.isAbsolute cwd = true)
    (source documentation : Text) :
    (∀ names, IsSource names →
      Path.destination? cwd (sourcePath cwd source names) source documentation =
        some (Path.join documentation ((Path.ofNames names).rdrop 3) ++ ".rst")) ∧
    (∀ names other, IsSource names → IsSource other →
      Path.destination? cwd (sourcePath cwd source names) source documentation =
        Path.destination? cwd (sourcePath cwd source other) source documentation → names = other) ∧
    ∀ names, IsSource names → ∃ page place,
      Path.destination? cwd (sourcePath cwd source names) source documentation = some page ∧
        place ≠ [] ∧ IsLocation place ∧ page = Path.join documentation (Path.ofNames place) ∧
        Path.absolute cwd page =
          Path.join (Path.absolute cwd documentation) (Path.ofNames place) := by
  refine ⟨fun names isSource => ?_, fun names other isSource too same => ?_,
    fun names isSource => ?_⟩
  · rw [destination?_sourcePath fromRoot _ _ isSource, pagePath_eq_rdrop _ isSource]
  · rw [destination?_sourcePath fromRoot _ _ isSource,
      destination?_sourcePath fromRoot _ _ too] at same
    exact pagePath_inj isSource too (Option.some.inj same)
  · have some : pageNames names ≠ [] := by simp [pageNames]
    exact ⟨_, pageNames names, destination?_sourcePath fromRoot _ _ isSource, some,
      isSource.pages_isLocation, rfl, absolute_join fromRoot documentation isSource.pages_isLocation some⟩

/-- A file with nothing but the ending as its name, an empty documentation path, and paths with
needless slashes and steps upwards. -/
theorem destination?_faithful_spellings :
    Path.isAbsolute "/home" = true ∧
    Path.destination? "/home" (sourcePath "/home" "src//../code/" [".kt".toList]) "src//../code/" [] =
      some ".rst".toList ∧
    Path.destination? "/home" (sourcePath "/home" "//code//" ["a".toList, "..kt".toList]) "//code//"
        "../docs//" = some "../docs//a/..rst".toList ∧
    Path.destination? "/home" (sourcePath "/home" "//code//" ["a".toList, ".kt".toList]) "//code//" [] ≠
      Path.destination? "/home" (sourcePath "/home" "//code//" ["a.kt".toList]) "//code//" [] := by
  have fromRoot : Path.isAbsolute "/home" = true := by decide
  have named : IsSource ["a".toList, ".kt".toList] := ⟨by decide, by decide⟩
  have plain : IsSource ["a.kt".toList] := ⟨by decide, by decide⟩
  refine ⟨fromRoot, ?_, ?_, fun same => ?_⟩
  · rw [(destination?_faithful fromRoot _ _).1 [".kt".toList] ⟨by decide, by decide⟩]
    decide +kernel
  · rw [(destination?_faithful fromRoot _ _).1 ["a".toList, "..kt".toList] ⟨by decide, by decide⟩]
    decide +kernel
  · exact absurd ((destination?_faithful fromRoot _ _).2.1 _ _ named plain same) (by decide)

end KotlinDoc.Proofs.Files
