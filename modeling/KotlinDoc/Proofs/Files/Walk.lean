import KotlinDoc.Proofs.Files.Tree

namespace KotlinDoc.Proofs.Files

def walk (location : Location) (names : List Text) : Location :=
  names.foldl FileSystem.next location

def Along (fs : FileSystem) (location : Location) : List Text → Prop
  | [] => fs.isDirectory location = true
  | name :: names =>
    fs.isDirectory location = true ∧ Along fs (FileSystem.next location name) names

structure IsPiece (name : Text) : Prop where
  nonempty : name ≠ []
  slashless : '/' ∉ name

theorem IsName.isPiece {name : Text} (named : IsName name) : IsPiece name :=
  ⟨named.nonempty, named.slashless⟩

theorem next_name {name : Text} (named : IsName name) (location : Location) :
    FileSystem.next location name = location ++ [name] := by
  unfold FileSystem.next
  rw [if_neg (by simpa using named.notHere), if_neg (by simpa using named.notUp)]

theorem walk_append (location : Location) (names more : List Text) :
    walk location (names ++ more) = walk (walk location names) more :=
  List.foldl_append

theorem walk_names {names : List Text} (named : IsLocation names) (location : Location) :
    walk location names = location ++ names := by
  induction names generalizing location with
  | nil => simp [walk]
  | cons name names ih =>
      have first := next_name (named name List.mem_cons_self) location
      have rest := ih (fun other member => named other (List.mem_cons_of_mem _ member))
        (location ++ [name])
      show walk (FileSystem.next location name) names = _
      rw [first, rest]
      simp

theorem next_of_none {fs : FileSystem} (tree : IsTree fs) {location : Location} {name : Text}
    (start : fs.isDirectory location = true) (piece : IsPiece name)
    (free : fs.node? (FileSystem.next location name) = none) :
    IsName name ∧ FileSystem.next location name = location ++ [name] := by
  have there := isDirectory_iff.mp start
  have notHere : name ≠ Path.here := by
    rintro rfl
    rw [show FileSystem.next location Path.here = location from rfl, there] at free
    cases free
  have notUp : name ≠ Path.up := by
    rintro rfl
    rw [show FileSystem.next location Path.up = location.dropLast from rfl,
      isDirectory_iff.mp (tree.parent there)] at free
    cases free
  have named : IsName name := ⟨piece.nonempty, piece.slashless, notHere, notUp⟩
  exact ⟨named, next_name named location⟩

theorem Along.start {fs : FileSystem} {location : Location} {names : List Text}
    (along : Along fs location names) : fs.isDirectory location = true := by
  cases names with
  | nil => exact along
  | cons name names => exact along.1

theorem along_append {fs : FileSystem} (location : Location) (names more : List Text) :
    Along fs location (names ++ more) ↔
      Along fs location names ∧ Along fs (walk location names) more := by
  induction names generalizing location with
  | nil =>
      constructor
      · intro along
        exact ⟨along.start, along⟩
      · exact fun along => along.2
  | cons name names ih =>
      show _ ∧ Along fs _ (names ++ more) ↔ (_ ∧ Along fs _ names) ∧ _
      rw [ih, and_assoc]
      rfl

theorem Along.directory {fs : FileSystem} {location : Location} {names before : List Text}
    (along : Along fs location names) (start : before <+: names) :
    fs.isDirectory (walk location before) = true := by
  obtain ⟨after, rfl⟩ := start
  exact ((along_append location before after).mp along).2.start

theorem Along.mono {fs new : FileSystem}
    (kept : ∀ location, fs.isDirectory location = true → new.isDirectory location = true)
    {location : Location} {names : List Text} (along : Along fs location names) :
    Along new location names := by
  induction names generalizing location with
  | nil => exact kept location along
  | cons name names ih => exact ⟨kept location along.1, ih along.2⟩

theorem along_of_below {fs : FileSystem} (tree : IsTree fs) {location : Location} {names : List Text}
    (named : IsLocation names) {name : Text} {node : Node}
    (there : fs.node? (location ++ names ++ [name]) = some node) : Along fs location names := by
  induction names generalizing location with
  | nil =>
      rw [List.append_nil] at there
      exact tree.above (List.cons_ne_nil _ _) there
  | cons first names ih =>
      have step := next_name (named first List.mem_cons_self) location
      have rest : IsLocation names := fun other member => named other (List.mem_cons_of_mem _ member)
      refine ⟨?_, ?_⟩
      · rw [List.append_assoc] at there
        exact tree.above (by simp) there
      · rw [step]
        apply ih rest
        simpa using there

theorem follow_cons {fs : FileSystem} {location target : Location} {name : Text}
    {names : List Text} :
    fs.follow location (name :: names) = .ok target ↔
      fs.isDirectory location = true ∧
        fs.follow (FileSystem.next location name) names = .ok target := by
  rw [FileSystem.follow, isDirectory_iff]
  split <;> rename_i found <;> simp [found]

theorem follow_concat {fs : FileSystem} {location target : Location} {names : List Text}
    {last : Text} :
    fs.follow location (names ++ [last]) = .ok target ↔
      Along fs location names ∧ FileSystem.next (walk location names) last = target := by
  induction names generalizing location with
  | nil =>
      rw [List.nil_append, follow_cons]
      simp [FileSystem.follow, Along, walk]
  | cons name names ih =>
      rw [List.cons_append, follow_cons, ih, ← and_assoc]
      rfl

section

variable {fs : FileSystem} {location : Location} {name : Text}

theorem makeAlong_cons_of_none (free : fs.node? (FileSystem.next location name) = none)
    (names : List Text) :
    fs.makeAlong location (name :: names) =
      (fs.set (FileSystem.next location name) .directory).makeAlong
        (FileSystem.next location name) names := by
  rw [FileSystem.makeAlong]
  simp only [free]

theorem makeAlong_cons_of_directory
    (found : fs.node? (FileSystem.next location name) = some .directory) (names : List Text) :
    fs.makeAlong location (name :: names) =
      fs.makeAlong (FileSystem.next location name) names := by
  rw [FileSystem.makeAlong]
  simp only [found]

theorem makeAlong_cons_of_file {bytes : ByteArray}
    (found : fs.node? (FileSystem.next location name) = some (.file bytes)) (names : List Text) :
    fs.makeAlong location (name :: names) = fs := by
  rw [FileSystem.makeAlong]
  simp only [found]

theorem node?_set_directory (free : fs.node? location = none) :
    (fs.set location .directory).node? location = some .directory := by
  rw [node?_set fs (ne_nil_of_free (isDirectory_of_none free)), if_pos rfl]

end

theorem makeAlong_node? (fs : FileSystem) (location : Location) (names : List Text)
    (other : Location) :
    (fs.makeAlong location names).node? other = fs.node? other ∨
      fs.node? other = none ∧ (fs.makeAlong location names).node? other = some .directory ∧
        ∃ before, before <+: names ∧ other = walk location before := by
  induction names generalizing fs location with
  | nil => exact Or.inl rfl
  | cons name names ih =>
      -- What is made further on lies on the longer way, too.
      have further : ∀ {before : List Text},
          before <+: names ∧ other = walk (FileSystem.next location name) before →
          ∃ before, before <+: name :: names ∧ other = walk location before := by
        rintro before ⟨shorter, rfl⟩
        exact ⟨name :: before, List.cons_prefix_cons.mpr ⟨rfl, shorter⟩, rfl⟩
      cases found : fs.node? (FileSystem.next location name) with
      | none =>
          have onward := ih (fs.set (FileSystem.next location name) .directory)
            (FileSystem.next location name)
          rw [makeAlong_cons_of_none found]
          by_cases here : other = FileSystem.next location name
          · subst here
            rw [node?_set_directory found] at onward
            refine Or.inr ⟨found, ?_, [name], List.cons_prefix_cons.mpr ⟨rfl, List.nil_prefix⟩, rfl⟩
            rcases onward with same | ⟨none, -⟩
            · exact same
            · cases none
          · rw [node?_set fs (ne_nil_of_free (isDirectory_of_none found)), if_neg here] at onward
            rcases onward with same | ⟨none, made, before, onWay⟩
            · exact Or.inl same
            · exact Or.inr ⟨none, made, further onWay⟩
      | some node =>
          cases node with
          | directory =>
              rw [makeAlong_cons_of_directory found]
              rcases ih fs (FileSystem.next location name) with same | ⟨none, made, before, onWay⟩
              · exact Or.inl same
              · exact Or.inr ⟨none, made, further onWay⟩
          | file bytes =>
              rw [makeAlong_cons_of_file found]
              exact Or.inl rfl

theorem makeAlong_kept {fs : FileSystem} (location : Location) (names : List Text)
    {other : Location} {node : Node} (there : fs.node? other = some node) :
    (fs.makeAlong location names).node? other = some node := by
  rcases makeAlong_node? fs location names other with same | ⟨none, -⟩
  · rw [same, there]
  · rw [there] at none
    cases none

theorem makeAlong_eq_self {fs : FileSystem} {location : Location} {names : List Text}
    (along : Along fs location names) : fs.makeAlong location names = fs := by
  induction names generalizing location with
  | nil => rfl
  | cons name names ih =>
      rw [makeAlong_cons_of_directory (isDirectory_iff.mp along.2.start)]
      exact ih along.2

theorem makeAlong_makeAlong (fs : FileSystem) (location : Location) (names : List Text) :
    (fs.makeAlong location names).makeAlong location names = fs.makeAlong location names := by
  induction names generalizing fs location with
  | nil => rfl
  | cons name names ih =>
      cases found : fs.node? (FileSystem.next location name) with
      | none =>
          rw [makeAlong_cons_of_none found,
            makeAlong_cons_of_directory (makeAlong_kept _ _ (node?_set_directory found))]
          exact ih _ _
      | some node =>
          cases node with
          | directory =>
              rw [makeAlong_cons_of_directory found,
                makeAlong_cons_of_directory (makeAlong_kept _ _ found)]
              exact ih _ _
          | file bytes =>
              rw [makeAlong_cons_of_file found, makeAlong_cons_of_file found]

theorem makeAlong_along (fs : FileSystem) {location : Location} (names : List Text)
    (start : fs.isDirectory location = true) :
    Along (fs.makeAlong location names) location names ∨
      ∃ before, before <+: names ∧
        ∃ bytes, (fs.makeAlong location names).node? (walk location before) = some (.file bytes) := by
  induction names generalizing fs location with
  | nil => exact Or.inl start
  | cons name names ih =>
      have kept : (fs.makeAlong location (name :: names)).isDirectory location = true :=
        isDirectory_iff.mpr (makeAlong_kept _ _ (isDirectory_iff.mp start))
      -- From the next location on the way is shorter, in the file system as it is there.
      have onward : ∀ new : FileSystem, new.isDirectory (FileSystem.next location name) = true →
          fs.makeAlong location (name :: names) =
            new.makeAlong (FileSystem.next location name) names →
          Along (fs.makeAlong location (name :: names)) location (name :: names) ∨
            ∃ before, before <+: name :: names ∧ ∃ bytes,
              (fs.makeAlong location (name :: names)).node? (walk location before) =
                some (.file bytes) := by
        intro new directory same
        rcases ih new directory with along | ⟨before, shorter, bytes, blocked⟩
        · exact Or.inl ⟨kept, same ▸ along⟩
        · refine Or.inr ⟨name :: before, List.cons_prefix_cons.mpr ⟨rfl, shorter⟩, bytes, ?_⟩
          rw [same]
          exact blocked
      cases found : fs.node? (FileSystem.next location name) with
      | none =>
          exact onward _ (isDirectory_iff.mpr (node?_set_directory found))
            (makeAlong_cons_of_none found names)
      | some node =>
          cases node with
          | directory =>
              exact onward fs (isDirectory_iff.mpr found) (makeAlong_cons_of_directory found names)
          | file bytes =>
              exact Or.inr ⟨[name], List.cons_prefix_cons.mpr ⟨rfl, List.nil_prefix⟩, bytes,
                makeAlong_kept _ _ found⟩

theorem makeAlong_evolves {fs : FileSystem} (tree : IsTree fs) {location : Location}
    (start : fs.isDirectory location = true) {names : List Text}
    (pieces : ∀ name ∈ names, IsPiece name) :
    Evolves (fun _ => False) fs (fs.makeAlong location names) := by
  induction names generalizing fs location with
  | nil => exact .refl
  | cons name names ih =>
      have rest : ∀ other ∈ names, IsPiece other :=
        fun other member => pieces other (List.mem_cons_of_mem _ member)
      cases found : fs.node? (FileSystem.next location name) with
      | none =>
          have made := isDirectory_iff.mpr (node?_set_directory found)
          obtain ⟨named, down⟩ := next_of_none tree start (pieces name List.mem_cons_self) found
          have located : IsLocation (location ++ [name]) := by
            intro other member
            rcases List.mem_append.mp member with old | last
            · exact tree.isLocation (isDirectory_iff.mp start) other old
            · rw [List.mem_singleton.mp last]
              exact named
          rw [makeAlong_cons_of_none found]
          rw [down] at found made ⊢
          have change : Change (fun _ => False) fs (fs.set (location ++ [name]) .directory) :=
            .directory located (by rwa [List.dropLast_concat]) found
          exact .head change (ih (change.tree tree) made rest)
      | some node =>
          cases node with
          | directory =>
              rw [makeAlong_cons_of_directory found]
              exact ih tree (isDirectory_iff.mpr found) rest
          | file bytes =>
              rw [makeAlong_cons_of_file found]

end KotlinDoc.Proofs.Files
