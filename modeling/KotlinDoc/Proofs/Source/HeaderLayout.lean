import KotlinDoc.Proofs.Domain.Nesting
import KotlinDoc.Proofs.Text.Trimming
import KotlinDoc.Source.ClassHeader

namespace KotlinDoc.Proofs

open ClassHeader

def seenWith (r : Reading) (seen : Nat) (line : Text) : Nat :=
  if r.depth == 0 && Source.startsDeclaration (Text.trim line) then seen + 1 else seen

def readWith (r : Reading) (line : Text) : Reading :=
  ((Text.trim line).takeWhile (· != '{')).foldl Reading.read r

theorem readLines_cons (r : Reading) (seen number : Nat) (line : Text) (lines : List Text) :
    readLines r seen number (line :: lines) =
      if 1 < seenWith r seen line then r.header false number
      else if (Text.trim line).contains '{' then (readWith r line).header true number
      else readLines (readWith r line) (seenWith r seen line) (number + 1) lines := by
  rw [readLines]
  dsimp only [Reading.readLine]
  cases (Text.trim line).contains '{' <;> rfl

theorem readLines_append {r : Reading} {seen number : Nat} {own : List Text}
    (opened : (readLines r seen number own).hasBody = true) (after : List Text) :
    readLines r seen number (own ++ after) = readLines r seen number own ∧
      (readLines r seen number own).lastLine < number + own.length := by
  induction own generalizing r seen number with
  | nil => cases opened
  | cons line own ih =>
      rw [List.cons_append, readLines_cons, readLines_cons]
      rw [readLines_cons] at opened
      split at opened
      · cases opened
      · rename_i first
        rw [if_neg first, if_neg first]
        split at opened
        · rename_i brace
          rw [if_pos brace, if_pos brace]
          exact ⟨rfl, Nat.lt_add_of_pos_right (Nat.succ_pos _)⟩
        · rename_i brace
          rw [if_neg brace, if_neg brace]
          obtain ⟨same, inside⟩ := ih opened
          refine ⟨same, ?_⟩
          rw [List.length_cons]
          omega

def Alone (r : Reading) (seen : Nat) : List Text → Prop
  | [] => True
  | line :: lines =>
    seenWith r seen line ≤ 1 ∧ Alone (readWith r line) (seenWith r seen line) lines

instance (r : Reading) (seen : Nat) : (lines : List Text) → Decidable (Alone r seen lines)
  | [] => isTrue trivial
  | line :: lines =>
    have := instDecidableAlone (readWith r line) (seenWith r seen line) lines
    inferInstanceAs (Decidable (_ ∧ _))

def headerText (lines : List Text) : Text :=
  (lines.map Text.trim).flatten

def EndsHeader (r : Reading) (seen : Nat) (lines after : List Text) : Prop :=
  '{' ∈ headerText lines ∨ after = [] ∨
    ∃ stop below, after = stop :: below ∧ ¬ Alone r seen (lines ++ [stop])

theorem constructor_readLines {r : Reading} {seen : Nat} {lines after : List Text}
    (alone : Alone r seen lines) (ends : EndsHeader r seen lines after) (number : Nat) :
    (readLines r seen number (lines ++ after)).constructor =
      (((headerText lines).takeWhile (· != '{')).foldl Reading.read r).constructor := by
  induction lines generalizing r seen number with
  | nil =>
      rcases ends with brace | rfl | ⟨stop, below, rfl, second⟩
      · cases brace
      · rfl
      · have stopped : 1 < seenWith r seen stop := by
          simpa [Alone] using second
        rw [List.nil_append, readLines_cons, if_pos stopped]
        rfl
  | cons line lines ih =>
      obtain ⟨first, later⟩ := alone
      have text : headerText (line :: lines) = Text.trim line ++ headerText lines := rfl
      rw [List.cons_append, readLines_cons, if_neg (Nat.not_lt.mpr first), text]
      by_cases brace : '{' ∈ Text.trim line
      · have stops : ((Text.trim line).takeWhile (· != '{')).length ≠ (Text.trim line).length := by
          intro whole
          have same := List.IsPrefix.eq_of_length (List.takeWhile_prefix _) whole
          have none := List.takeWhile_eq_self_iff.mp same '{' brace
          cases none
        rw [if_pos (List.contains_iff_mem.mpr brace), List.takeWhile_append, if_neg stops]
        rfl
      · have all : ∀ c ∈ Text.trim line, (c != '{') = true :=
          fun c member => bne_iff_ne.mpr fun same => brace (same ▸ member)
        have ends : EndsHeader (readWith r line) (seenWith r seen line) lines after := by
          rcases ends with opening | last | ⟨stop, below, rfl, second⟩
          · exact .inl ((List.mem_append.mp opening).resolve_left brace)
          · exact .inr (.inl last)
          · exact .inr (.inr ⟨stop, below, rfl, fun alone => second ⟨first, alone⟩⟩)
        rw [if_neg (by simpa using brace), ih later ends, List.takeWhile_append_of_pos all,
          List.foldl_append, readWith, List.takeWhile_eq_self_iff.mpr all]

theorem read_outside {c : Char} (plain : c ∉ ("():" : Text)) {r : Reading} (outer : r.depth = 0)
    (base : r.derived = false) : r.read c = r := by
  simp at plain
  simp [Reading.read, plain, outer, Reading.addOuter, base]

theorem foldl_outside {s : Text} (plain : ∀ c ∈ s, c ∉ ("():" : Text)) {r : Reading}
    (outer : r.depth = 0) (base : r.derived = false) : s.foldl Reading.read r = r := by
  induction s with
  | nil => rfl
  | cons c s ih =>
      obtain ⟨here, later⟩ := List.forall_mem_cons.mp plain
      rw [List.foldl_cons, read_outside here outer base, ih later]

theorem read_opening {r : Reading} (outer : 0 ≤ r.depth) (base : r.derived = false) :
    r.read '(' = { r with constructor := r.constructor ++ ['('], depth := r.depth + 1 } := by
  have inner : 0 < r.depth + 1 := by omega
  simp [Reading.read, Reading.addInner, base, inner]

theorem read_closing {r : Reading} (base : r.derived = false) :
    r.read ')' = { r with constructor := r.constructor ++ [')'], depth := r.depth - 1 } := by
  simp [Reading.read, Reading.addInner, base]

theorem read_inside {c : Char} (opening : c ≠ '(') (closing : c ≠ ')') {r : Reading}
    (inner : 0 < r.depth) (base : r.derived = false) :
    r.read c = { r with constructor := r.constructor ++ [c] } := by
  have deep : r.depth ≠ 0 := by omega
  simp [Reading.read, Reading.addInner, opening, closing, deep, inner, base]

theorem foldl_nested {inside : Bool} {s : Text} (nested : Domain.Nested inside s) {r : Reading}
    (inner : 0 < r.depth) (base : r.derived = false) :
    s.foldl Reading.read r = { r with constructor := r.constructor ++ s } := by
  induction nested generalizing r with
  | nil => simp
  | @plain _ c s unmarked _ ih =>
      have opening : c ≠ '(' := by
        rintro rfl
        cases unmarked
      have closing : c ≠ ')' := by
        rintro rfl
        cases unmarked
      rw [List.foldl_cons, read_inside opening closing inner base, ih]
      · simp
      · exact inner
      · exact base
  | comma _ ih =>
      rw [List.foldl_cons, read_inside (by decide) (by decide) inner base, ih]
      · simp
      · exact inner
      · exact base
  | bracketed kind _ _ ihInner ihRest =>
      rw [List.foldl_cons, List.foldl_append, List.foldl_cons]
      cases kind with
      | round =>
          have deeper : 0 < r.depth + 1 := by omega
          simp only [Domain.Bracket.opening, Domain.Bracket.closing]
          rw [read_opening (Int.le_of_lt inner) base, ihInner, read_closing, ihRest]
          · simp
          · simpa using inner
          · exact base
          · exact base
          · exact deeper
          · exact base
      | square | angle =>
          simp only [Domain.Bracket.opening, Domain.Bracket.closing]
          rw [read_inside (by decide) (by decide) inner base, ihInner,
            read_inside (by decide) (by decide), ihRest]
          · simp
          all_goals first | exact inner | exact base

theorem read_derived (c : Char) {r : Reading} (derived : r.derived = true) :
    (r.read c).derived = true ∧ (r.read c).constructor = r.constructor := by
  have colon : (if r.depth == 0 && c == ':' then { r with derived := true } else r) = r := by
    split
    · cases r
      cases derived
      rfl
    · rfl
  unfold Reading.read Reading.addInner Reading.addOuter
  simp only [colon]
  split
  · simp [derived]
  · split <;> split <;> simp [derived]
    all_goals split <;> simp [derived]

theorem constructor_derived (s : Text) {r : Reading} (derived : r.derived = true) :
    (s.foldl Reading.read r).constructor = r.constructor := by
  induction s generalizing r with
  | nil => rfl
  | cons c s ih =>
      obtain ⟨still, same⟩ := read_derived c derived
      rw [List.foldl_cons, ih still, same]

theorem read_colon {r : Reading} (outer : r.depth = 0) :
    (r.read ':').derived = true ∧ (r.read ':').constructor = r.constructor := by
  have step : r.read ':' = ({ r with derived := true } : Reading).addOuter ':' := by
    simp [Reading.read, outer]
  rw [step]
  unfold Reading.addOuter
  split <;> exact ⟨rfl, rfl⟩

theorem constructor_outside {s : Text} (plain : ∀ c ∈ s.takeWhile (· != ':'), c ≠ '(' ∧ c ≠ ')')
    {r : Reading} (outer : r.depth = 0) (base : r.derived = false) :
    (s.foldl Reading.read r).constructor = r.constructor := by
  induction s with
  | nil => rfl
  | cons c s ih =>
      rw [List.foldl_cons]
      by_cases colon : c = ':'
      · subst colon
        obtain ⟨derived, same⟩ := read_colon outer
        rw [constructor_derived s derived, same]
      · have kept : (c :: s).takeWhile (· != ':') = c :: s.takeWhile (· != ':') :=
          List.takeWhile_cons_of_pos (by simpa using colon)
        rw [kept] at plain
        obtain ⟨⟨opening, closing⟩, later⟩ := List.forall_mem_cons.mp plain
        rw [read_outside (by simp [opening, closing, colon]) outer base, ih later]

/-- The constructor of a header is what stands between the first parentheses, if no colon comes
before them. -/
theorem constructor_ofLines {lines after : List Text} {front list rest : Text}
    (alone : Alone {} 0 lines) (ends : EndsHeader {} 0 lines after)
    (written : headerText lines = front ++ '(' :: (list ++ ')' :: rest))
    (plainFront : ∀ c ∈ front, c ∉ ("():\x7b" : Text)) (nested : Domain.Nested true list)
    (unbraced : '{' ∉ list)
    (plainRest : ∀ c ∈ (rest.takeWhile (· != '{')).takeWhile (· != ':'), c ≠ '(' ∧ c ≠ ')') :
    (ClassHeader.ofLines (lines ++ after)).constructor = '(' :: (list ++ [')']) := by
  have noBrace : ∀ c ∈ front ++ '(' :: (list ++ [')']), (c != '{') = true := by
    intro c member
    rw [bne_iff_ne]
    rintro rfl
    simp only [List.mem_append, List.mem_cons, List.not_mem_nil, or_false] at member
    rcases member with before | opening | inside | closing
    · exact plainFront '{' before (by decide)
    · cases opening
    · exact unbraced inside
    · cases closing
  have text : (headerText lines).takeWhile (· != '{') =
      front ++ '(' :: (list ++ ')' :: rest.takeWhile (· != '{')) := by
    have parts : headerText lines = (front ++ '(' :: (list ++ [')'])) ++ rest := by
      simp [written]
    rw [parts, List.takeWhile_append_of_pos noBrace]
    simp
  have marks : ("():" : Text) ⊆ ("():\x7b" : Text) := by decide
  have before : front.foldl Reading.read {} = {} :=
    foldl_outside (fun c member marked => plainFront c member (marks marked)) rfl rfl
  have opened : Reading.read {} '(' = { constructor := ['('], depth := 1 } := rfl
  have inner : list.foldl Reading.read { constructor := ['('], depth := 1 } =
      { constructor := '(' :: list, depth := 1 } := foldl_nested nested (by decide) rfl
  have closed : Reading.read { constructor := '(' :: list, depth := 1 } ')' =
      { constructor := '(' :: (list ++ [')']), depth := 0 } := read_closing rfl
  rw [ClassHeader.ofLines, constructor_readLines alone ends, text, List.foldl_append, before,
    List.foldl_cons, opened, List.foldl_append, inner, List.foldl_cons, closed,
    constructor_outside plainRest rfl rfl]

end KotlinDoc.Proofs
