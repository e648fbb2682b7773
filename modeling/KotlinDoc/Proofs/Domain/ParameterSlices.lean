import KotlinDoc.Proofs.Domain.Nesting
import KotlinDoc.Proofs.Traversal

namespace KotlinDoc.Proofs.Domain

def Bracket.excess (kind : Bracket) (s : Text) : Int :=
  (s.count kind.opening : Int) - (s.count kind.closing : Int)

def OuterComma (s : Text) (position : Nat) : Prop :=
  s[position]? = some ',' ∧ Bracket.square.excess (s.take position) = 0 ∧
    Bracket.round.excess (s.take position) = 0 ∧ Bracket.angle.excess (s.take position) = 0

instance (s : Text) (position : Nat) : Decidable (OuterComma s position) :=
  inferInstanceAs (Decidable (_ ∧ _ ∧ _ ∧ _))

def outerCommas (s : Text) : List Nat :=
  (List.range s.length).filter fun position => OuterComma s position

/-- The parts of a text from `start` on, up to and between the stops. The characters at the stops
belong to none of them. -/
def slicesFrom (s : Text) (start : Nat) : List Nat → List Text
  | [] => [s.drop start]
  | stop :: stops => (s.take stop).drop start :: slicesFrom s (stop + 1) stops

def tally (s : Text) : Brackets :=
  ⟨Bracket.square.excess s, Bracket.round.excess s, Bracket.angle.excess s⟩

theorem balanced_tally (s : Text) :
    (tally s).balanced = true ↔ Bracket.square.excess s = 0 ∧ Bracket.round.excess s = 0 ∧
      Bracket.angle.excess s = 0 := by
  simp [Brackets.balanced, tally, and_assoc]

theorem Bracket.excess_append (kind : Bracket) (s t : Text) :
    kind.excess (s ++ t) = kind.excess s + kind.excess t := by
  simp only [excess, List.count_append]
  omega

theorem Bracket.excess_unmarked (kind : Bracket) {c : Char} (unmarked : isMark c = false) :
    kind.excess [c] = 0 := by
  have opening : c ≠ kind.opening := by
    rintro rfl
    cases kind <;> cases unmarked
  have closing : c ≠ kind.closing := by
    rintro rfl
    cases kind <;> cases unmarked
  simp [excess, opening, closing]

theorem read_tally (s : Text) (c : Char) : (tally s).read c = tally (s ++ [c]) := by
  cases marked : isMark c with
  | false =>
      rw [read_unmarked _ marked]
      simp [tally, Bracket.excess_append, Bracket.excess_unmarked _ marked]
  | true =>
      have mark : c = '[' ∨ c = ']' ∨ c = '(' ∨ c = ')' ∨ c = '<' ∨ c = '>' ∨ c = ',' := by
        simpa [isMark] using marked
      simp only [tally, Bracket.excess_append]
      rcases mark with rfl | rfl | rfl | rfl | rfl | rfl | rfl <;>
        simp [Brackets.read, Bracket.excess, Bracket.opening, Bracket.closing, Int.sub_eq_add_neg]

def laterCommas (before s : Text) : List Nat :=
  (List.range s.length).filter fun position =>
    OuterComma (before ++ s) (before.length + position)

theorem laterCommas_cons (before : Text) (c : Char) (s : Text) :
    laterCommas before (c :: s) =
      (if c = ',' ∧ (tally before).balanced = true then [0] else []) ++
        (laterCommas (before ++ [c]) s).map (· + 1) := by
  have first : OuterComma (before ++ c :: s) (before.length + 0) ↔
      c = ',' ∧ (tally before).balanced = true := by
    simp [OuterComma, balanced_tally]
  have later (position : Nat) : OuterComma (before ++ c :: s) (before.length + (position + 1)) ↔
      OuterComma (before ++ [c] ++ s) ((before ++ [c]).length + position) := by
    rw [List.append_assoc, List.singleton_append, List.length_append, List.length_singleton,
      Nat.add_right_comm, Nat.add_assoc]
  unfold laterCommas
  rw [List.length_cons, List.range_succ_eq_map, List.filter_cons, List.filter_map]
  simp only [Function.comp_def, Nat.succ_eq_add_one, first, later, decide_eq_true_eq]
  split <;> rfl

theorem slicesFrom_cons_succ (c : Char) (s : Text) (start : Nat) (stops : List Nat) :
    slicesFrom (c :: s) (start + 1) (stops.map (· + 1)) = slicesFrom s start stops := by
  induction stops generalizing start with
  | nil => rfl
  | cons stop stops ih =>
      rw [List.map_cons, slicesFrom, slicesFrom, ih]
      rfl

theorem slicesFrom_cons_zero (c : Char) (s : Text) (stops : List Nat) :
    slicesFrom (c :: s) 0 (stops.map (· + 1)) = onto [c] (slicesFrom s 0 stops) := by
  cases stops with
  | nil => rfl
  | cons stop stops =>
      rw [List.map_cons, slicesFrom, slicesFrom, slicesFrom_cons_succ]
      rfl

theorem piecesFrom_tally (before s : Text) :
    Parameter.piecesFrom (tally before) s = slicesFrom s 0 (laterCommas before s) := by
  induction s generalizing before with
  | nil => rfl
  | cons c s ih =>
      -- a comma leaves the tally as it is, so it does not matter which side of it is counted
      have same : (c = ',' ∧ (tally (before ++ [c])).balanced = true) ↔
          (c = ',' ∧ (tally before).balanced = true) := by
        refine and_congr_right fun comma => ?_
        rw [← read_tally, comma]
        rfl
      rw [piecesFrom_cons, read_tally, ih, laterCommas_cons]
      by_cases cut : c = ',' ∧ (tally before).balanced = true
      · rw [if_pos (same.mpr cut), if_pos cut, List.singleton_append, slicesFrom,
          slicesFrom_cons_succ]
        rfl
      · rw [if_neg (mt same.mp cut), if_neg cut, List.nil_append, slicesFrom_cons_zero]

theorem pieces_eq_slicesFrom (s : Text) : Parameter.pieces s = slicesFrom s 0 (outerCommas s) := by
  have all : laterCommas [] s = outerCommas s := by simp [laterCommas, outerCommas]
  rw [← all]
  exact piecesFrom_tally [] s

theorem joined_onto (separator s : Text) (pieces : List Text) :
    Text.joined separator (onto s pieces) = s ++ Text.joined separator pieces := by
  cases pieces with
  | nil => simp [onto, Text.joined]
  | cons piece pieces => simp [onto, joined_cons]

theorem joined_piecesFrom (b : Brackets) (s : Text) :
    Text.joined "," (Parameter.piecesFrom b s) = s := by
  induction s generalizing b with
  | nil => rfl
  | cons c s ih =>
      rw [piecesFrom_cons]
      split
      · rename_i cut
        obtain ⟨rfl, -⟩ := cut
        have front := joined_append "," (List.cons_ne_nil [] []) (piecesFrom_ne_nil (b.read ',') s)
        rw [ih] at front
        exact front
      · rw [joined_onto, ih]
        rfl

/-- The name stands before the first colon. If an equals sign follows the colon, the last one stands
between the type and the default value; else all that follows is the type. -/
inductive Declares : Text → Parameter → Prop where
  | typed {name type : Text} (first : ':' ∉ name) (plain : '=' ∉ type) :
      Declares (name ++ ':' :: type) ⟨Text.trim name, Text.trim type, none⟩
  | defaulted {name type default : Text} (first : ':' ∉ name) (last : '=' ∉ default) :
      Declares (name ++ ':' :: (type ++ '=' :: default))
        ⟨Text.trim name, Text.trim type, some (Text.trim default)⟩

theorem ofPiece?_of_declares {piece : Text} {parameter : Parameter}
    (declares : Declares piece parameter) : Parameter.ofPiece? piece = some parameter := by
  cases declares with
  | typed first plain =>
      unfold Parameter.ofPiece?
      rw [cutFirst_append first]
      dsimp only
      rw [cutLast_of_notMem plain]
      rfl
  | defaulted first last =>
      unfold Parameter.ofPiece?
      rw [cutFirst_append first]
      dsimp only
      rw [cutLast_append _ last]
      rfl

theorem exists_declares {piece : Text} (colon : ':' ∈ piece) :
    ∃ parameter, Declares piece parameter := by
  obtain ⟨name, rest, rfl, first⟩ := List.eq_append_cons_of_mem colon
  by_cases equals : '=' ∈ rest
  · obtain ⟨type, default, rfl, last⟩ := eq_append_cons_of_mem_last equals
    exact ⟨_, .defaulted first last⟩
  · exact ⟨_, .typed first equals⟩

theorem ofPiece?_eq_none_iff (piece : Text) : Parameter.ofPiece? piece = none ↔ ':' ∉ piece := by
  constructor
  · intro unread colon
    obtain ⟨parameter, declares⟩ := exists_declares colon
    rw [ofPiece?_of_declares declares] at unread
    cases unread
  · intro absent
    rw [Parameter.ofPiece?, cutFirst_of_notMem absent]

theorem colon_mem_of_ofPiece? {piece : Text} {parameter : Parameter}
    (read : Parameter.ofPiece? piece = some parameter) : ':' ∈ piece := by
  by_contra absent
  rw [(ofPiece?_eq_none_iff piece).mpr absent] at read
  cases read

theorem ofPiece?_eq_some_iff (piece : Text) (parameter : Parameter) :
    Parameter.ofPiece? piece = some parameter ↔ Declares piece parameter := by
  refine ⟨fun read => ?_, ofPiece?_of_declares⟩
  obtain ⟨other, declares⟩ := exists_declares (colon_mem_of_ofPiece? read)
  rw [ofPiece?_of_declares declares] at read
  exact Option.some.inj read ▸ declares

/-- A list is cut at the commas outside brackets and nowhere else, without loss. It is read exactly
if every piece has a colon, and then each piece is the parameter that it declares. -/
theorem list?_reads_outer_slices (s : Text) :
    Parameter.pieces s = slicesFrom s 0 (outerCommas s) ∧
      Text.joined "," (Parameter.pieces s) = s ∧
      (Parameter.list? s = none ↔ ∃ piece ∈ Parameter.pieces s, ':' ∉ piece) ∧
      ∀ parameters, Parameter.list? s = some parameters ↔
        List.Forall₂ Declares (Parameter.pieces s) parameters := by
  refine ⟨pieces_eq_slicesFrom s, joined_piecesFrom {} s, ?_, fun parameters => ?_⟩
  · simp only [Parameter.list?, mapM_eq_none_iff, ofPiece?_eq_none_iff]
  · simp only [Parameter.list?, mapM_eq_some_iff, ofPiece?_eq_some_iff]

/-- The arrow counts as a closing bracket, so here the comma of the generic type is the cut. -/
example : Parameter.pieces "f: (A) -> B, m: Map<C, D>" =
    ["f: (A) -> B, m: Map<C".toList, " D>".toList] := by
  decide

end KotlinDoc.Proofs.Domain
