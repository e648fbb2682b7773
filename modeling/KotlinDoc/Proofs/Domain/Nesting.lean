import KotlinDoc.Domain.Parameter
import KotlinDoc.Domain.Signature
import KotlinDoc.Proofs.Text.Cutting
import KotlinDoc.Proofs.Text.Parentheses

/-!
# Nested brackets

A nested text closes every bracket that it opens, in order, and has commas only within brackets. The
two scanners of signatures pass over such a text as a whole: the one that looks for the closing
parenthesis (`closing?_nested`), and the one that cuts at commas (`piecesFrom_nested`). So a list of
nested texts with commas between them is cut into just these texts (`pieces_joined`).

The first scanner tells only parentheses apart, so for it these alone have to be paired
(`closing?_append`, `cutParameters_paired`).
-/

namespace KotlinDoc.Proofs.Domain

inductive Bracket where
  | square
  | round
  | angle
deriving Repr, DecidableEq

namespace Bracket

def opening : Bracket → Char
  | .square => '['
  | .round => '('
  | .angle => '<'

def closing : Bracket → Char
  | .square => ']'
  | .round => ')'
  | .angle => '>'

end Bracket

def isMark (c : Char) : Bool :=
  ("[]()<>," : Text).contains c

/-- The text has proper brackets. Commas stand within brackets, or also outside them if the text
itself is `inside` brackets. -/
inductive Nested : Bool → Text → Prop where
  | nil (inside : Bool) : Nested inside []
  | plain {inside : Bool} {c : Char} {s : Text} (unmarked : isMark c = false)
      (rest : Nested inside s) : Nested inside (c :: s)
  | comma {s : Text} (rest : Nested true s) : Nested true (',' :: s)
  | bracketed {inside : Bool} {s t : Text} (kind : Bracket) (inner : Nested true s)
      (rest : Nested inside t) : Nested inside (kind.opening :: (s ++ kind.closing :: t))

namespace Nested

theorem of_unmarked {inside : Bool} {s : Text} (unmarked : ∀ c ∈ s, isMark c = false) :
    Nested inside s := by
  induction s with
  | nil => exact .nil inside
  | cons c s ih =>
      exact .plain (unmarked c List.mem_cons_self)
        (ih fun d member => unmarked d (List.mem_cons_of_mem _ member))

theorem append {inside : Bool} {s t : Text} (first : Nested inside s) (second : Nested inside t) :
    Nested inside (s ++ t) := by
  induction first with
  | nil => exact second
  | plain unmarked _ ih => exact .plain unmarked (ih second)
  | comma _ ih => exact .comma (ih second)
  | bracketed kind inner _ _ ih =>
      simpa using Nested.bracketed kind inner (ih second)

theorem enclosed {inside : Bool} (kind : Bracket) {s : Text} (inner : Nested true s) :
    Nested inside (kind.opening :: (s ++ [kind.closing])) :=
  .bracketed kind inner (.nil inside)

theorem within {inside : Bool} {s : Text} (nested : Nested inside s) : Nested true s := by
  induction nested with
  | nil => exact .nil true
  | plain unmarked _ ih => exact .plain unmarked ih
  | comma _ ih => exact .comma ih
  | bracketed kind inner _ _ ih => exact .bracketed kind inner ih

theorem joinedWith {separator : Text} (between : Nested true separator) {texts : List Text}
    (nested : ∀ s ∈ texts, Nested true s) : Nested true (Text.joined separator texts) := by
  induction texts with
  | nil => exact .nil true
  | cons first texts ih =>
      have head := nested first List.mem_cons_self
      cases texts with
      | nil => simpa [Text.joined] using head
      | cons second texts =>
          rw [joined_cons_cons]
          exact (head.append between).append
            (ih fun s member => nested s (List.mem_cons_of_mem _ member))

theorem joined {texts : List Text} (nested : ∀ s ∈ texts, Nested true s) :
    Nested true (Text.joined ", " texts) :=
  joinedWith (.comma (.plain rfl (.nil true))) nested

theorem paired {inside : Bool} {s : Text} (nested : Nested inside s) : Paired s := by
  have single {c : Char} (opening : '(' ≠ c) (closing : ')' ≠ c) : Paired [c] :=
    .of_notMem (by simpa using opening) (by simpa using closing)
  have other {s : Text} {c d : Char} (first : Paired [c]) (inner : Paired s) (last : Paired [d]) :
      Paired (c :: (s ++ [d])) :=
    first.append (inner.append last)
  induction nested with
  | nil => exact .of_notMem List.not_mem_nil List.not_mem_nil
  | plain unmarked _ ih =>
      refine (single ?_ ?_).append ih <;>
        (rintro rfl; cases unmarked)
  | comma _ ih => exact (single (by decide) (by decide)).append ih
  | @bracketed _ s t kind _ _ ihInner ihRest =>
      have inner : Paired (kind.opening :: (s ++ [kind.closing])) := by
        cases kind with
        | round => exact ihInner.enclosed
        | square => exact other (by decide) ihInner (by decide)
        | angle => exact other (by decide) ihInner (by decide)
      simpa using inner.append ihRest

theorem count_parens {inside : Bool} {s : Text} (nested : Nested inside s) :
    s.count '(' = s.count ')' := by
  have closed := nested.paired.closed
  unfold parenDepth at closed
  omega

end Nested

/-! ## The closing parenthesis -/

theorem closing?_cons (depth : Int) (c : Char) (s : Text) :
    Signature.closing? depth (c :: s) =
      if depth + parenDepth [c] = 0 then some 0
      else (Signature.closing? (depth + parenDepth [c]) s).map (· + 1) := by
  have after : (if c == '(' then depth + 1 else if c == ')' then depth - 1 else depth) =
      depth + parenDepth [c] := by
    by_cases opening : c = '('
    · subst opening
      rfl
    by_cases closing : c = ')'
    · subst closing
      rfl
    · have plain : parenDepth [c] = 0 :=
        parenDepth_of_notMem (by simpa using Ne.symm opening) (by simpa using Ne.symm closing)
      simp [opening, closing, plain]
  rw [Signature.closing?, after]
  simp only [beq_iff_eq]

theorem closing?_append {s : Text} {depth : Int}
    (inside : ∀ before, before <+: s → 0 < depth + parenDepth before) (rest : Text) :
    Signature.closing? depth (s ++ rest) =
      (Signature.closing? (depth + parenDepth s) rest).map (· + s.length) := by
  induction s generalizing depth with
  | nil => simp
  | cons c s ih =>
      have first : depth + parenDepth [c] ≠ 0 := by
        have positive := inside [c] (by simp)
        omega
      have later : ∀ before, before <+: s → 0 < depth + parenDepth [c] + parenDepth before := by
        intro before front
        have positive := inside (c :: before) (List.cons_prefix_cons.mpr ⟨rfl, front⟩)
        rw [parenDepth_cons] at positive
        omega
      rw [List.cons_append, closing?_cons, if_neg first, ih later, parenDepth_cons c s,
        Int.add_assoc, Option.map_map]
      rfl

theorem closing?_other {c : Char} (opening : c ≠ '(') (closing : c ≠ ')') {depth : Int}
    (inner : 0 < depth) (s : Text) :
    Signature.closing? depth (c :: s) = (Signature.closing? depth s).map (· + 1) := by
  have plain : parenDepth [c] = 0 :=
    parenDepth_of_notMem (by simpa using Ne.symm opening) (by simpa using Ne.symm closing)
  rw [closing?_cons, plain, Int.add_zero, if_neg (by omega)]

theorem closing?_nested {inside : Bool} {s : Text} (nested : Nested inside s) {depth : Int}
    (inner : 0 < depth) (rest : Text) :
    Signature.closing? depth (s ++ rest) =
      (Signature.closing? depth rest).map (· + s.length) := by
  rw [closing?_append, nested.paired.closed, Int.add_zero]
  intro before front
  have opened := nested.paired.opened before front
  omega

theorem cutParameters_paired {s : Text} (paired : Paired s) (rest : Text) :
    Signature.cutParameters ('(' :: (s ++ ')' :: rest)) = (s, rest) := by
  have inside : ∀ before, before <+: s → 0 < 1 + parenDepth before := by
    intro before front
    have opened := paired.opened before front
    omega
  have closed : Signature.closing? 0 ('(' :: (s ++ ')' :: rest)) = some (s.length + 1) := by
    have opening : (0 : Int) + parenDepth ['('] = 1 := rfl
    have closing : (1 : Int) + parenDepth [')'] = 0 := rfl
    rw [closing?_cons, opening, if_neg (by decide), closing?_append inside, paired.closed,
      Int.add_zero, closing?_cons, if_pos closing]
    simp
  unfold Signature.cutParameters
  rw [closed]
  simp

theorem cutParameters_nested {s : Text} (nested : Nested true s) (rest : Text) :
    Signature.cutParameters ('(' :: (s ++ ')' :: rest)) = (s, rest) :=
  cutParameters_paired nested.paired rest

/-! ## Commas outside brackets -/

def onto (s : Text) : List Text → List Text
  | [] => [s]
  | piece :: pieces => (s ++ piece) :: pieces

theorem onto_onto (s t : Text) (pieces : List Text) : onto s (onto t pieces) = onto (s ++ t) pieces := by
  cases pieces <;> simp [onto]

theorem piecesFrom_cons (b : Brackets) (c : Char) (s : Text) :
    Parameter.piecesFrom b (c :: s) =
      if c = ',' ∧ (b.read c).balanced then [] :: Parameter.piecesFrom (b.read c) s
      else onto [c] (Parameter.piecesFrom (b.read c) s) := by
  rw [Parameter.piecesFrom]
  simp only [Bool.and_eq_true, beq_iff_eq]
  split
  · rfl
  · cases Parameter.piecesFrom (b.read c) s <;> rfl

theorem onto_nil {pieces : List Text} (filled : pieces ≠ []) : onto [] pieces = pieces := by
  obtain ⟨piece, pieces, rfl⟩ := List.exists_cons_of_ne_nil filled
  rfl

theorem onto_ne_nil (s : Text) (pieces : List Text) : onto s pieces ≠ [] := by
  cases pieces <;> exact List.cons_ne_nil _ _

theorem piecesFrom_ne_nil (b : Brackets) (s : Text) : Parameter.piecesFrom b s ≠ [] := by
  cases s with
  | nil => exact List.cons_ne_nil _ _
  | cons c s =>
      rw [piecesFrom_cons]
      split
      · exact List.cons_ne_nil _ _
      · exact onto_ne_nil _ _

def Proper (b : Brackets) : Prop :=
  0 ≤ b.square ∧ 0 ≤ b.round ∧ 0 ≤ b.angle

theorem proper_opening {b : Brackets} (proper : Proper b) (kind : Bracket) :
    Proper (b.read kind.opening) := by
  obtain ⟨square, round, angle⟩ := proper
  cases kind <;> simp [Proper, Brackets.read, Bracket.opening] <;> omega

theorem unbalanced_opening {b : Brackets} (proper : Proper b) (kind : Bracket) :
    (b.read kind.opening).balanced = false := by
  obtain ⟨square, round, angle⟩ := proper
  cases kind <;> simp [Brackets.balanced, Brackets.read, Bracket.opening] <;> omega

theorem read_closing (b : Brackets) (kind : Bracket) :
    (b.read kind.opening).read kind.closing = b := by
  cases kind <;> simp [Brackets.read, Bracket.opening, Bracket.closing]

theorem read_unmarked (b : Brackets) {c : Char} (unmarked : isMark c = false) : b.read c = b := by
  simp [isMark] at unmarked
  simp [Brackets.read, unmarked]

theorem piecesFrom_nested {inside : Bool} {s : Text} (nested : Nested inside s) {b : Brackets}
    (proper : Proper b) (unbalanced : inside = true → b.balanced = false) (rest : Text) :
    Parameter.piecesFrom b (s ++ rest) = onto s (Parameter.piecesFrom b rest) := by
  induction nested generalizing b rest with
  | nil => exact (onto_nil (piecesFrom_ne_nil b rest)).symm
  | @plain _ c s unmarked _ ih =>
      have noComma : c ≠ ',' := by rintro rfl; simp [isMark] at unmarked
      rw [List.cons_append, piecesFrom_cons, if_neg (by simp [noComma]), read_unmarked b unmarked,
        ih proper unbalanced, onto_onto]
      rfl
  | comma _ ih =>
      have same : b.read ',' = b := rfl
      rw [List.cons_append, piecesFrom_cons, same, if_neg (by simp [unbalanced rfl]),
        ih proper unbalanced, onto_onto]
      rfl
  | @bracketed _ s t kind _ _ ihInner ihRest =>
      have opening : kind.opening ≠ ',' := by cases kind <;> decide
      have closing : kind.closing ≠ ',' := by cases kind <;> decide
      rw [List.cons_append, List.append_assoc, List.cons_append, piecesFrom_cons,
        if_neg (by simp [opening]),
        ihInner (proper_opening proper kind) (fun _ => unbalanced_opening proper kind),
        piecesFrom_cons, if_neg (by simp [closing]), read_closing, ihRest proper unbalanced]
      simp only [onto_onto, List.cons_append, List.nil_append]

theorem pieces_commas {first : Text} {texts : List Text}
    (nested : ∀ s ∈ first :: texts, Nested false s) :
    Parameter.pieces (Text.joined "," (first :: texts)) = first :: texts := by
  have proper : Proper {} := by simp [Proper]
  unfold Parameter.pieces
  induction texts generalizing first with
  | nil =>
      have single := piecesFrom_nested (nested first List.mem_cons_self) proper (by simp) []
      simpa [Text.joined, Parameter.piecesFrom, onto] using single
  | cons second texts ih =>
      have rest := ih fun s member => nested s (List.mem_cons_of_mem _ member)
      have separator : Parameter.piecesFrom {} (("," : Text) ++ Text.joined "," (second :: texts)) =
          [] :: second :: texts := by
        show Parameter.piecesFrom {} (',' :: Text.joined "," (second :: texts)) = _
        rw [piecesFrom_cons, if_pos ⟨rfl, rfl⟩]
        exact congrArg ([] :: ·) rest
      rw [joined_cons_cons, List.append_assoc,
        piecesFrom_nested (nested first List.mem_cons_self) proper (by simp), separator]
      simp [onto]

theorem pieces_joined {first : Text} {texts : List Text}
    (nested : ∀ s ∈ first :: texts, Nested false s) :
    Parameter.pieces (Text.joined ", " (first :: texts)) = first :: texts.map (' ' :: ·) := by
  have written : Text.joined ", " (first :: texts) =
      Text.joined "," (first :: texts.map (' ' :: ·)) := by
    simp [joined_cons, List.flatMap_map]
  obtain ⟨head, rest⟩ := List.forall_mem_cons.mp nested
  rw [written]
  apply pieces_commas
  refine List.forall_mem_cons.mpr ⟨head, fun s member => ?_⟩
  obtain ⟨t, there, rfl⟩ := List.mem_map.mp member
  exact .plain rfl (rest t there)

end KotlinDoc.Proofs.Domain
