import KotlinDoc.Proofs.Source.StopWords

namespace KotlinDoc.Proofs

def blockComment (inner : Text) : Text :=
  '/' :: '*' :: (inner ++ ['*', '/'])

def Enclosable (s : Text) : Prop :=
  ∀ c ∈ s, c ∉ ("\"/\n" : Text)

instance (s : Text) : Decidable (Enclosable s) :=
  decidable_of_iff (s.all (fun c => !("\"/\n" : Text).contains c) = true) (by simp [Enclosable])

inductive Remark : Text → Prop where
  | none : Remark []
  | comment {inner : Text} (enclosable : Enclosable inner) : Remark (blockComment inner)

theorem lastClose?_close {s : Text} (single : '\n' ∉ s) :
    Span.lastClose? (s ++ ['*', '/']) = some (s.length + 2) := by
  induction s with
  | nil => rfl
  | cons c s ih =>
      obtain ⟨here, later⟩ := List.ne_and_not_mem_of_not_mem_cons single
      simp [Span.lastClose?, ih later, here.symm]

theorem remove_blockComment_append {front inner : Text} (plain : '/' ∉ front) (single : '\n' ∉ inner) :
    Span.remove Span.blockComment? (front ++ blockComment inner) = front := by
  have whole : Span.blockComment? (blockComment inner ++ []) = some (blockComment inner).length := by
    simp [blockComment, Span.blockComment?, lastClose?_close single]
  have dropped := remove_span whole (List.cons_ne_nil _ _)
  rw [List.append_nil] at dropped
  rw [remove_append blockComment?_cons plain, dropped]
  exact List.append_nil front

theorem occurrences_append {c : Char} {pattern front : Text} (absent : c ∉ front) (rest : Text) :
    Text.occurrences (c :: pattern) (front ++ rest) = Text.occurrences (c :: pattern) rest := by
  induction front with
  | nil => rfl
  | cons d front ih =>
      obtain ⟨other, later⟩ := List.ne_and_not_mem_of_not_mem_cons absent
      simp [Text.occurrences, List.isPrefixOf, other, ih later]

theorem isPrefixOf_close {s : Text} (open_ : '/' ∉ s) (c : Char) :
    ['*', '/'].isPrefixOf (c :: (s ++ ['*', '/'])) = false := by
  cases s with
  | nil => simp [List.isPrefixOf]
  | cons d s =>
      have other := (List.ne_and_not_mem_of_not_mem_cons open_).1
      simp [List.isPrefixOf, other]

theorem occurrences_close {s : Text} (open_ : '/' ∉ s) :
    Text.occurrences ['*', '/'] (s ++ ['*', '/']) = 1 := by
  induction s with
  | nil => rfl
  | cons c s ih =>
      have later := (List.ne_and_not_mem_of_not_mem_cons open_).2
      rw [List.cons_append, Text.occurrences, isPrefixOf_close later, ih later]
      rfl

theorem find?_close {s : Text} (open_ : '/' ∉ s) :
    Text.find? ['*', '/'] (s ++ ['*', '/']) = some s.length := by
  induction s with
  | nil => rfl
  | cons c s ih =>
      have later := (List.ne_and_not_mem_of_not_mem_cons open_).2
      rw [List.cons_append, Text.find?, isPrefixOf_close later, ih later]
      rfl

namespace Enclosable

variable {s : Text} (enclosable : Enclosable s)

include enclosable

theorem noQuote : '"' ∉ s := fun member => enclosable _ member (by decide)

theorem noSlash : '/' ∉ s := fun member => enclosable _ member (by decide)

theorem single : '\n' ∉ s := fun member => enclosable _ member (by decide)

end Enclosable

namespace Remark

variable {front tail : Text} (remark : Remark tail)

include remark

theorem remove_eq (noSlash : '/' ∉ front) : Span.remove Span.blockComment? (front ++ tail) = front := by
  cases remark with
  | none => rw [List.append_nil, remove_blockComment_of_notMem noSlash]
  | comment enclosable => exact remove_blockComment_append noSlash enclosable.single

theorem spacedOnce_eq (noSlash : '/' ∉ front) :
    Source.spacedOnce (front ++ tail) = Text.unspaced " " front := by
  rw [Source.spacedOnce, remark.remove_eq noSlash]

theorem noQuote_append (noQuote : '"' ∉ front) : '"' ∉ front ++ tail := by
  cases remark with
  | none => simpa using noQuote
  | comment enclosable => simp [blockComment, noQuote, enclosable.noQuote]

theorem isCommentLine_eq (noSlash : '/' ∉ front) : Source.isCommentLine (front ++ tail) = false := by
  cases front with
  | nil =>
      cases remark with
      | none => rfl
      | comment => rfl
  | cons c front =>
      have other := (List.ne_and_not_mem_of_not_mem_cons noSlash).1
      simp [Source.isCommentLine, Text.startsWith, List.isPrefixOf, other]

theorem code_eq (noQuote : '"' ∉ front) (noSlash : '/' ∉ front) :
    Source.code (front ++ tail) = front := by
  have plain := (plainCode_of_notMem noQuote noSlash).remove_lineComment
  rw [Source.code, remove_literal_of_notMem (remark.noQuote_append noQuote),
    remark.remove_eq noSlash, plain]

theorem excess_eq (noQuote : '"' ∉ front) (noSlash : '/' ∉ front) (opening closing : Char) :
    Source.excess opening closing (front ++ tail) =
      (front.count opening : Int) - front.count closing := by
  rw [Source.excess, remark.isCommentLine_eq noSlash, remark.code_eq noQuote noSlash]
  rfl

theorem commentExcess_eq (noStar : '*' ∉ front) (noSlash : '/' ∉ front) :
    Source.commentExcess (front ++ tail) = 0 := by
  have opened : Text.occurrences ['/', '*'] (front ++ tail) = Text.occurrences ['/', '*'] tail :=
    occurrences_append noSlash tail
  have closed : Text.occurrences ['*', '/'] (front ++ tail) = Text.occurrences ['*', '/'] tail :=
    occurrences_append noStar tail
  have own : Text.occurrences ['/', '*'] tail = Text.occurrences ['*', '/'] tail := by
    cases remark with
    | none => rfl
    | @comment inner enclosable =>
        have noSlash : '/' ∉ '*' :: inner := by simp [enclosable.noSlash]
        -- The comment is split before its last slash to count starts, and after its first to count ends.
        have opening : blockComment inner = '/' :: ('*' :: inner ++ ['*'] ++ ['/']) := by
          simp [blockComment]
        have closing : blockComment inner = ['/'] ++ ('*' :: inner ++ ['*', '/']) := rfl
        conv_lhs => rw [opening, Text.occurrences, occurrences_append (by simpa using noSlash)]
        rw [closing, occurrences_append (by decide), occurrences_close noSlash]
        rfl
  have same : (Text.occurrences ['/', '*'] (front ++ tail) : Int) -
      Text.occurrences ['*', '/'] (front ++ tail) = 0 := by
    rw [opened, closed, own, Int.sub_self]
  exact same

theorem hasStopWord_eq {gap : Text} (solid : Solid front) (noSlash : '/' ∉ front) (blank : Blanks gap) :
    Source.hasStopWord (front ++ gap ++ tail) = false := by
  have noSlash' : '/' ∉ front ++ gap := by
    simp [noSlash, notMem_of_blanks blank (by decide : isBlank '/' = false)]
  -- What is left without the comment has no blank, and a stop word counts only with one after it.
  apply hasStopWord_of_notMem
  rw [remark.spacedOnce_eq noSlash', unspaced_append_right _ blank, unspaced_solid solid]
  intro member
  cases solid ' ' member

end Remark

end KotlinDoc.Proofs
