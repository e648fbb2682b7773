import KotlinDoc.Proofs.Text.Trimming
import KotlinDoc.Source.Span
import Mathlib.Data.List.Infix

namespace KotlinDoc.Proofs

theorem remove_eq_self {width? : Text → Option Nat} {s : Text}
    (none : ∀ t, t <:+ s → width? t = none) : Span.remove width? s = s := by
  unfold Span.remove
  induction s with
  | nil => rfl
  | cons c s ih =>
      have rest := ih fun t suffix => none t (suffix.trans (List.suffix_cons c s))
      rw [Span.removeAfter, none (c :: s) List.suffix_rfl]
      simp [rest]

theorem remove_append {width? : Text → Option Nat} {mark : Char}
    (starts : ∀ {c : Char}, c ≠ mark → ∀ s, width? (c :: s) = none) {front : Text}
    (absent : mark ∉ front) (s : Text) :
    Span.remove width? (front ++ s) = front ++ Span.remove width? s := by
  unfold Span.remove
  induction front with
  | nil => rfl
  | cons c front ih =>
      obtain ⟨other, later⟩ := List.ne_and_not_mem_of_not_mem_cons absent
      rw [List.cons_append, Span.removeAfter, starts other.symm]
      simp [ih later]

theorem remove_of_notMem {width? : Text → Option Nat} {mark : Char}
    (starts : ∀ {c : Char}, c ≠ mark → ∀ s, width? (c :: s) = none) {s : Text}
    (absent : mark ∉ s) : Span.remove width? s = s := by
  have whole := remove_append starts absent []
  rw [List.append_nil] at whole
  exact whole.trans (List.append_nil s)

theorem removeAfter_span (width? : Text → Option Nat) (span s : Text) :
    Span.removeAfter width? span.length (span ++ s) = Span.remove width? s := by
  induction span with
  | nil => rfl
  | cons c span ih => exact ih

theorem remove_span {width? : Text → Option Nat} {span s : Text}
    (found : width? (span ++ s) = some span.length) (filled : span ≠ []) :
    Span.remove width? (span ++ s) = Span.remove width? s := by
  obtain ⟨c, span, rfl⟩ := List.exists_cons_of_ne_nil filled
  rw [List.cons_append] at found ⊢
  rw [Span.remove, Span.removeAfter, found]
  exact removeAfter_span width? span s

theorem removeAfter_sublist (width? : Text → Option Nat) (skip : Nat) (s : Text) :
    (Span.removeAfter width? skip s).Sublist s := by
  induction s generalizing skip with
  | nil => rw [Span.removeAfter]
  | cons c s ih =>
      cases skip with
      | succ skip =>
          rw [Span.removeAfter]
          exact (ih skip).cons c
      | zero =>
          rw [Span.removeAfter]
          split
          · exact (ih _).cons c
          · exact (ih 0).cons_cons c

theorem code_sublist (line : Text) : (Source.code line).Sublist line :=
  (removeAfter_sublist _ _ _).trans ((removeAfter_sublist _ _ _).trans (removeAfter_sublist _ _ _))

theorem excess_eq_zero {opening closing : Char} {line : Text} (noOpening : opening ∉ line)
    (noClosing : closing ∉ line) : Source.excess opening closing line = 0 := by
  have inside := (code_sublist line).subset
  unfold Source.excess
  rw [List.count_eq_zero.mpr fun member => noOpening (inside member),
    List.count_eq_zero.mpr fun member => noClosing (inside member)]
  simp

structure PlainCode (line : Text) : Prop where
  noQuote : '"' ∉ line
  noBlock : ¬ ['/', '*'] <:+: line
  noSlashes : ¬ ['/', '/'] <:+: line

instance (line : Text) : Decidable (PlainCode line) :=
  decidable_of_iff ('"' ∉ line ∧ ¬ ['/', '*'] <:+: line ∧ ¬ ['/', '/'] <:+: line)
    ⟨fun h => ⟨h.1, h.2.1, h.2.2⟩, fun h => ⟨h.noQuote, h.noBlock, h.noSlashes⟩⟩

theorem isInfix_of_find? {pattern s : Text} {position : Nat}
    (found : Text.find? pattern s = some position) : pattern <:+: s := by
  induction s generalizing position with
  | nil =>
      rw [Text.find?] at found
      split at found
      · rename_i empty
        rw [List.isEmpty_iff.mp empty]
      · cases found
  | cons c s ih =>
      rw [Text.find?] at found
      split at found
      · rename_i here
        exact (List.isPrefixOf_iff_prefix.mp here).isInfix
      · obtain ⟨later, read, -⟩ := Option.map_eq_some_iff.mp found
        exact (ih read).trans (List.suffix_cons c s).isInfix

theorem has_iff_isInfix {pattern s : Text} : Text.has pattern s = true ↔ pattern <:+: s := by
  constructor
  · intro found
    obtain ⟨position, same⟩ := Option.isSome_iff_exists.mp found
    exact isInfix_of_find? same
  · intro inside
    unfold Text.has
    induction s with
    | nil => simp [Text.find?, List.infix_nil.mp inside]
    | cons c s ih =>
        rw [Text.find?]
        split
        · rfl
        · rename_i other
          rcases List.infix_cons_iff.mp inside with start | later
          · exact absurd (List.isPrefixOf_iff_prefix.mpr start) other
          · rw [Option.isSome_map]
            exact ih later

theorem count_trimRight {c : Char} (solid : isBlank c = false) (line : Text) :
    (Text.trimRight line).count c = line.count c := by
  have split : Text.trimRight line ++ List.rtakeWhile isBlank line = line :=
    List.rdropWhile_append_rtakeWhile
  have blank : Blanks (List.rtakeWhile isBlank line) := fun _ => List.mem_rtakeWhile_imp
  conv_rhs => rw [← split, List.count_append, List.count_eq_zero.mpr (notMem_of_blanks blank solid)]
  rfl

theorem infix_of_suffix_cons {s line : Text} {c d : Char} (inside : c :: d :: s <:+ line) :
    [c, d] <:+: line :=
  (List.prefix_append [c, d] s).isInfix.trans inside.isInfix

theorem literal?_cons {c : Char} (other : c ≠ '"') (s : Text) : Span.literal? (c :: s) = none := by
  unfold Span.literal?
  split
  · rename_i same
    cases same
    exact absurd rfl other
  · rfl

theorem remove_literal_of_notMem {line : Text} (noQuote : '"' ∉ line) :
    Span.remove Span.literal? line = line :=
  remove_of_notMem literal?_cons noQuote

namespace PlainCode

variable {line : Text} (plain : PlainCode line)

include plain

theorem of_isInfix {s : Text} (inside : s <:+: line) : PlainCode s where
  noQuote member := plain.noQuote (inside.subset member)
  noBlock block := plain.noBlock (block.trans inside)
  noSlashes slashes := plain.noSlashes (slashes.trans inside)

theorem trimRight : PlainCode (Text.trimRight line) :=
  plain.of_isInfix (isPrefix_trimRight line).isInfix

theorem remove_blockComment : Span.remove Span.blockComment? line = line := by
  refine remove_eq_self fun t inside => ?_
  unfold Span.blockComment?
  split
  · exact absurd (infix_of_suffix_cons inside) plain.noBlock
  · rfl

theorem remove_lineComment : Span.remove Span.lineComment? line = line := by
  refine remove_eq_self fun t inside => ?_
  unfold Span.lineComment?
  cases after : Text.after? "// " t with
  | none => rfl
  | some rest =>
      have whole : '/' :: '/' :: ' ' :: rest = t :=
        List.isPrefixOf?_eq_some_iff_append_eq.mp after
      exact absurd (infix_of_suffix_cons (whole ▸ inside)) plain.noSlashes

theorem code_eq : Source.code line = line := by
  unfold Source.code
  rw [remove_literal_of_notMem plain.noQuote, plain.remove_blockComment, plain.remove_lineComment]

theorem isCommentLine_eq : Source.isCommentLine line = false := by
  cases starts : Source.isCommentLine line with
  | false => rfl
  | true =>
      have slashes : ['/', '/'] <+: line := List.isPrefixOf_iff_prefix.mp starts
      exact absurd slashes.isInfix plain.noSlashes

theorem excess_eq (opening closing : Char) :
    Source.excess opening closing line = (line.count opening : Int) - line.count closing := by
  unfold Source.excess
  rw [plain.isCommentLine_eq, plain.code_eq]
  rfl

theorem braceExcess_eq :
    Source.braceExcess line = (line.count '{' : Int) - line.count '}' :=
  plain.excess_eq '{' '}'

theorem parenExcess_eq :
    Source.parenExcess line = (line.count '(' : Int) - line.count ')' :=
  plain.excess_eq '(' ')'

end PlainCode

theorem plainCode_of_notMem {line : Text} (noQuote : '"' ∉ line) (noSlash : '/' ∉ line) :
    PlainCode line :=
  ⟨noQuote, fun block => noSlash (block.subset List.mem_cons_self),
    fun slashes => noSlash (slashes.subset List.mem_cons_self)⟩

theorem excess_of_plain {line : Text} (noQuote : '"' ∉ line) (noSlash : '/' ∉ line)
    (opening closing : Char) :
    Source.excess opening closing line = (line.count opening : Int) - line.count closing :=
  (plainCode_of_notMem noQuote noSlash).excess_eq opening closing

def depthBefore (lines : List Text) (number : Nat) : Int :=
  ((lines.take number).flatten.count '{' : Int) - (lines.take number).flatten.count '}'

@[simp] theorem depthBefore_zero (lines : List Text) : depthBefore lines 0 = 0 :=
  rfl

theorem depthBefore_cons (line : Text) (lines : List Text) (number : Nat) :
    depthBefore (line :: lines) (number + 1) =
      (line.count '{' : Int) - line.count '}' + depthBefore lines number := by
  simp only [depthBefore, List.take_succ_cons, List.flatten_cons, List.count_append]
  push_cast
  omega

theorem depthBefore_succ {lines : List Text} {number : Nat} {line : Text}
    (here : lines[number]? = some line) :
    depthBefore lines (number + 1) =
      depthBefore lines number + ((line.count '{' : Int) - line.count '}') := by
  simp only [depthBefore, List.take_add_one, here, Option.toList_some, List.flatten_append,
    List.flatten_singleton, List.count_append]
  push_cast
  omega

end KotlinDoc.Proofs
