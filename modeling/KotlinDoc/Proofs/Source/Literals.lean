import KotlinDoc.Index.Member
import KotlinDoc.Proofs.Source.LineComments

namespace KotlinDoc.Proofs

inductive LiteralPart where
  | plain (c : Char) (noQuote : c ≠ '"') (noBackslash : c ≠ '\\') (single : c ≠ '\n')
  | escaped (c : Char) (single : c ≠ '\n')

def LiteralPart.text : LiteralPart → Text
  | .plain c _ _ _ => [c]
  | .escaped c _ => ['\\', c]

def quotedLiteral (parts : List LiteralPart) : Text :=
  '"' :: (parts.flatMap LiteralPart.text ++ ['"'])

theorem closingQuote?_parts (parts : List LiteralPart) (s : Text) :
    Span.closingQuote? (parts.flatMap LiteralPart.text ++ '"' :: s) =
      some ((parts.flatMap LiteralPart.text).length + 1) := by
  induction parts with
  | nil => rfl
  | cons part parts ih =>
      rw [List.flatMap_cons]
      cases part with
      | plain c noQuote noBackslash =>
          simp [LiteralPart.text, Span.closingQuote?, noBackslash, ih]
      | escaped c single =>
          simp [LiteralPart.text, Span.closingQuote?, ih, single]

theorem literal?_quoted (parts : List LiteralPart) (s : Text) :
    Span.literal? (quotedLiteral parts ++ s) = some (quotedLiteral parts).length := by
  have inner := closingQuote?_parts parts s
  simp [quotedLiteral, Span.literal?, inner]

def lineComment (s : Text) : Text :=
  '/' :: '/' :: ' ' :: s

inductive LineEnd : Text → Prop where
  | plain {ending : Text} (ends : ending = [] ∨ ending = ['\n']) : LineEnd ending
  | comment {s ending : Text} (noQuote : '"' ∉ s) (single : '\n' ∉ s)
      (ends : ending = [] ∨ ending = ['\n']) : LineEnd (lineComment s ++ ending)

theorem lineComment?_cons {c : Char} (other : c ≠ '/') (s : Text) :
    Span.lineComment? (c :: s) = none := by
  have none : Text.after? "// " (c :: s) = none := by
    apply after?_eq_none
    simp [Text.startsWith, List.isPrefixOf, other.symm]
  unfold Span.lineComment?
  rw [none]

theorem lineComment?_comment {s ending : Text} (single : '\n' ∉ s)
    (ends : ending = [] ∨ ending = ['\n']) :
    Span.lineComment? (lineComment s ++ ending) = some (lineComment s).length := by
  have after : Text.after? "// " (lineComment s ++ ending) = some (s ++ ending) :=
    List.isPrefixOf?_eq_some_iff_append_eq.mpr rfl
  have first : Text.firstLine (s ++ ending) = s := by
    refine takeWhile_append_stop (fun c member => bne_iff_ne.mpr ?_) ?_
    · rintro rfl
      exact single member
    · rcases ends with rfl | rfl <;> simp
  have short : ending.length ≤ 1 := by
    rcases ends with rfl | rfl <;> decide
  unfold Span.lineComment?
  rw [after]
  dsimp only
  rw [first, List.drop_left, if_pos short]
  rfl

theorem remove_lineComment_append {front s ending : Text} (noSlash : '/' ∉ front) (single : '\n' ∉ s)
    (ends : ending = [] ∨ ending = ['\n']) :
    Span.remove Span.lineComment? (front ++ (lineComment s ++ ending)) = front ++ ending := by
  have kept : Span.remove Span.lineComment? ending = ending := by
    rcases ends with rfl | rfl <;> rfl
  rw [remove_append lineComment?_cons noSlash,
    remove_span (lineComment?_comment single ends) (List.cons_ne_nil _ _), kept]

/-- Block comments are taken out of a line comment too, which leaves a line comment. -/
theorem remove_blockComment_lineComment {front s ending : Text} (noSlash : '/' ∉ front)
    (blank : Blanks ending) :
    Span.remove Span.blockComment? (front ++ (lineComment s ++ ending)) =
      front ++ (lineComment (Span.remove Span.blockComment? s) ++ ending) := by
  have start (rest : Text) : Span.remove Span.blockComment? (lineComment rest) =
      lineComment (Span.remove Span.blockComment? rest) := rfl
  have whole : lineComment s ++ ending = lineComment (s ++ ending) := rfl
  have inner : Span.remove Span.blockComment? (s ++ ending) =
      Span.remove Span.blockComment? s ++ ending := removeAfter_append blank (Nat.zero_le _)
  rw [remove_append blockComment?_cons noSlash, whole, start, inner]
  rfl

namespace LineEnd

variable {tail : Text} (ended : LineEnd tail)

include ended

theorem noQuote : '"' ∉ tail := by
  cases ended with
  | plain ends => rcases ends with rfl | rfl <;> decide
  | comment noQuote _ ends => rcases ends with rfl | rfl <;> simp [lineComment, noQuote]

theorem remove_eq {front : Text} (noSlash : '/' ∉ front) :
    ∃ ending, (ending = [] ∨ ending = ['\n']) ∧
      Span.remove Span.lineComment? (Span.remove Span.blockComment? (front ++ tail)) =
        front ++ ending := by
  cases ended with
  | plain ends =>
      have noSlash' : '/' ∉ front ++ tail := by
        rcases ends with rfl | rfl <;> simp [noSlash]
      refine ⟨tail, ends, ?_⟩
      rw [remove_blockComment_of_notMem noSlash', remove_of_notMem lineComment?_cons noSlash']
  | @comment s ending _ single ends =>
      have blank : Blanks ending := by
        rcases ends with rfl | rfl <;> decide
      have single' : '\n' ∉ Span.remove Span.blockComment? s :=
        fun member => single ((removeAfter_sublist _ _ _).subset member)
      refine ⟨ending, ends, ?_⟩
      rw [remove_blockComment_lineComment noSlash blank,
        remove_lineComment_append noSlash single' ends]

end LineEnd

/-- A line of code with string literals in it. The pieces around the literals have no quotes,
slashes and newlines. -/
structure LiteralLine where
  first : Text
  more : List (List LiteralPart × Text)
  tail : Text
  plain : ∀ s ∈ first :: more.map Prod.snd, Enclosable s
  ended : LineEnd tail

namespace LiteralLine

variable (line : LiteralLine)

def text : Text :=
  line.first ++ line.more.flatMap (fun piece => quotedLiteral piece.1 ++ piece.2) ++ line.tail

def code : Text :=
  line.first ++ line.more.flatMap Prod.snd

theorem noSlash_code : '/' ∉ line.code := by
  obtain ⟨first, more⟩ := List.forall_mem_cons.mp line.plain
  unfold code
  rw [List.mem_append, List.mem_flatMap]
  rintro (here | ⟨piece, member, later⟩)
  · exact first.noSlash here
  · exact (more piece.2 (List.mem_map_of_mem member)).noSlash later

theorem remove_pieces {tail : Text} (noQuote : '"' ∉ tail) {more : List (List LiteralPart × Text)}
    (plain : ∀ s ∈ more.map Prod.snd, Enclosable s) :
    Span.remove Span.literal?
        (more.flatMap (fun piece => quotedLiteral piece.1 ++ piece.2) ++ tail) =
      more.flatMap Prod.snd ++ tail := by
  induction more with
  | nil => exact remove_of_notMem literal?_cons noQuote
  | cons piece more ih =>
      obtain ⟨here, later⟩ := List.forall_mem_cons.mp plain
      simp only [List.flatMap_cons, List.append_assoc]
      rw [remove_span (literal?_quoted _ _) (List.cons_ne_nil _ _),
        remove_append literal?_cons here.noQuote, ih later]

theorem remove_literals : Span.remove Span.literal? line.text = line.code ++ line.tail := by
  obtain ⟨first, more⟩ := List.forall_mem_cons.mp line.plain
  unfold text code
  rw [List.append_assoc, remove_append literal?_cons first.noQuote,
    remove_pieces line.ended.noQuote more, List.append_assoc]

theorem exists_code_eq :
    ∃ ending, (ending = [] ∨ ending = ['\n']) ∧ Source.code line.text = line.code ++ ending := by
  unfold Source.code
  rw [line.remove_literals]
  exact line.ended.remove_eq line.noSlash_code

theorem code_eq_nil (commented : Source.isCommentLine line.text = true) : line.code = [] := by
  have slash : line.text.head? = some '/' := by
    obtain ⟨rest, written⟩ := List.isPrefixOf_iff_prefix.mp commented
    rw [← written]
    rfl
  obtain ⟨first, -⟩ := List.forall_mem_cons.mp line.plain
  unfold text at slash
  unfold code
  cases written : line.first with
  | cons c s =>
      obtain rfl : c = '/' := by simpa [written] using slash
      exact absurd (written ▸ List.mem_cons_self) first.noSlash
  | nil =>
      cases pieces : line.more with
      | nil => rfl
      | cons piece more => simp [written, pieces, quotedLiteral] at slash

theorem excess_eq {opening closing : Char} (openingSolid : opening ≠ '\n')
    (closingSolid : closing ≠ '\n') :
    Source.excess opening closing line.text =
      (line.code.count opening : Int) - line.code.count closing := by
  unfold Source.excess
  split
  · rename_i commented
    rw [line.code_eq_nil commented]
    rfl
  · obtain ⟨ending, ends, code⟩ := line.exists_code_eq
    have count {c : Char} (solid : c ≠ '\n') : (line.code ++ ending).count c = line.code.count c := by
      rcases ends with rfl | rfl <;> simp [solid.symm]
    rw [code, count openingSolid, count closingSolid]

end LiteralLine

/-- Braces and parentheses count just outside of string literals and a comment at the end of the
line, whatever stands in these. -/
theorem literals_uncounted (line : LiteralLine) :
    (∀ nesting : Member.Nesting, (nesting.after line.text).braces =
      nesting.braces + ((line.code.count '{' : Int) - line.code.count '}')) ∧
    Source.braceExcess line.text = (line.code.count '{' : Int) - line.code.count '}' ∧
    Source.parenExcess line.text = (line.code.count '(' : Int) - line.code.count ')' := by
  have braces : Source.braceExcess line.text = (line.code.count '{' : Int) - line.code.count '}' :=
    line.excess_eq (by decide) (by decide)
  exact ⟨fun nesting => congrArg (nesting.braces + ·) braces, braces,
    line.excess_eq (by decide) (by decide)⟩

theorem literals_uncounted_escaped :
    Source.braceExcess "run \x7b f(\"\x7d\\\"\x7d\" + \"/* (\") // \x7d */\n" = 1 ∧
      Source.parenExcess "run \x7b f(\"\x7d\\\"\x7d\" + \"/* (\") // \x7d */\n" = 0 := by
  let brace : LiteralPart := .plain '}' (by decide) (by decide) (by decide)
  let quote : LiteralPart := .escaped '"' (by decide)
  let opening : List LiteralPart := [.plain '/' (by decide) (by decide) (by decide),
    .plain '*' (by decide) (by decide) (by decide), .plain ' ' (by decide) (by decide) (by decide),
    .plain '(' (by decide) (by decide) (by decide)]
  let line : LiteralLine := ⟨"run \x7b f(", [([brace, quote, brace], " + "), (opening, ") ")],
    lineComment "\x7d */" ++ ['\n'], by decide, .comment (by decide) (by decide) (Or.inr rfl)⟩
  have written : "run \x7b f(\"\x7d\\\"\x7d\" + \"/* (\") // \x7d */\n".toList = line.text := rfl
  obtain ⟨-, braces, parens⟩ := literals_uncounted line
  rw [written]
  exact ⟨braces.trans (by decide), parens.trans (by decide)⟩

end KotlinDoc.Proofs
