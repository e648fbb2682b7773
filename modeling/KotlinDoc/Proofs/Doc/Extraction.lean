import KotlinDoc.Proofs.Doc.Block
import KotlinDoc.Proofs.Text.Cutting
import KotlinDoc.Source.Lines

namespace KotlinDoc.Proofs

def docAt (lines : List Text) (line : Int) : List Text :=
  DocComment.above (Lines.before lines (line + 1)).reverse

theorem docAt_last (lines below : List Text) :
    docAt (lines ++ below) (lines.length - 1) = DocComment.above lines.reverse := by
  unfold docAt Lines.before
  simp

theorem endsWith_closing_append {margin s : Text} (blank : Blanks margin) (filled : s ≠ []) :
    Text.endsWith DocComment.closing (margin ++ s) = Text.endsWith DocComment.closing s := by
  obtain ⟨front, c, rfl⟩ := (List.eq_nil_or_concat' s).resolve_left filled
  have star : '*' ∉ margin := notMem_of_blanks blank (by decide)
  unfold Text.endsWith List.isSuffixOf DocComment.closing
  rcases List.eq_nil_or_concat' front with rfl | ⟨front, d, rfl⟩
  · rcases List.eq_nil_or_concat' margin with rfl | ⟨margin, d, rfl⟩
    · rfl
    · have other : d ≠ '*' := by
        rintro rfl
        simp at star
      simp [List.isPrefixOf, other.symm]
  · simp [List.isPrefixOf]

theorem endsWith_trim (line : Text) :
    Text.endsWith DocComment.closing (Text.trimRight line) =
      Text.endsWith DocComment.closing (Text.trim line) := by
  by_cases empty : Text.trim line = []
  · have blank : Text.trimRight line = [] := by
      obtain ⟨before, after, blank, blank', written⟩ := exists_blanks_trim line
      rw [written, empty, List.append_nil, trimRight_append _ blank', trimRight_eq_nil blank]
    rw [blank, empty]
  · obtain ⟨margin, blank, written⟩ := exists_margin empty
    rw [written, endsWith_closing_append blank empty]

theorem strip?_annotation {line : Text} (marked : Text.startsWith "@" (Text.trim line) = true)
    (unclosed : Text.endsWith DocComment.closing (Text.trim line) = false) :
    DocComment.strip? line = some ⟨Text.trimRight line, false, false⟩ := by
  obtain ⟨t, trimmed⟩ : ['@'] <+: Text.trim line := List.isPrefixOf_iff_prefix.mp marked
  have right : Text.trim (Text.trimRight line) = '@' :: t := by
    rw [trim_trimRight, ← trimmed]
    rfl
  obtain ⟨noDoc, noComment⟩ := uncommented_of_trim right (by decide)
  rw [← endsWith_trim] at unclosed
  simp [DocComment.strip?, unclosed, noDoc, noComment]

theorem collect_annotations {annotations : List Text}
    (annotated : ∀ line ∈ annotations, Text.startsWith "@" (Text.trim line) = true ∧
      Text.endsWith DocComment.closing (Text.trim line) = false) (inside : Bool)
    (found above : List Text) :
    DocComment.collect inside found (annotations ++ above) =
      DocComment.collect inside found above := by
  induction annotations with
  | nil => rfl
  | cons line annotations ih =>
      obtain ⟨⟨marked, unclosed⟩, later⟩ := List.forall_mem_cons.mp annotated
      rw [List.cons_append, DocComment.collect, strip?_annotation marked unclosed]
      simp only [Bool.or_false, trim_trimRight, marked, if_true]
      exact ih later

/-- Below a documentation block and any annotations, the lines of the block are extracted and
nothing else. -/
theorem documentation_extracted (before below : List Text) {opening closing : Text}
    {body annotations : List Text} (opens : Text.trim opening = "/**")
    (starred : ∀ line ∈ body, Starred line ∧ Text.endsWith "*/" (Text.trim line) = false)
    (closes : Text.trim closing = "*/")
    (annotated : ∀ line ∈ annotations, Text.startsWith "@" (Text.trim line) = true ∧
      Text.endsWith "*/" (Text.trim line) = false) :
    docAt (before ++ opening :: (body ++ closing :: annotations) ++ below)
        ((before ++ opening :: (body ++ closing :: annotations)).length - 1) =
      body.map Text.trimRight ++ [(Text.trimRight closing).rdrop 2] := by
  obtain ⟨margin, blank, ended⟩ := exists_margin (s := closing) (by rw [closes]; decide)
  let block : DocBlock :=
    { opening := opening
      stars := body
      closing := closing
      before := margin
      opens := opens
      starred := fun line member => ⟨(starred line member).1, by
        rw [endsWith_trim]
        exact (starred line member).2⟩
      closes := by rw [ended, closes]; rfl
      margin := .inl blank }
  have order : (before ++ opening :: (body ++ closing :: annotations)).reverse =
      annotations.reverse ++ (block.lines.reverse ++ before.reverse) := by
    simp [block, DocBlock.lines]
  have cut : (Text.trimRight closing).rdrop 2 = margin := by
    rw [ended, closes]
    simp [List.rdrop]
  rw [docAt_last, order, cut]
  unfold DocComment.above
  rw [collect_annotations fun line member => annotated line (List.mem_reverse.mp member)]
  exact above_block block before.reverse

theorem documentation_extracted_annotated :
    docAt ["val a = 1".toList, "  /**\n".toList, "   * Adds.  \n".toList, "   *\n".toList,
        "   */ \n".toList, "  @JvmStatic\n".toList, "  fun add()".toList] 5 =
      ["   * Adds.".toList, "   *".toList, "   ".toList] := by
  have starred : ∀ line ∈ ["   * Adds.  \n".toList, "   *\n".toList],
      Starred line ∧ Text.endsWith "*/" (Text.trim line) = false := by decide
  have annotated : ∀ line ∈ ["  @JvmStatic\n".toList], Text.startsWith "@" (Text.trim line) = true ∧
      Text.endsWith "*/" (Text.trim line) = false := by decide
  have extracted := documentation_extracted ["val a = 1".toList] ["  fun add()".toList]
    (show Text.trim "  /**\n" = "/**" by decide) starred (show Text.trim "   */ \n" = "*/" by decide)
    annotated
  exact extracted

/-- The lines of a comment: it starts on the first and ends on the last, and nowhere else in it does
a comment start or end. -/
structure BlockComment where
  first : Text
  rest : List Text
  starts : Text.startsWith "/*" (Text.trim first) = true
  ends : Text.endsWith "*/" (Text.trimRight (rest.getLastD first)) = true
  opensOnce : Text.occurrences "/*" first = 1
  unopened : ∀ line ∈ rest, Text.occurrences "/*" line = 0
  closesOnce : Text.occurrences "*/" (rest.getLastD first) = 1
  unclosed : ∀ line ∈ (first :: rest).dropLast, Text.occurrences "*/" line = 0

def unended (line : Text) : Text :=
  if Text.endsWith DocComment.closing (Text.trimRight line) then (Text.trimRight line).rdrop 2
  else Text.trimRight line

theorem strip?_eq (line : Text) :
    DocComment.strip? line =
      match Text.after? DocComment.opening (Text.trim (unended line)) with
      | some text => some ⟨text, Text.endsWith DocComment.closing (Text.trimRight line), true⟩
      | none =>
        if Text.startsWith "/*" (unended line) then none
        else some ⟨unended line, Text.endsWith DocComment.closing (Text.trimRight line), false⟩ :=
  rfl

namespace BlockComment

def lines (comment : BlockComment) : List Text :=
  comment.first :: comment.rest

def Documents (comment : BlockComment) : Prop :=
  Text.startsWith "/**" (Text.trim comment.first) = true

/-- No tag stands right after the start of documentation, and no blank before that of another
comment. -/
structure Bounded (comment : BlockComment) : Prop where
  untagged : ∀ text ∈ Text.after? "/**" (Text.trim (unended comment.first)),
    Text.startsWith "@" (Text.trim text) = false
  flush : Text.after? "/**" (Text.trim (unended comment.first)) = none →
    Text.startsWith "/*" (unended comment.first) = true

instance (comment : BlockComment) : Decidable comment.Documents :=
  inferInstanceAs (Decidable (_ = _))

instance (comment : BlockComment) : Decidable comment.Bounded :=
  decidable_of_iff
    ((∀ text ∈ Text.after? "/**" (Text.trim (unended comment.first)),
        Text.startsWith "@" (Text.trim text) = false) ∧
      (Text.after? "/**" (Text.trim (unended comment.first)) = none →
        Text.startsWith "/*" (unended comment.first) = true))
    ⟨fun h => ⟨h.1, h.2⟩, fun h => ⟨h.untagged, h.flush⟩⟩

end BlockComment

theorem isPrefix_unended (line : Text) : unended line <+: Text.trimRight line := by
  unfold unended
  split
  · exact List.take_prefix _ _
  · exact List.prefix_rfl

theorem strip?_within {line : Text} (unopened : ¬ ['/', '*'] <:+: line) :
    DocComment.strip? line =
      some ⟨unended line, Text.endsWith DocComment.closing (Text.trimRight line), false⟩ := by
  have front : unended line <+: line := (isPrefix_unended line).trans (isPrefix_trimRight line)
  have noDoc : Text.after? DocComment.opening (Text.trim (unended line)) = none := by
    apply after?_eq_none
    by_contra opened
    have starts : ['/', '*', '*'] <+: Text.trim (unended line) :=
      List.isPrefixOf_iff_prefix.mp (eq_true_of_ne_false opened)
    have opening : ['/', '*'] <+: ['/', '*', '*'] := by simp
    exact unopened ((opening.trans starts).isInfix.trans
      ((isInfix_trim _).trans front.isInfix))
  have noComment : Text.startsWith "/*" (unended line) = false := by
    by_contra opened
    have starts : ['/', '*'] <+: unended line :=
      List.isPrefixOf_iff_prefix.mp (eq_true_of_ne_false opened)
    exact unopened (starts.trans front).isInfix
  rw [strip?_eq, noDoc, noComment]
  rfl

theorem collect_within {lines : List Text} (unopened : ∀ line ∈ lines, ¬ ['/', '*'] <:+: line)
    (found : List Text) :
    ∃ found', ∀ above, DocComment.collect true found (lines ++ above) =
      DocComment.collect true found' above := by
  induction lines generalizing found with
  | nil => exact ⟨found, fun _ => rfl⟩
  | cons line lines ih =>
      obtain ⟨here, later⟩ := List.forall_mem_cons.mp unopened
      by_cases tagged : Text.startsWith "@" (Text.trim (unended line)) = true
      · obtain ⟨found', same⟩ := ih later found
        refine ⟨found', fun above => ?_⟩
        rw [List.cons_append, DocComment.collect, strip?_within here]
        simp only [tagged, if_true, Bool.true_or]
        exact same above
      · obtain ⟨found', same⟩ := ih later (unended line :: found)
        refine ⟨found', fun above => ?_⟩
        rw [List.cons_append, DocComment.collect, strip?_within here]
        simp only [tagged, if_false, Bool.true_or, Bool.not_true, Bool.false_eq_true]
        exact same above

theorem above_closing {line : Text} (unopened : ¬ ['/', '*'] <:+: line)
    (ends : Text.endsWith DocComment.closing (Text.trimRight line) = true) :
    ∃ found, ∀ above, DocComment.above (line :: above) = DocComment.collect true found above := by
  unfold DocComment.above
  simp only [DocComment.collect, strip?_within unopened, ends, Bool.false_or, Bool.not_true,
    Bool.false_eq_true, if_false]
  split
  · exact ⟨[], fun _ => rfl⟩
  · exact ⟨_, fun _ => rfl⟩

namespace BlockComment

variable (comment : BlockComment)

theorem opened : ['/', '*'] <+: Text.trim comment.first :=
  List.isPrefixOf_iff_prefix.mp comment.starts

theorem exists_collect_first :
    ∃ inside found,
      (inside || Text.endsWith DocComment.closing (Text.trimRight comment.first)) = true ∧
      ∀ above, DocComment.above (comment.lines.reverse ++ above) =
        DocComment.collect inside found (comment.first :: above) := by
  have ends := comment.ends
  have unopened : ∀ line ∈ comment.rest, ¬ ['/', '*'] <:+: line := fun line member =>
    (occurrences_eq_zero_iff (by decide)).mp (comment.unopened line member)
  unfold lines
  rcases List.eq_nil_or_concat' comment.rest with empty | ⟨rest, last, filled⟩
  · rw [empty] at ends ⊢
    exact ⟨false, [], ends, fun _ => rfl⟩
  · rw [filled] at ends unopened ⊢
    rw [List.getLastD_concat] at ends
    have others : ∀ line ∈ rest.reverse, ¬ ['/', '*'] <:+: line := fun line member =>
      unopened line (List.mem_append_left _ (List.mem_reverse.mp member))
    obtain ⟨kept, last_read⟩ := above_closing (unopened last (by simp)) ends
    obtain ⟨found, rest_read⟩ := collect_within others kept
    refine ⟨true, found, rfl, fun above => ?_⟩
    rw [← rest_read, ← last_read]
    simp

theorem unannotated : Text.startsWith "@" (Text.trim (unended comment.first)) = false := by
  by_contra annotated
  have starts : ['@'] <+: Text.trim comment.first := by
    apply isPrefix_trim_of_solid (by decide) (by simp [isBlank])
      ((isPrefix_unended _).trans (isPrefix_trimRight comment.first))
    exact List.isPrefixOf_iff_prefix.mp (eq_true_of_ne_false annotated)
  obtain ⟨t, written⟩ := starts
  have opened := comment.opened
  rw [← written] at opened
  simp at opened

theorem after?_of_plain (plain : ¬ comment.Documents) :
    Text.after? "/**" (Text.trim (unended comment.first)) = none := by
  apply after?_eq_none
  by_contra opened
  apply plain
  apply List.isPrefixOf_iff_prefix.mpr
  apply isPrefix_trim_of_solid (by decide) (by simp [isBlank])
    ((isPrefix_unended _).trans (isPrefix_trimRight comment.first))
  exact List.isPrefixOf_iff_prefix.mp (eq_true_of_ne_false opened)

section

variable {inside : Bool} (found : List Text)
  (entered : (inside || Text.endsWith DocComment.closing (Text.trimRight comment.first)) = true)

include entered

theorem collect_bounded (bounded : comment.Bounded) :
    ∃ found', (¬ comment.Documents → found' = []) ∧
      ∀ above, DocComment.collect inside found (comment.first :: above) = found' := by
  simp only [DocComment.collect, strip?_eq]
  cases documented : Text.after? DocComment.opening (Text.trim (unended comment.first)) with
  | some text =>
      have untagged := bounded.untagged text documented
      refine ⟨if text.isEmpty then found else text :: found, fun plain => ?_, fun above => ?_⟩
      · cases documented.symm.trans (comment.after?_of_plain plain)
      · simp only [untagged, entered, Bool.false_eq_true, if_false, Bool.not_true, if_true]
  | none =>
      have flush := bounded.flush documented
      exact ⟨[], fun _ => rfl, fun above => by simp only [flush, if_true]⟩

theorem collect_unbounded (unbounded : ¬ comment.Bounded) :
    ∃ found', (¬ comment.Documents → found' ≠ []) ∧
      ∀ above, DocComment.collect inside found (comment.first :: above) =
        DocComment.collect true found' above := by
  simp only [DocComment.collect, strip?_eq]
  cases documented : Text.after? DocComment.opening (Text.trim (unended comment.first)) with
  | some text =>
      have tagged : Text.startsWith "@" (Text.trim text) = true := by
        by_contra untagged
        refine unbounded ⟨fun other written => ?_, fun plain => ?_⟩
        · obtain rfl : text = other := Option.some.inj (documented.symm.trans written)
          exact eq_false_of_ne_true untagged
        · cases documented.symm.trans plain
      refine ⟨found, fun plain => ?_, fun above => ?_⟩
      · cases documented.symm.trans (comment.after?_of_plain plain)
      · simp only [tagged, entered, if_true]
  | none =>
      have indented : Text.startsWith "/*" (unended comment.first) = false := by
        by_contra flush
        refine unbounded ⟨fun text written => ?_, fun _ => eq_true_of_ne_false flush⟩
        cases documented.symm.trans written
      refine ⟨unended comment.first :: found, fun _ => List.cons_ne_nil _ _, fun above => ?_⟩
      simp only [indented, comment.unannotated, entered, Bool.false_eq_true, if_false, Bool.not_true]

end

end BlockComment

def docBelow (lines : List Text) : List Text :=
  docAt lines (lines.length - 1)

theorem docBelow_append (above lines : List Text) :
    docBelow (above ++ lines) = DocComment.above (lines.reverse ++ above.reverse) := by
  have whole := docAt_last (above ++ lines) []
  rw [List.append_nil, List.reverse_append] at whole
  exact whole

/-- What is above a comment has no part in the documentation below it just if the comment is
bounded. A comment that is no documentation gives none just if it is. -/
theorem comment_bounds_documentation_iff (comment : BlockComment) :
    ((∀ above above' : List Text,
        docBelow (above ++ comment.lines) = docBelow (above' ++ comment.lines)) ↔
      comment.Bounded) ∧
    (¬ comment.Documents →
      ((∀ above : List Text, docBelow (above ++ comment.lines) = []) ↔ comment.Bounded)) := by
  obtain ⟨inside, found, entered, read⟩ := comment.exists_collect_first
  simp only [docBelow_append, read]
  by_cases bounded : comment.Bounded
  · obtain ⟨result, plain, same⟩ := comment.collect_bounded found entered bounded
    refine ⟨iff_of_true (fun above above' => ?_) bounded,
      fun other => iff_of_true (fun above => ?_) bounded⟩
    · rw [same, same]
    · rw [same, plain other]
  · obtain ⟨found', plain, goes⟩ := comment.collect_unbounded found entered bounded
    simp only [goes, bounded, iff_false]
    refine ⟨fun same => ?_, fun other empty => plain other (empty [])⟩
    have longer : DocComment.collect true found' ["x"] = "x".toList :: found' := rfl
    have shorter : DocComment.collect true found' [] = found' := rfl
    have equal := same [] ["x"]
    rw [List.reverse_nil, List.reverse_singleton, shorter, longer] at equal
    simpa using congrArg List.length equal

/-- Blanks before the start of a comment, or a tag right after that of documentation, let the lines
above in. Tags on other lines do not. -/
theorem comment_bounds_documentation_iff_tagged :
    (∃ comment : BlockComment, comment.lines = ["  /** Adds.".toList, "   * @return all */".toList] ∧
      ∀ above above' : List Text,
        docBelow (above ++ comment.lines) = docBelow (above' ++ comment.lines)) ∧
    (∃ comment : BlockComment, comment.lines = ["/** @return all".toList, " */".toList] ∧
      ¬ ∀ above above' : List Text,
        docBelow (above ++ comment.lines) = docBelow (above' ++ comment.lines)) ∧
    ∃ comment : BlockComment, comment.lines = ["  /* plain */".toList] ∧
      ¬ ∀ above : List Text, docBelow (above ++ comment.lines) = [] := by
  refine ⟨?_, ?_, ?_⟩
  · let comment : BlockComment := ⟨"  /** Adds.", ["   * @return all */".toList], by decide, by decide,
      by decide, by decide, by decide, by decide⟩
    exact ⟨comment, rfl, (comment_bounds_documentation_iff comment).1.mpr (by decide)⟩
  · let comment : BlockComment := ⟨"/** @return all", [" */".toList], by decide, by decide, by decide,
      by decide, by decide, by decide⟩
    exact ⟨comment, rfl, mt (comment_bounds_documentation_iff comment).1.mp (by decide)⟩
  · let comment : BlockComment := ⟨"  /* plain */", [], by decide, by decide, by decide, by decide,
      by decide, by decide⟩
    exact ⟨comment, rfl, mt ((comment_bounds_documentation_iff comment).2 (by decide)).mp (by decide)⟩

end KotlinDoc.Proofs
