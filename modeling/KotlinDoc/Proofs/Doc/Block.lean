import KotlinDoc.Doc.Comment
import KotlinDoc.Proofs.Text.Cutting
import KotlinDoc.Proofs.Text.Trimming
import Mathlib.Data.List.Induction

namespace KotlinDoc.Proofs

def Starred (s : Text) : Prop :=
  Text.startsWith "*" (Text.trim s) = true

instance (s : Text) : Decidable (Starred s) :=
  inferInstanceAs (Decidable (_ = _))

structure DocBlock where
  opening : Text
  stars : List Text
  closing : Text
  before : Text
  opens : Text.trim opening = "/**"
  starred : ∀ line ∈ stars,
    Starred line ∧ Text.endsWith DocComment.closing (Text.trimRight line) = false
  closes : Text.trimRight closing = before ++ DocComment.closing
  margin : Blanks before ∨ Starred before

namespace DocBlock

def lines (block : DocBlock) : List Text :=
  block.opening :: (block.stars ++ [block.closing])

def docstring (block : DocBlock) : List Text :=
  block.stars.map Text.trimRight ++ [block.before]

end DocBlock

theorem trim_of_starred {s : Text} (starred : Starred s) : ∃ t, Text.trim s = '*' :: t := by
  unfold Starred Text.startsWith at starred
  cases trimmed : Text.trim s with
  | nil => simp [trimmed] at starred
  | cons c t =>
      obtain rfl : '*' = c := by simpa [trimmed, List.isPrefixOf] using starred
      exact ⟨t, rfl⟩

structure Inner (s : Text) : Prop where
  noDoc : Text.after? DocComment.opening (Text.trim s) = none
  noComment : Text.startsWith ['/', '*'] s = false
  unannotated : Text.startsWith ['@'] (Text.trim s) = false

theorem uncommented_of_trim {s t : Text} {c : Char} (trimmed : Text.trim s = c :: t) (other : c ≠ '/') :
    Text.after? DocComment.opening (Text.trim s) = none ∧ Text.startsWith ['/', '*'] s = false := by
  constructor
  · simp [trimmed, DocComment.opening, Text.after?, List.isPrefixOf?, other.symm]
  · cases s with
    | nil => rfl
    | cons d s =>
        by_contra opened
        obtain ⟨rfl, -⟩ : '/' = d ∧ _ := by
          simpa [Text.startsWith, List.isPrefixOf] using opened
        rw [trim_cons (by decide)] at trimmed
        exact other (List.cons.inj trimmed).1.symm

theorem inner_of_starred {s : Text} (starred : Starred s) : Inner s := by
  obtain ⟨t, trimmed⟩ := trim_of_starred starred
  obtain ⟨noDoc, noComment⟩ := uncommented_of_trim trimmed (by decide)
  exact ⟨noDoc, noComment, by simp [trimmed, Text.startsWith, List.isPrefixOf]⟩

theorem inner_trimRight {s : Text} (starred : Starred s) : Inner (Text.trimRight s) := by
  apply inner_of_starred
  unfold Starred
  rwa [trim_trimRight]

theorem inner_of_blanks {s : Text} (blank : Blanks s) : Inner s := by
  have trimmed := trim_eq_nil blank
  refine ⟨by rw [trimmed]; rfl, ?_, by rw [trimmed]; rfl⟩
  cases s with
  | nil => rfl
  | cons c s =>
      have solid : '/' ≠ c := by
        rintro rfl
        have := blank '/' List.mem_cons_self
        simp [isBlank] at this
      simp [Text.startsWith, List.isPrefixOf, solid]

theorem strip?_star {line : Text} (starred : Starred line)
    (open_ : Text.endsWith DocComment.closing (Text.trimRight line) = false) :
    DocComment.strip? line = some ⟨Text.trimRight line, false, false⟩ := by
  have inner := inner_trimRight starred
  simp [DocComment.strip?, open_, inner.noDoc, inner.noComment]

theorem inner_before (block : DocBlock) : Inner block.before := by
  rcases block.margin with blank | starred
  · exact inner_of_blanks blank
  · exact inner_of_starred starred

theorem strip?_closing (block : DocBlock) :
    DocComment.strip? block.closing = some ⟨block.before, true, false⟩ := by
  have inner := inner_before block
  have ends : Text.endsWith DocComment.closing (block.before ++ DocComment.closing) = true := by
    simp [Text.endsWith]
  have cut : (block.before ++ DocComment.closing).take
      ((block.before ++ DocComment.closing).length - DocComment.closing.length) = block.before := by
    simp
  unfold DocComment.strip?
  simp only [block.closes, ends, if_true, cut, inner.noDoc]
  simp [inner.noComment]

theorem strip?_opening (block : DocBlock) :
    DocComment.strip? block.opening = some ⟨[], false, true⟩ := by
  obtain ⟨before, after, -, blank, written⟩ := exists_blanks_trim block.opening
  rw [block.opens] at written
  have trimmed : Text.trimRight block.opening = before ++ ['/', '*', '*'] := by
    rw [written, trimRight_append _ blank]
    have star : isBlank '*' = false := by decide
    simpa using trimRight_concat (before ++ ['/', '*']) star
  have same : Text.trim (Text.trimRight block.opening) = "/**" := by
    rw [trim_trimRight, block.opens]
  have ends : Text.endsWith DocComment.closing (Text.trimRight block.opening) = false := by
    rw [trimmed, Text.endsWith, List.isSuffixOf, List.reverse_append]
    rfl
  have opened : Text.after? DocComment.opening "/**" = some [] := by decide
  unfold DocComment.strip?
  simp only [ends, Bool.false_eq_true, if_false, same, opened]

theorem collect_stars (stars above found : List Text)
    (starred : ∀ line ∈ stars,
      Starred line ∧ Text.endsWith DocComment.closing (Text.trimRight line) = false) :
    DocComment.collect true found (stars.reverse ++ above) =
      DocComment.collect true (stars.map Text.trimRight ++ found) above := by
  -- The last line is the nearest one, so it is read first.
  induction stars using List.reverseRecOn generalizing found with
  | nil => rfl
  | append_singleton stars line ih =>
      obtain ⟨star, open_⟩ := starred line (by simp)
      have rest := ih (Text.trimRight line :: found) fun other member =>
        starred other (List.mem_append_left _ member)
      have inner := inner_trimRight star
      rw [List.reverse_append, List.append_assoc]
      simp only [List.reverse_singleton, List.singleton_append, DocComment.collect,
        strip?_star star open_]
      simpa [inner.unannotated] using rest

theorem above_block (block : DocBlock) (above : List Text) :
    DocComment.above (block.lines.reverse ++ above) = block.docstring := by
  have order : block.lines.reverse ++ above =
      block.closing :: (block.stars.reverse ++ block.opening :: above) := by
    simp [DocBlock.lines]
  have last : DocComment.collect false [] (block.closing ::
      (block.stars.reverse ++ block.opening :: above)) =
      DocComment.collect true [block.before] (block.stars.reverse ++ block.opening :: above) := by
    rw [DocComment.collect, strip?_closing]
    simp [(inner_before block).unannotated]
  have first (found : List Text) :
      DocComment.collect true found (block.opening :: above) = found := by
    rw [DocComment.collect, strip?_opening]
    simp [Text.startsWith, Text.trim, Text.trimLeft, Text.trimRight]
  unfold DocComment.above
  rw [order, last, collect_stars _ _ _ block.starred, first]
  rfl

theorem collect_unannotated {inside : Bool} {found lines : List Text}
    (unannotated : ∀ line ∈ found, Text.startsWith ['@'] (Text.trim line) = false) :
    ∀ line ∈ DocComment.collect inside found lines,
      Text.startsWith ['@'] (Text.trim line) = false := by
  induction lines generalizing inside found with
  | nil => exact unannotated
  | cons first lines ih =>
      rw [DocComment.collect]
      split
      · exact fun line member => absurd member List.not_mem_nil
      · rename_i stripped _
        dsimp only
        split
        · exact ih unannotated
        · rename_i plain
          have added : ∀ line ∈ stripped.text :: found,
              Text.startsWith ['@'] (Text.trim line) = false :=
            List.forall_mem_cons.mpr ⟨eq_false_of_ne_true plain, unannotated⟩
          split
          · exact unannotated
          · split
            · split
              · exact unannotated
              · exact added
            · exact ih added

theorem above_unannotated (lines : List Text) :
    ∀ line ∈ DocComment.above lines, Text.startsWith ['@'] (Text.trim line) = false :=
  collect_unannotated nofun

def Detached (above : List Text) : Prop :=
  ∀ line ∈ above.head?,
    Text.endsWith DocComment.closing (Text.trimRight line) = false ∧
      Text.startsWith DocComment.opening (Text.trim line) = false ∧
        Text.startsWith "@" (Text.trim line) = false

instance (above : List Text) : Decidable (Detached above) :=
  inferInstanceAs (Decidable (∀ line ∈ above.head?, _ ∧ _ ∧ _))

theorem above_detached {above : List Text} (detached : Detached above) :
    DocComment.above above = [] := by
  cases above with
  | nil => rfl
  | cons line above =>
      obtain ⟨open_, noDoc, unannotated⟩ := detached line rfl
      have stripped : DocComment.strip? line =
          if Text.startsWith "/*" (Text.trimRight line) then none
          else some ⟨Text.trimRight line, false, false⟩ := by
        simp only [DocComment.strip?, open_, Bool.false_eq_true, if_false, trim_trimRight,
          after?_eq_none noDoc]
      rw [DocComment.above, DocComment.collect, stripped]
      by_cases comment : Text.startsWith "/*" (Text.trimRight line) = true
      · rw [if_pos comment]
      · rw [if_neg comment]
        simp only [trim_trimRight, unannotated]
        rfl

end KotlinDoc.Proofs
