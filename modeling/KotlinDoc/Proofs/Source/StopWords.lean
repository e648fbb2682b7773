import KotlinDoc.Proofs.Source.PlainCode
import KotlinDoc.Proofs.Text.Spacing
import KotlinDoc.Source.StopWord

namespace KotlinDoc.Proofs

theorem lastClose?_blanks {blanks : Text} (blank : Blanks blanks) : Span.lastClose? blanks = none := by
  induction blanks with
  | nil => rfl
  | cons c blanks ih =>
      obtain ⟨here, later⟩ := List.forall_mem_cons.mp blank
      have star : c ≠ '*' := by
        rintro rfl
        cases here
      rw [Span.lastClose?, ih later]
      simp [Text.startsWith, List.isPrefixOf, star.symm]

theorem lastClose?_append {blanks : Text} (s : Text) (blank : Blanks blanks) :
    Span.lastClose? (s ++ blanks) = Span.lastClose? s := by
  induction s with
  | nil => exact lastClose?_blanks blank
  | cons c s ih =>
      have close : Text.startsWith "*/" (c :: (s ++ blanks)) = Text.startsWith "*/" (c :: s) := by
        cases s with
        | cons d s => rfl
        | nil =>
            cases blanks with
            | nil => rfl
            | cons d blanks =>
                have slash : d ≠ '/' := by
                  rintro rfl
                  cases blank '/' List.mem_cons_self
                simp [Text.startsWith, List.isPrefixOf, slash.symm]
      rw [List.cons_append, Span.lastClose?, Span.lastClose?, ih, close]

theorem lastClose?_le {s : Text} {width : Nat} (found : Span.lastClose? s = some width) :
    width ≤ s.length := by
  induction s generalizing width with
  | nil => cases found
  | cons c s ih =>
      rw [Span.lastClose?] at found
      split at found
      · cases found
      · split at found
        · rename_i later read
          cases found
          exact Nat.succ_le_succ (ih read)
        · split at found
          · rename_i close
            cases found
            exact (List.isPrefixOf_iff_prefix.mp close).length_le
          · cases found

theorem blockComment?_append {blanks s : Text} (filled : s ≠ []) (blank : Blanks blanks) :
    Span.blockComment? (s ++ blanks) = Span.blockComment? s := by
  match s, filled with
  | [c], _ =>
      have single : Span.blockComment? [c] = none := by simp [Span.blockComment?]
      cases blanks with
      | nil => rfl
      | cons d blanks =>
          have star : d ≠ '*' := by
            rintro rfl
            cases blank '*' List.mem_cons_self
          rw [single]
          unfold Span.blockComment?
          split
          · rename_i same
            cases same
            exact absurd rfl star
          · rfl
  | c :: d :: s, _ =>
      show Span.blockComment? (c :: d :: (s ++ blanks)) = _
      unfold Span.blockComment?
      split
      · rename_i same
        cases same
        simp [lastClose?_append s blank]
      · rename_i other
        split
        · rename_i same
          cases same
          exact absurd rfl (other _)
        · rfl

theorem blockComment?_le {s : Text} {width : Nat} (found : Span.blockComment? s = some width) :
    width ≤ s.length := by
  unfold Span.blockComment? at found
  split at found
  · obtain ⟨inner, close, rfl⟩ := Option.map_eq_some_iff.mp found
    have inside := lastClose?_le close
    simpa using inside
  · cases found

theorem blockComment?_cons {c : Char} (other : c ≠ '/') (s : Text) :
    Span.blockComment? (c :: s) = none := by
  unfold Span.blockComment?
  split
  · rename_i same
    cases same
    exact absurd rfl other
  · rfl

theorem remove_blanks {blanks : Text} (blank : Blanks blanks) (s : Text) :
    Span.remove Span.blockComment? (blanks ++ s) = blanks ++ Span.remove Span.blockComment? s :=
  remove_append blockComment?_cons (notMem_of_blanks blank (by decide)) s

theorem removeAfter_append {blanks : Text} (blank : Blanks blanks) {skip : Nat} {s : Text}
    (inside : skip ≤ s.length) :
    Span.removeAfter Span.blockComment? skip (s ++ blanks) =
      Span.removeAfter Span.blockComment? skip s ++ blanks := by
  induction s generalizing skip with
  | nil =>
      obtain rfl : skip = 0 := Nat.le_zero.mp inside
      have all := remove_blanks blank []
      rw [List.append_nil] at all
      rw [List.nil_append, Span.removeAfter, List.nil_append]
      exact all.trans (List.append_nil blanks)
  | cons c s ih =>
      cases skip with
      | succ skip =>
          simpa only [List.cons_append, Span.removeAfter] using ih (Nat.le_of_succ_le_succ inside)
      | zero =>
          have same := blockComment?_append (List.cons_ne_nil c s) blank
          rw [List.cons_append] at same ⊢
          rw [Span.removeAfter, Span.removeAfter, same]
          split
          · rename_i width found
            have bound := blockComment?_le found
            simp only [List.length_cons] at bound
            exact ih (by omega)
          · simp [ih (Nat.zero_le _)]

theorem spacedOnce_trim (line : Text) : Source.spacedOnce (Text.trim line) = Source.spacedOnce line := by
  obtain ⟨before, after, front, back, whole⟩ := exists_blanks_trim line
  unfold Source.spacedOnce
  conv_rhs =>
    rw [whole, Span.remove, removeAfter_append back (Nat.zero_le _), unspaced_append_right _ back,
      ← Span.remove, remove_blanks front, unspaced_append_left front]

theorem startsDeclaration_trim (line : Text) :
    Source.startsDeclaration (Text.trim line) = Source.startsDeclaration line := by
  unfold Source.startsDeclaration Source.hasStopWord
  rw [spacedOnce_trim]

theorem remove_blockComment_of_notMem {line : Text} (plain : '/' ∉ line) :
    Span.remove Span.blockComment? line = line :=
  remove_of_notMem blockComment?_cons plain

theorem hasStopWord_of_notMem {line : Text} (unspaced : ' ' ∉ Source.spacedOnce line) :
    Source.hasStopWord line = false := by
  apply List.any_eq_false.mpr
  intro word _
  rw [has_iff_isInfix]
  exact fun inside => unspaced (inside.subset (by simp))

theorem startsDeclaration_of_infix {fit : Char → Char → Prop} {line word : Text}
    (plain : '/' ∉ line) (spaced : Spaced fit line) (known : word ∈ Source.stopWords)
    (inside : word ++ [' '] <:+: line) : Source.startsDeclaration line = true := by
  have once : Source.spacedOnce line = line := by
    unfold Source.spacedOnce
    rw [remove_blockComment_of_notMem plain, spaced.unspaced_eq]
  have stops : Source.hasStopWord line = true := by
    unfold Source.hasStopWord
    rw [once]
    exact List.any_eq_true.mpr ⟨word, known, has_iff_isInfix.mpr inside⟩
  rw [Source.startsDeclaration, stops, Bool.true_or]

end KotlinDoc.Proofs
