import KotlinDoc.Text.Blank
import KotlinDoc.Text.Word
import Mathlib.Data.List.DropRight

namespace KotlinDoc.Proofs

def Blanks (s : Text) : Prop :=
  ∀ c ∈ s, isBlank c = true

instance (s : Text) : Decidable (Blanks s) :=
  decidable_of_iff (s.all isBlank = true) List.all_eq_true

def blankPoints : List Nat :=
  [0x9, 0xA, 0xB, 0xC, 0xD, 0x1C, 0x1D, 0x1E, 0x1F, 0x20, 0x85, 0xA0, 0x1680, 0x2000, 0x2001, 0x2002,
   0x2003, 0x2004, 0x2005, 0x2006, 0x2007, 0x2008, 0x2009, 0x200A, 0x2028, 0x2029, 0x202F, 0x205F,
   0x3000]

theorem mem_blankPoints_of_le {low high point : Nat}
    (range : List.range' low (high + 1 - low) ⊆ blankPoints) (above : low ≤ point)
    (below : point ≤ high) : point ∈ blankPoints :=
  range (List.mem_range'_1.mpr ⟨above, by omega⟩)

theorem toNat_mem_of_isBlank {c : Char} (blank : isBlank c = true) : c.toNat ∈ blankPoints := by
  unfold isBlank inRanges wideBlanks at blank
  split at blank
  · simp only [Bool.or_eq_true, Bool.and_eq_true, decide_eq_true_eq] at blank
    rcases blank with ⟨above, below⟩ | ⟨above, below⟩
    all_goals exact mem_blankPoints_of_le (by decide) above below
  · simp only [List.any_cons, List.any_nil, Bool.or_false, Bool.or_eq_true, Bool.and_eq_true,
      decide_eq_true_eq] at blank
    rcases blank with ⟨above, below⟩ | ⟨above, below⟩ | ⟨above, below⟩ | ⟨above, below⟩ |
      ⟨above, below⟩ | ⟨above, below⟩ | ⟨above, below⟩ | ⟨above, below⟩
    all_goals exact mem_blankPoints_of_le (by decide) above below

theorem isWord_ofNat_blankPoints : ∀ n ∈ blankPoints, isWord (Char.ofNat n) = false := by
  decide +kernel

theorem isBlank_of_isWord {c : Char} (word : isWord c = true) : isBlank c = false := by
  by_contra blank
  have none := isWord_ofNat_blankPoints c.toNat (toNat_mem_of_isBlank (by simpa using blank))
  rw [Char.ofNat_toNat] at none
  rw [none] at word
  cases word

theorem notMem_of_blanks {s : Text} (blank : Blanks s) {c : Char} (solid : isBlank c = false) :
    c ∉ s := by
  intro member
  rw [blank c member] at solid
  cases solid

theorem trimLeft_append {blanks : Text} (blank : Blanks blanks) (s : Text) :
    Text.trimLeft (blanks ++ s) = Text.trimLeft s :=
  List.dropWhile_append_of_pos blank

theorem trimLeft_cons {c : Char} (solid : isBlank c = false) (s : Text) :
    Text.trimLeft (c :: s) = c :: s :=
  List.dropWhile_cons_of_neg (by simp [solid])

theorem trimLeft_eq_self {s : Text} (starts : ∀ c ∈ s.head?, isBlank c = false) :
    Text.trimLeft s = s := by
  cases s with
  | nil => rfl
  | cons c s => exact trimLeft_cons (starts c rfl) s

theorem trimRight_append {blanks : Text} (s : Text) (blank : Blanks blanks) :
    Text.trimRight (s ++ blanks) = Text.trimRight s := by
  unfold Text.trimRight
  rw [List.reverse_append, List.dropWhile_append_of_pos]
  exact fun c member => blank c (List.mem_reverse.mp member)

theorem trimRight_concat {c : Char} (s : Text) (solid : isBlank c = false) :
    Text.trimRight (s ++ [c]) = s ++ [c] :=
  List.rdropWhile_concat_neg isBlank s c (by simp [solid])

theorem trimRight_cons {c : Char} (solid : isBlank c = false) (s : Text) :
    Text.trimRight (c :: s) = c :: Text.trimRight s := by
  unfold Text.trimRight
  rw [List.reverse_cons, List.dropWhile_append]
  split
  · rename_i empty
    simp [List.isEmpty_iff.mp empty, solid]
  · simp

theorem trimRight_eq_nil {s : Text} (blank : Blanks s) : Text.trimRight s = [] :=
  List.rdropWhile_eq_nil_iff.mpr blank

theorem trim_append_left {blanks : Text} (blank : Blanks blanks) (s : Text) :
    Text.trim (blanks ++ s) = Text.trim s := by
  unfold Text.trim
  rw [trimLeft_append blank]

theorem trim_append_right {blanks : Text} (s : Text) (blank : Blanks blanks) :
    Text.trim (s ++ blanks) = Text.trim s := by
  unfold Text.trim Text.trimLeft
  rw [List.dropWhile_append]
  split
  · -- Nothing but blanks stands before them.
    rename_i empty
    rw [List.isEmpty_iff.mp empty]
    exact trimRight_eq_nil fun c member => blank c (List.dropWhile_subset _ member)
  · exact trimRight_append _ blank

theorem trim_trimRight (s : Text) : Text.trim (Text.trimRight s) = Text.trim s := by
  have split : Text.trimRight s ++ List.rtakeWhile isBlank s = s :=
    List.rdropWhile_append_rtakeWhile
  have blank : Blanks (List.rtakeWhile isBlank s) := fun _ => List.mem_rtakeWhile_imp
  conv_rhs => rw [← split, trim_append_right _ blank]

theorem trim_cons {c : Char} (solid : isBlank c = false) (s : Text) :
    Text.trim (c :: s) = c :: Text.trimRight s := by
  unfold Text.trim
  rw [trimLeft_cons solid, trimRight_cons solid]

theorem trim_eq_nil {s : Text} (blank : Blanks s) : Text.trim s = [] := by
  rw [← List.append_nil s, trim_append_left blank]
  rfl

theorem trimLeft_suffix (s : Text) : Text.trimLeft s <:+ s :=
  List.dropWhile_suffix isBlank

theorem isPrefix_trimRight (s : Text) : Text.trimRight s <+: s :=
  List.rdropWhile_prefix isBlank s

theorem isInfix_trim (s : Text) : Text.trim s <:+: s :=
  (isPrefix_trimRight _).isInfix.trans (trimLeft_suffix s).isInfix

theorem exists_blanks_trim (s : Text) :
    ∃ before after, Blanks before ∧ Blanks after ∧ s = before ++ Text.trim s ++ after := by
  refine ⟨s.takeWhile isBlank, List.rtakeWhile isBlank (Text.trimLeft s),
    fun _ => List.mem_takeWhile_imp, fun _ => List.mem_rtakeWhile_imp, ?_⟩
  have right : Text.trim s ++ List.rtakeWhile isBlank (Text.trimLeft s) = Text.trimLeft s :=
    List.rdropWhile_append_rtakeWhile
  rw [List.append_assoc, right]
  exact List.takeWhile_append_dropWhile.symm

theorem getLast_trim (s : Text) : ∀ c ∈ (Text.trim s).getLast?, isBlank c = false := by
  intro c last
  obtain ⟨nonempty, rfl⟩ := List.mem_getLast?_eq_getLast last
  exact Bool.eq_false_iff.mpr (List.rdropWhile_last_not isBlank (Text.trimLeft s) nonempty)

theorem exists_margin {s : Text} (filled : Text.trim s ≠ []) :
    ∃ margin, Blanks margin ∧ Text.trimRight s = margin ++ Text.trim s := by
  obtain ⟨margin, after, blank, blank', written⟩ := exists_blanks_trim s
  obtain ⟨front, c, last⟩ := (List.eq_nil_or_concat' (Text.trim s)).resolve_left filled
  have solid : isBlank c = false := getLast_trim s c (by simp [last])
  refine ⟨margin, blank, ?_⟩
  conv_lhs => rw [written, trimRight_append _ blank', last, ← List.append_assoc,
    trimRight_concat _ solid]
  rw [last, List.append_assoc]

theorem isPrefix_trimRight_of_solid {s t : Text} (solid : ∀ c ∈ s.getLast?, isBlank c = false)
    (front : s <+: t) : s <+: Text.trimRight t := by
  obtain ⟨rest, rfl⟩ := front
  have whole : Text.trimRight s = s := by
    rcases List.eq_nil_or_concat' s with rfl | ⟨before, c, rfl⟩
    · rfl
    · exact trimRight_concat before (solid c (by simp))
  unfold Text.trimRight
  rw [List.reverse_append, List.dropWhile_append]
  split
  · exact ⟨[], (List.append_nil s).trans whole.symm⟩
  · simp

theorem isPrefix_trim_of_solid {pattern s t : Text} (filled : pattern ≠ [])
    (solid : ∀ c ∈ pattern.getLast?, isBlank c = false) (front : s <+: t)
    (starts : pattern <+: Text.trim s) : pattern <+: Text.trim t := by
  have left : pattern <+: Text.trimLeft s := starts.trans (isPrefix_trimRight _)
  have rest : Text.trimLeft s ≠ [] := fun empty => filled (List.prefix_nil.mp (empty ▸ left))
  obtain ⟨more, rfl⟩ := front
  refine isPrefix_trimRight_of_solid solid ?_
  unfold Text.trimLeft at left rest ⊢
  rw [List.dropWhile_append, if_neg (by simpa using rest)]
  exact left.trans (List.prefix_append _ _)

theorem trim_prefix {s : Text} (starts : ∀ c ∈ s.head?, isBlank c = false) : Text.trim s <+: s := by
  unfold Text.trim
  rw [trimLeft_eq_self starts]
  exact isPrefix_trimRight s

theorem trim_eq_self {s : Text} (starts : ∀ c ∈ s.head?, isBlank c = false)
    (ends : ∀ c ∈ s.getLast?, isBlank c = false) : Text.trim s = s := by
  unfold Text.trim
  rw [trimLeft_eq_self starts]
  rcases List.eq_nil_or_concat' s with rfl | ⟨before, c, rfl⟩
  · rfl
  · exact trimRight_concat before (ends c (by simp))

end KotlinDoc.Proofs
