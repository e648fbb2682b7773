import KotlinDoc.Text.Basic
import Mathlib.Data.List.Basic

namespace KotlinDoc.Proofs

theorem cutFirst_append {separator : Char} {before : Text} (absent : separator ∉ before)
    (after : Text) :
    Text.cutFirst separator (before ++ separator :: after) = (before, some after) := by
  induction before with
  | nil => simp [Text.cutFirst]
  | cons c before ih =>
      obtain ⟨other, rest⟩ := List.ne_and_not_mem_of_not_mem_cons absent
      simp [Text.cutFirst, Ne.symm other, ih rest]

theorem cutLast_of_notMem {separator : Char} {s : Text} (absent : separator ∉ s) :
    Text.cutLast separator s = (s, none) := by
  induction s with
  | nil => rfl
  | cons c s ih =>
      obtain ⟨other, rest⟩ := List.ne_and_not_mem_of_not_mem_cons absent
      simp [Text.cutLast, Ne.symm other, ih rest]

theorem cutLast_append {separator : Char} (before : Text) {after : Text}
    (absent : separator ∉ after) :
    Text.cutLast separator (before ++ separator :: after) = (before, some after) := by
  induction before with
  | nil => simp [Text.cutLast, cutLast_of_notMem absent]
  | cons c before ih => simp [Text.cutLast, ih]

theorem eq_append_cons_of_mem_last {c : Char} {s : Text} (member : c ∈ s) :
    ∃ before after, s = before ++ c :: after ∧ c ∉ after := by
  obtain ⟨after, before, same, absent⟩ := List.eq_append_cons_of_mem (List.mem_reverse.mpr member)
  refine ⟨before.reverse, after.reverse, ?_, mt List.mem_reverse.mp absent⟩
  rw [← List.reverse_reverse s, same]
  simp

theorem cutFirst_of_notMem {separator : Char} {s : Text} (absent : separator ∉ s) :
    Text.cutFirst separator s = (s, none) := by
  induction s with
  | nil => rfl
  | cons c s ih =>
      obtain ⟨other, rest⟩ := List.ne_and_not_mem_of_not_mem_cons absent
      simp [Text.cutFirst, Ne.symm other, ih rest]

theorem cutFirst_append_right {separator : Char} (s : Text) {after : Text}
    (absent : separator ∉ after) :
    Text.cutFirst separator (s ++ after) = match Text.cutFirst separator s with
      | (before, none) => (before ++ after, none)
      | (before, some rest) => (before, some (rest ++ after)) := by
  induction s with
  | nil =>
      rw [List.nil_append, cutFirst_of_notMem absent]
      rfl
  | cons c s ih =>
      rw [List.cons_append, Text.cutFirst, Text.cutFirst, ih]
      split
      · rfl
      · cases Text.cutFirst separator s with
        | mk before rest => cases rest <;> rfl

theorem cutLast_append_right {separator : Char} (s : Text) {after : Text}
    (absent : separator ∉ after) :
    Text.cutLast separator (s ++ after) = match Text.cutLast separator s with
      | (before, none) => (before ++ after, none)
      | (before, some rest) => (before, some (rest ++ after)) := by
  induction s with
  | nil =>
      rw [List.nil_append, cutLast_of_notMem absent]
      rfl
  | cons c s ih =>
      rw [List.cons_append, Text.cutLast, Text.cutLast, ih]
      cases Text.cutLast separator s with
      | mk before rest =>
          cases rest with
          | some rest => rfl
          | none =>
              dsimp only
              split <;> rfl

theorem find?_append {c : Char} {pattern before : Text} (absent : c ∉ before) (after : Text) :
    Text.find? (c :: pattern) (before ++ after) =
      (Text.find? (c :: pattern) after).map (· + before.length) := by
  induction before with
  | nil => simp
  | cons d before ih =>
      obtain ⟨other, rest⟩ := List.ne_and_not_mem_of_not_mem_cons absent
      simp [Text.find?, List.isPrefixOf, other, ih rest, Function.comp_def, Nat.add_assoc]

theorem find?_cons_self (c : Char) (after : Text) : Text.find? [c] (c :: after) = some 0 := by
  simp [Text.find?]

theorem find?_eq_none {c : Char} {pattern s : Text} (absent : c ∉ s) :
    Text.find? (c :: pattern) s = none := by
  induction s with
  | nil => rfl
  | cons d s ih =>
      obtain ⟨other, rest⟩ := List.ne_and_not_mem_of_not_mem_cons absent
      simp [Text.find?, List.isPrefixOf, other, ih rest]

theorem after?_eq_none {pattern s : Text} (other : Text.startsWith pattern s = false) :
    Text.after? pattern s = none := by
  have same : (Text.after? pattern s).isSome = Text.startsWith pattern s :=
    List.isSome_isPrefixOf?_eq_isPrefixOf pattern s
  rw [other] at same
  exact Option.isNone_iff_eq_none.mp (Option.isSome_eq_false_iff.mp same)

theorem occurrences_eq_zero_iff {pattern s : Text} (filled : pattern ≠ []) :
    Text.occurrences pattern s = 0 ↔ ¬ pattern <:+: s := by
  induction s with
  | nil => simp [Text.occurrences, filled]
  | cons c s ih =>
      rw [Text.occurrences, Nat.add_eq_zero_iff, ih, List.infix_cons_iff, not_or,
        ← List.isPrefixOf_iff_prefix]
      cases pattern.isPrefixOf (c :: s) <;> simp

theorem joined_cons_cons (separator first second : Text) (texts : List Text) :
    Text.joined separator (first :: second :: texts) =
      first ++ separator ++ Text.joined separator (second :: texts) := by
  simp [Text.joined]

theorem joined_cons (separator first : Text) (texts : List Text) :
    Text.joined separator (first :: texts) = first ++ texts.flatMap (separator ++ ·) := by
  induction texts generalizing first with
  | nil => simp [Text.joined]
  | cons second texts ih => simp [joined_cons_cons, ih]

theorem joined_append (separator : Text) {first second : List Text} (some : first ≠ [])
    (more : second ≠ []) :
    Text.joined separator (first ++ second) =
      Text.joined separator first ++ (separator ++ Text.joined separator second) := by
  obtain ⟨a, first, rfl⟩ := List.exists_cons_of_ne_nil some
  obtain ⟨b, second, rfl⟩ := List.exists_cons_of_ne_nil more
  simp [joined_cons]

theorem mem_joined {separator : Text} {texts : List Text} {c : Char}
    (member : c ∈ Text.joined separator texts) : c ∈ separator ∨ ∃ s ∈ texts, c ∈ s := by
  induction texts with
  | nil => simp [Text.joined] at member
  | cons first texts ih =>
      cases texts with
      | nil => exact Or.inr ⟨first, List.mem_cons_self, by simpa [Text.joined] using member⟩
      | cons second texts =>
          rw [joined_cons_cons, List.append_assoc, List.mem_append, List.mem_append] at member
          rcases member with here | between | later
          · exact Or.inr ⟨first, List.mem_cons_self, here⟩
          · exact Or.inl between
          · rcases ih later with between | ⟨s, member, here⟩
            · exact Or.inl between
            · exact Or.inr ⟨s, List.mem_cons_of_mem _ member, here⟩

theorem piecesAt_eq_splitOnP (isSeparator : Char → Bool) (s : Text) :
    Text.piecesAt isSeparator s = s.splitOnP isSeparator := by
  induction s with
  | nil => rfl
  | cons c s ih =>
      rw [Text.piecesAt, List.splitOnP_cons_eq_if_modifyHead, ih]
      split
      · rfl
      · cases found : s.splitOnP isSeparator with
        | nil => exact absurd found (List.splitOnP_ne_nil _ _)
        | cons piece pieces => rfl

theorem piecesAt_of_none {isSeparator : Char → Bool} {s : Text}
    (none : ∀ c ∈ s, isSeparator c = false) : Text.piecesAt isSeparator s = [s] := by
  induction s with
  | nil => rfl
  | cons c s ih =>
      obtain ⟨here, later⟩ := List.forall_mem_cons.mp none
      simp [Text.piecesAt, here, ih later]

theorem piecesAt_append {isSeparator : Char → Bool} {c : Char} (separator : isSeparator c = true)
    (s t : Text) :
    Text.piecesAt isSeparator (s ++ c :: t) =
      Text.piecesAt isSeparator s ++ Text.piecesAt isSeparator t := by
  simp only [piecesAt_eq_splitOnP]
  exact List.splitOnP_append_cons s t separator

theorem piecesAt_ne_nil (isSeparator : Char → Bool) (s : Text) :
    Text.piecesAt isSeparator s ≠ [] := by
  rw [piecesAt_eq_splitOnP]
  exact List.splitOnP_ne_nil _ _

theorem mem_of_mem_piecesAt {isSeparator : Char → Bool} {s piece : Text}
    (member : piece ∈ Text.piecesAt isSeparator s) {c : Char} (inside : c ∈ piece) :
    c ∈ s ∧ isSeparator c = false := by
  induction s generalizing piece with
  | nil =>
      obtain rfl : piece = [] := by simpa [Text.piecesAt] using member
      cases inside
  | cons d s ih =>
      have later {piece : Text} (member : piece ∈ Text.piecesAt isSeparator s)
          (inside : c ∈ piece) : c ∈ d :: s ∧ isSeparator c = false :=
        (ih member inside).imp_left (List.mem_cons_of_mem d)
      unfold Text.piecesAt at member
      split at member
      · rcases List.mem_cons.mp member with rfl | below
        · cases inside
        · exact later below inside
      · rename_i kept
        have first : d ∈ d :: s ∧ isSeparator d = false := ⟨List.mem_cons_self, by simpa using kept⟩
        split at member
        · obtain rfl := List.mem_singleton.mp member
          exact List.mem_singleton.mp inside ▸ first
        · rename_i front pieces found
          rcases List.mem_cons.mp member with rfl | below
          · rcases List.mem_cons.mp inside with rfl | tail
            · exact first
            · exact later (found ▸ List.mem_cons_self) tail
          · exact later (found ▸ List.mem_cons_of_mem _ below) inside

theorem takeWhile_append_stop {holds : Char → Bool} {inside rest : Text}
    (all : ∀ c ∈ inside, holds c = true) (stop : ∀ c ∈ rest.head?, holds c = false) :
    (inside ++ rest).takeWhile holds = inside := by
  rw [List.takeWhile_append_of_pos all]
  cases rest with
  | nil => simp
  | cons c rest => simp [stop c rfl]

theorem dropWhile_append_stop {holds : Char → Bool} {inside rest : Text}
    (all : ∀ c ∈ inside, holds c = true) (stop : ∀ c ∈ rest.head?, holds c = false) :
    (inside ++ rest).dropWhile holds = rest := by
  rw [List.dropWhile_append_of_pos all]
  cases rest with
  | nil => rfl
  | cons c rest => simp [stop c rfl]

theorem takeWhile_bne {c : Char} {s : Text} (absent : c ∉ s) (t : Text) :
    (s ++ c :: t).takeWhile (· != c) = s := by
  refine takeWhile_append_stop (fun d member => bne_iff_ne.mpr ?_) (by simp)
  rintro rfl
  exact absent member

theorem append_cons_inj {c : Char} {s t u v : Text} (absent : c ∉ s) (absent' : c ∉ u)
    (same : s ++ c :: t = u ++ c :: v) : s = u ∧ t = v := by
  obtain rfl : s = u := by
    rw [← takeWhile_bne absent t, same, takeWhile_bne absent']
  exact ⟨rfl, List.tail_eq_of_cons_eq (List.append_cancel_left same)⟩

theorem startsWith_append {pattern : Text} {c : Char} (absent : c ∉ pattern) (s t : Text) :
    Text.startsWith pattern (s ++ c :: t) = Text.startsWith pattern s := by
  unfold Text.startsWith
  induction s generalizing pattern with
  | nil =>
      cases pattern with
      | nil => rfl
      | cons d pattern => simp [List.isPrefixOf, (List.ne_of_not_mem_cons absent).symm]
  | cons d s ih =>
      cases pattern with
      | nil => rfl
      | cons e pattern =>
          rw [List.cons_append, List.isPrefixOf, List.isPrefixOf,
            ih (List.not_mem_of_not_mem_cons absent)]

end KotlinDoc.Proofs
