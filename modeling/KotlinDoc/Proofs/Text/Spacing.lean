import KotlinDoc.Proofs.Text.Cutting
import KotlinDoc.Proofs.Text.Trimming

namespace KotlinDoc.Proofs

theorem space_blanks : Blanks (" " : Text) := by
  decide

theorem space_filled : (" " : Text) ≠ [] := by
  decide

theorem space_separated : Blanks (" " : Text) ∧ (" " : Text) ≠ [] :=
  ⟨space_blanks, space_filled⟩

theorem trim_fillBlanks_cons {c : Char} (blank : isBlank c = true) (s : Text) :
    Text.trim (Text.fillBlanks " " (c :: s)) = Text.trim (Text.fillBlanks " " s) := by
  cases s with
  | nil =>
      have gap : Text.fillBlanks " " [c] = " " := if_pos blank
      rw [gap, trim_eq_nil space_blanks]
      rfl
  | cons d s =>
      rw [Text.fillBlanks, if_pos blank]
      split
      · rfl
      · exact trim_append_left space_blanks _

theorem unspaced_append_left {blanks : Text} (blank : Blanks blanks) (s : Text) :
    Text.unspaced " " (blanks ++ s) = Text.unspaced " " s := by
  induction blanks with
  | nil => rfl
  | cons c blanks ih =>
      obtain ⟨here, later⟩ := List.forall_mem_cons.mp blank
      exact (trim_fillBlanks_cons here (blanks ++ s)).trans (ih later)

theorem fillBlanks_blanks {blanks : Text} (blank : Blanks blanks) (filled : blanks ≠ []) :
    Text.fillBlanks " " blanks = " " := by
  induction blanks with
  | nil => exact absurd rfl filled
  | cons c blanks ih =>
      obtain ⟨here, later⟩ := List.forall_mem_cons.mp blank
      cases blanks with
      | nil => exact if_pos here
      | cons d blanks =>
          rw [Text.fillBlanks, if_pos here, if_pos (later d List.mem_cons_self)]
          exact ih later (List.cons_ne_nil _ _)

theorem fillBlanks_solid {c : Char} (solid : isBlank c = false) (filler s : Text) :
    Text.fillBlanks filler (c :: s) = c :: Text.fillBlanks filler s := by
  cases s with
  | nil => exact if_neg (by simp [solid])
  | cons d s => rw [Text.fillBlanks, if_neg (by simp [solid])]

theorem fillBlanks_append {blanks : Text} (s : Text) (blank : Blanks blanks) :
    ∃ after, Blanks after ∧
      Text.fillBlanks " " (s ++ blanks) = Text.fillBlanks " " s ++ after := by
  by_cases filled : blanks = []
  · subst filled
    exact ⟨[], blank, by simp⟩
  induction s with
  | nil => exact ⟨" ", space_blanks, fillBlanks_blanks blank filled⟩
  | cons c s ih =>
      obtain ⟨after, spaces, same⟩ := ih
      cases gap : isBlank c with
      | false =>
          refine ⟨after, spaces, ?_⟩
          rw [List.cons_append, fillBlanks_solid gap, fillBlanks_solid gap, same, List.cons_append]
      | true =>
          cases s with
          | nil =>
              -- The blank at the end of the text and those that follow make one space.
              have all : Blanks (c :: blanks) := List.forall_mem_cons.mpr ⟨gap, blank⟩
              refine ⟨[], fun _ member => absurd member List.not_mem_nil, ?_⟩
              rw [List.append_nil]
              exact (fillBlanks_blanks all (List.cons_ne_nil _ _)).trans (if_pos gap).symm
          | cons d s =>
              refine ⟨after, spaces, ?_⟩
              show Text.fillBlanks " " (c :: d :: (s ++ blanks)) = _
              rw [Text.fillBlanks, Text.fillBlanks, ← List.cons_append, same, if_pos gap, if_pos gap]
              split
              · rfl
              · rw [List.append_assoc]

theorem unspaced_append_right {blanks : Text} (s : Text) (blank : Blanks blanks) :
    Text.unspaced " " (s ++ blanks) = Text.unspaced " " s := by
  obtain ⟨after, spaces, same⟩ := fillBlanks_append s blank
  unfold Text.unspaced
  rw [same, trim_append_right _ spaces]

theorem trimRight_append_line (front : Text) {line : Text} (filled : Text.trim line ≠ []) :
    ∃ indent, Blanks indent ∧ Text.trimRight (front ++ line) = front ++ (indent ++ Text.trim line) := by
  obtain ⟨indent, after, blank, blank', whole⟩ := exists_blanks_trim line
  obtain ⟨before, c, split⟩ := (List.eq_nil_or_concat' (Text.trim line)).resolve_left filled
  have solid : isBlank c = false := getLast_trim line c (by simp [split])
  rw [split] at whole
  have shape : front ++ line = front ++ indent ++ before ++ [c] ++ after := by simp [whole]
  refine ⟨indent, blank, ?_⟩
  rw [shape, trimRight_append _ blank', trimRight_concat _ solid, split]
  simp

def Solid (s : Text) : Prop :=
  ∀ c ∈ s, isBlank c = false

instance (s : Text) : Decidable (Solid s) :=
  decidable_of_iff (s.all (fun c => !isBlank c) = true) (by simp [Solid])

theorem fillBlanks_solids {s : Text} (solid : Solid s) (filler t : Text) :
    Text.fillBlanks filler (s ++ t) = s ++ Text.fillBlanks filler t := by
  induction s with
  | nil => rfl
  | cons c s ih =>
      obtain ⟨here, later⟩ := List.forall_mem_cons.mp solid
      rw [List.cons_append, fillBlanks_solid here, ih later, List.cons_append]

theorem trim_solid {s : Text} (solid : Solid s) : Text.trim s = s :=
  trim_eq_self (fun c first => solid c (List.mem_of_mem_head? first))
    fun c last => solid c (List.mem_of_mem_getLast? last)

theorem unspaced_solid {s : Text} (solid : Solid s) : Text.unspaced " " s = s := by
  have kept := fillBlanks_solids solid " " []
  rw [List.append_nil] at kept
  rw [Text.unspaced, kept, Text.fillBlanks, List.append_nil, trim_solid solid]

theorem getLast?_space {t : Text} (filled : t ≠ []) (s : Text) :
    (s ++ ' ' :: t).getLast? = t.getLast? := by
  rw [List.getLast?_append_of_ne_nil _ (by simp), List.getLast?_cons_of_ne_nil filled]

/-- Single spaces stand between the words of the text, and the characters around each of them fit.
-/
inductive Spaced (fit : Char → Char → Prop) : Text → Prop where
  | word {s : Text} (solid : Solid s) (filled : s ≠ []) : Spaced fit s
  | space {s t : Text} (solid : Solid s) (filled : s ≠ [])
      (around : ∀ last ∈ s.getLast?, ∀ first ∈ t.head?, fit last first) (rest : Spaced fit t) :
      Spaced fit (s ++ ' ' :: t)

namespace Spaced

variable {fit : Char → Char → Prop} {s t : Text}

theorem filled (spaced : Spaced fit s) : s ≠ [] := by
  cases spaced with
  | word _ filled => exact filled
  | space _ filled => simp

theorem starts (spaced : Spaced fit s) : ∀ c ∈ s.head?, isBlank c = false := by
  have start {s : Text} (solid : Solid s) : ∀ c ∈ s.head?, isBlank c = false :=
    fun c first => solid c (List.mem_of_mem_head? first)
  cases spaced with
  | word solid => exact start solid
  | space solid filled =>
      rw [List.head?_append_of_ne_nil _ filled]
      exact start solid

theorem ends (spaced : Spaced fit s) : ∀ c ∈ s.getLast?, isBlank c = false := by
  induction spaced with
  | word solid => exact fun c last => solid c (List.mem_of_mem_getLast? last)
  | space _ _ _ rest ih => rwa [getLast?_space rest.filled]

theorem append (front : Spaced fit s) (back : Spaced fit t) : Spaced fit (s ++ t) := by
  induction front with
  | @word s solid filled =>
      cases back with
      | word more => exact .word (List.forall_mem_append.mpr ⟨solid, more⟩) (by simp [filled])
      | space more some around rest =>
          rw [← List.append_assoc]
          refine .space (List.forall_mem_append.mpr ⟨solid, more⟩) (by simp [filled]) ?_ rest
          rwa [List.getLast?_append_of_ne_nil _ some]
  | space solid filled around rest ih =>
      rw [List.append_assoc, List.cons_append]
      refine .space solid filled ?_ ih
      rwa [List.head?_append_of_ne_nil _ rest.filled]

theorem join (front : Spaced fit s) (back : Spaced fit t)
    (around : ∀ last ∈ s.getLast?, ∀ first ∈ t.head?, fit last first) :
    Spaced fit (s ++ ' ' :: t) := by
  induction front with
  | word solid filled => exact .space solid filled around back
  | space solid filled own rest ih =>
      rw [getLast?_space rest.filled] at around
      rw [List.append_assoc, List.cons_append]
      refine .space solid filled ?_ (ih around)
      rwa [List.head?_append_of_ne_nil _ rest.filled]

theorem fillBlanks_eq (spaced : Spaced fit s) : Text.fillBlanks " " s = s := by
  induction spaced with
  | word solid =>
      have kept := fillBlanks_solids solid " " []
      rwa [List.append_nil, Text.fillBlanks, List.append_nil] at kept
  | @space s t solid _ _ rest ih =>
      have single : Text.fillBlanks " " (' ' :: t) = ' ' :: Text.fillBlanks " " t := by
        have space : isBlank ' ' = true := by decide
        obtain ⟨first, more, rfl⟩ := List.exists_cons_of_ne_nil rest.filled
        rw [Text.fillBlanks, if_pos space, if_neg (by simp [rest.starts first rfl])]
        rfl
      rw [fillBlanks_solids solid, single, ih]

theorem unspaced_eq (spaced : Spaced fit s) : Text.unspaced " " s = s := by
  unfold Text.unspaced
  rw [spaced.fillBlanks_eq, trim_eq_self spaced.starts spaced.ends]

theorem fit_of_infix {last first : Char} (spaced : Spaced fit s) (solid : isBlank last = false)
    (inside : [last, ' ', first] <:+: s) : fit last first := by
  induction spaced with
  | word whole =>
      have blank := whole ' ' (inside.subset (by simp))
      cases blank
  | @space s t whole filled around _ ih =>
      have unspaced : ' ' ∉ s := fun member => absurd (whole ' ' member) (by decide)
      obtain ⟨u, v, same⟩ := inside
      by_cases earlier : ' ' ∈ u
      · -- The space at hand comes after the first one.
        obtain ⟨x, y, rfl, absent⟩ := List.eq_append_cons_of_mem earlier
        have split : x ++ ' ' :: (y ++ last :: ' ' :: first :: v) = s ++ ' ' :: t := by
          simpa using same
        have later := (append_cons_inj absent unspaced split).2
        exact ih ⟨y, v, by simpa using later⟩
      · have own : ' ' ∉ u ++ [last] := by
          rw [List.mem_append, List.mem_singleton, not_or]
          refine ⟨earlier, ?_⟩
          rintro rfl
          cases solid
        have split : (u ++ [last]) ++ ' ' :: first :: v = s ++ ' ' :: t := by
          simpa using same
        obtain ⟨rfl, rfl⟩ := append_cons_inj own unspaced split
        exact around last (by simp) first (by simp)

end Spaced

end KotlinDoc.Proofs
