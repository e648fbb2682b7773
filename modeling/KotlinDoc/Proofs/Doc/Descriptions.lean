import KotlinDoc.Doc.Tag
import KotlinDoc.Proofs.Source.PlainCode
import KotlinDoc.Proofs.Text.Spacing

namespace KotlinDoc.Proofs

/-- The line has the tag for the name, with the name plain or in brackets. -/
def isNaming (tag name line : Text) : Bool :=
  Text.has (tag ++ "[" ++ name ++ "]") line || Text.has (tag ++ " " ++ name ++ " ") line

theorem mem_of_isNaming {tag name line : Text} {c : Char} (marked : c ∈ tag)
    (naming : isNaming tag name line = true) : c ∈ line := by
  rcases Bool.or_eq_true_iff.mp naming with bracketed | plain
  · exact (has_iff_isInfix.mp bracketed).subset (by simp [marked])
  · exact (has_iff_isInfix.mp plain).subset (by simp [marked])

def afterName (tag name line : Text) : Text :=
  (Text.trim line).drop (2 + tag.length + name.length)

theorem describe_cons (tag name line : Text) (lines : List Text) :
    DocComment.describe tag name false (line :: lines) =
      if isNaming tag name line then
        if line.isEmpty || line.contains '@' then [afterName tag name line]
        else afterName tag name line :: line :: DocComment.describe tag name true lines
      else DocComment.describe tag name false lines := by
  cases naming : isNaming tag name line <;> unfold isNaming at naming
  · simp only [DocComment.describe, naming, Bool.or_self, Bool.false_eq_true, if_false]
  · simp only [DocComment.describe, naming, Bool.false_or, if_true]
    rfl

theorem describe_eq {tag : Text} (marked : '@' ∈ tag) (name : Text) (lines : List Text) :
    DocComment.describe tag name false lines =
      ((lines.find? (isNaming tag name)).map (afterName tag name)).toList := by
  induction lines with
  | nil => rfl
  | cons line lines ih =>
      rw [describe_cons, List.find?_cons]
      cases naming : isNaming tag name line with
      | true =>
          have stops : line.contains '@' = true := by
            simpa using mem_of_isNaming marked naming
          rw [stops, Bool.or_true]
          rfl
      | false => exact ih

structure Described where
  name : Text
  description : Text
  named : name ≠ []
  solid : Solid name
  filled : description ≠ []
  trimmed : Text.trim description = description
  untagged : '@' ∉ description

/-- The lines that continue a description: those up to an empty one or one with an at sign. -/
def continuation (lines : List Text) : List Text :=
  lines.takeWhile fun line => !line.isEmpty && !line.contains '@'

theorem mem_word (tag : NamedTag) : '@' ∈ tag.word := by
  cases tag <;> decide

/-- Cut at a fixed width, a line shows the description just if as much stands before it. -/
theorem afterName_eq_iff {tag name line description : Text} (filled : description ≠ []) :
    afterName tag name line = description ↔
      ∃ front, Text.trim line = front ++ description ∧
        front.length = 2 + tag.length + name.length := by
  unfold afterName
  constructor
  · rintro rfl
    refine ⟨_, (List.take_append_drop _ _).symm, List.length_take_of_le ?_⟩
    by_contra short
    exact filled (List.drop_eq_nil_of_le (Nat.le_of_not_le short))
  · rintro ⟨front, written, width⟩
    rw [written, ← width, List.drop_left]

namespace Described

variable (tag : NamedTag) (entry : Described)

def line : Text :=
  tag.word ++ " " ++ entry.name ++ " " ++ entry.description

theorem isNaming_line (margin : Text) :
    isNaming tag.word entry.name (margin ++ entry.line tag) = true := by
  refine Bool.or_eq_true_iff.mpr (Or.inr ?_)
  exact has_iff_isInfix.mpr ⟨margin, entry.description, by simp [line]⟩

theorem getLast?_line (margin : Text) :
    ∀ c ∈ (margin ++ entry.line tag).getLast?, isBlank c = false := by
  intro c last
  apply getLast_trim entry.description c
  rw [entry.trimmed]
  unfold line at last
  rwa [← List.append_assoc, List.getLast?_append_of_ne_nil _ entry.filled] at last

theorem afterName_line : afterName tag.word entry.name (entry.line tag) = entry.description := by
  have whole : Text.trim (entry.line tag) = entry.line tag := by
    refine trim_eq_self (fun c first => ?_) (entry.getLast?_line tag [])
    cases tag <;> cases first <;> decide
  refine (afterName_eq_iff entry.filled).mpr
    ⟨tag.word ++ " " ++ entry.name ++ " ", whole.trans rfl, ?_⟩
  simp only [List.length_append, String.length_toList]
  have space : " ".length = 1 := rfl
  omega

theorem afterName_margin :
    afterName tag.word entry.name (" * " ++ entry.line tag) =
      entry.name.getLast entry.named :: ' ' :: entry.description := by
  have blank : Blanks [' '] := by decide
  have whole : Text.trim (" * " ++ entry.line tag) = '*' :: ' ' :: entry.line tag := by
    refine (trim_append_left blank ('*' :: ' ' :: entry.line tag)).trans (trim_eq_self ?_ ?_)
    · rintro c ⟨⟩
      decide
    · exact entry.getLast?_line tag ['*', ' ']
  refine (afterName_eq_iff (List.cons_ne_nil _ _)).mpr
    ⟨'*' :: ' ' :: (tag.word ++ " " ++ entry.name.dropLast), ?_, ?_⟩
  · have name := List.dropLast_append_getLast entry.named
    rw [whole, line]
    conv_lhs => rw [← name]
    simp
  · have width := List.length_pos_of_ne_nil entry.named
    have space : " ".length = 1 := rfl
    simp only [List.length_append, List.length_cons, List.length_dropLast, String.length_toList]
    omega

end Described

theorem find?_naming (tag : NamedTag) (entry : Described) (margin : Text) (before after : List Text) :
    (before ++ (margin ++ entry.line tag) :: after).find? (isNaming tag.word entry.name) =
      some ((before.find? (isNaming tag.word entry.name)).getD (margin ++ entry.line tag)) := by
  rw [List.find?_append, List.find?_cons, entry.isNaming_line tag margin]
  cases before.find? (isNaming tag.word entry.name) <;> rfl

theorem description_eq (tag : NamedTag) (entry : Described) (margin : Text) (before after : List Text) :
    DocComment.description tag.word entry.name (before ++ (margin ++ entry.line tag) :: after) =
      [afterName tag.word entry.name
        ((before.find? (isNaming tag.word entry.name)).getD (margin ++ entry.line tag))] := by
  unfold DocComment.description
  rw [trim_solid entry.solid, describe_eq (mem_word tag), find?_naming]
  rfl

/-- A description is found whole just if it is not continued on further lines, its line has no
margin, and no line before it names the same thing. A line before it that does takes its place, and
can only show the same text by chance. -/
theorem description_found_iff (tag : NamedTag) (entry : Described) {margin : Text}
    (marginal : margin = [] ∨ margin = " * ") (before after : List Text) :
    ((∀ line ∈ before, isNaming tag.word entry.name line = false) →
      DocComment.description tag.word entry.name (before ++ (margin ++ entry.line tag) :: after) =
        [if margin = [] then entry.description
         else entry.name.getLast entry.named :: ' ' :: entry.description]) ∧
    (DocComment.description tag.word entry.name (before ++ (margin ++ entry.line tag) :: after) =
        entry.description :: continuation after ↔
      continuation after = [] ∧
        ((before.find? (isNaming tag.word entry.name) = none ∧ margin = []) ∨
          ∃ other front, before.find? (isNaming tag.word entry.name) = some other ∧
            Text.trim other = front ++ entry.description ∧
            front.length = 2 + tag.word.length + entry.name.length)) := by
  have own : afterName tag.word entry.name (margin ++ entry.line tag) =
      if margin = [] then entry.description
      else entry.name.getLast entry.named :: ' ' :: entry.description := by
    rcases marginal with rfl | rfl
    · exact entry.afterName_line tag
    · exact entry.afterName_margin tag
  have whole : afterName tag.word entry.name (margin ++ entry.line tag) = entry.description ↔
      margin = [] := by
    rw [own]
    split
    · rename_i bare
      exact iff_of_true rfl bare
    · rename_i margined
      refine iff_of_false (fun same => ?_) margined
      have longer := congrArg List.length same
      simp only [List.length_cons] at longer
      omega
  rw [description_eq]
  constructor
  · intro unnamed
    rw [List.find?_eq_none.mpr fun line member => by simp [unnamed line member]]
    exact congrArg (fun text => [text]) own
  · rw [List.cons.injEq, and_comm, eq_comm (a := [])]
    refine and_congr_right fun _ => ?_
    cases before.find? (isNaming tag.word entry.name) with
    | none => simpa using whole
    | some other => simpa using afterName_eq_iff entry.filled

/-- A further line is lost, and with a margin the end of the name is taken in. -/
theorem description_found_iff_first :
    DocComment.description NamedTag.param.word "x"
        ["Adds.".toList, "@param x the first".toList, [], "More.".toList] = ["the first".toList] ∧
    DocComment.description NamedTag.property.word "x"
        ["@property x the first".toList, "of two".toList] ≠ ["the first".toList, "of two".toList] ∧
    DocComment.description NamedTag.param.word "x" [" * @param x the first".toList] =
      ["x the first".toList] := by
  let entry : Described := ⟨"x", "the first", by decide, by decide, by decide, by decide, by decide⟩
  refine ⟨?_, fun found => ?_, ?_⟩
  · exact (description_found_iff .param entry (Or.inl rfl) ["Adds.".toList] [[], "More.".toList]).2.mpr
      ⟨by decide, Or.inl ⟨by decide, rfl⟩⟩
  · have whole := (description_found_iff .property entry (Or.inl rfl) [] ["of two".toList]).2.mp found
    exact absurd whole.1 (by decide)
  · exact (description_found_iff .param entry (Or.inr rfl) [] []).1 (by simp)

end KotlinDoc.Proofs
