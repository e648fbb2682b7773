import KotlinDoc.Proofs.Domain.Nesting
import KotlinDoc.Proofs.Text.Trimming
import KotlinDoc.Proofs.Traversal

namespace KotlinDoc.Proofs.Domain

structure Identifier where
  text : Text
  nonempty : text ≠ []
  word : ∀ c ∈ text, isWord c = true

theorem isMark_of_isWord {c : Char} (word : isWord c = true) : isMark c = false := by
  by_contra mark
  have none : ("[]()<>," : Text).all (!isWord ·) = true := by decide +kernel
  have member : c ∈ ("[]()<>," : Text) :=
    List.contains_iff_mem.mp (eq_true_of_ne_false mark)
  have unworded := List.all_eq_true.mp none c member
  simp [word] at unworded

namespace Identifier

def ofText (text : Text) (nonempty : text ≠ []) (word : text.all isWord = true) : Identifier :=
  ⟨text, nonempty, List.all_eq_true.mp word⟩

theorem nested {inside : Bool} (identifier : Identifier) : Nested inside identifier.text :=
  .of_unmarked fun c member => isMark_of_isWord (identifier.word c member)

theorem notMem (identifier : Identifier) {c : Char} (other : isWord c = false) :
    c ∉ identifier.text := by
  intro member
  rw [identifier.word c member] at other
  cases other

theorem head_solid (identifier : Identifier) : ∀ c ∈ identifier.text.head?, isBlank c = false :=
  fun c first => isBlank_of_isWord (identifier.word c (List.mem_of_mem_head? first))

theorem last_solid (identifier : Identifier) : ∀ c ∈ identifier.text.getLast?, isBlank c = false :=
  fun c last => isBlank_of_isWord (identifier.word c (List.mem_of_mem_getLast? last))

theorem trim_text (identifier : Identifier) : Text.trim identifier.text = identifier.text :=
  trim_eq_self identifier.head_solid identifier.last_solid

end Identifier

inductive KotlinType where
  | named (first : Identifier) (more : List Identifier)
  | generic (name : Identifier) (arguments : List KotlinType)
  | array (element : KotlinType)
  | tuple (elements : List KotlinType)
  | nullable (type : KotlinType)

namespace KotlinType

mutual

def text : KotlinType → Text
  | .named first more => first.text ++ more.flatMap fun part => '.' :: part.text
  | .generic name arguments => name.text ++ '<' :: (Text.joined ", " (texts arguments) ++ ['>'])
  | .array element => '[' :: (element.text ++ [']'])
  | .tuple elements => '(' :: (Text.joined ", " (texts elements) ++ [')'])
  | .nullable type => type.text ++ ['?']

def texts : List KotlinType → List Text
  | [] => []
  | type :: types => type.text :: texts types

end

mutual

theorem text_nested : (type : KotlinType) → Nested false type.text
  | .named first more => by
      refine first.nested.append (.of_unmarked fun c member => ?_)
      obtain ⟨part, -, here⟩ := List.mem_flatMap.mp member
      rcases List.mem_cons.mp here with rfl | inner
      · rfl
      · exact isMark_of_isWord (part.word c inner)
  | .generic name arguments =>
      name.nested.append (.enclosed .angle (.joined (texts_nested arguments)))
  | .array element => .enclosed .square (text_nested element).within
  | .tuple elements => .enclosed .round (.joined (texts_nested elements))
  | .nullable type => (text_nested type).append (.plain rfl (.nil false))

theorem texts_nested : (types : List KotlinType) → ∀ s ∈ texts types, Nested true s
  | [], _, member => by simp [texts] at member
  | type :: types, s, member => by
      rcases List.mem_cons.mp member with rfl | rest
      · exact (text_nested type).within
      · exact texts_nested types s rest

end

def punctuation : Text :=
  "[]()<>,.? "

mutual

theorem mem_text : (type : KotlinType) → ∀ c ∈ type.text, isWord c = true ∨ c ∈ punctuation
  | .named first more, c, member => by
      rcases List.mem_append.mp member with here | later
      · exact Or.inl (first.word c here)
      · obtain ⟨part, -, here⟩ := List.mem_flatMap.mp later
        rcases List.mem_cons.mp here with rfl | inner
        · exact Or.inr (by decide)
        · exact Or.inl (part.word c inner)
  | .generic name arguments, c, member => by
      simp only [text, List.mem_append, List.mem_cons, List.not_mem_nil, or_false] at member
      rcases member with here | rfl | inner | rfl
      · exact Or.inl (name.word c here)
      · exact Or.inr (by decide)
      · exact mem_joined_texts arguments c inner
      · exact Or.inr (by decide)
  | .array element, c, member => by
      simp only [text, List.mem_append, List.mem_cons, List.not_mem_nil, or_false] at member
      rcases member with rfl | inner | rfl
      · exact Or.inr (by decide)
      · exact mem_text element c inner
      · exact Or.inr (by decide)
  | .tuple elements, c, member => by
      simp only [text, List.mem_append, List.mem_cons, List.not_mem_nil, or_false] at member
      rcases member with rfl | inner | rfl
      · exact Or.inr (by decide)
      · exact mem_joined_texts elements c inner
      · exact Or.inr (by decide)
  | .nullable type, c, member => by
      simp only [text, List.mem_append, List.mem_cons, List.not_mem_nil, or_false] at member
      rcases member with here | rfl
      · exact mem_text type c here
      · exact Or.inr (by decide)

theorem mem_texts : (types : List KotlinType) → ∀ s ∈ texts types, ∀ c ∈ s,
    isWord c = true ∨ c ∈ punctuation
  | [], _, member => by simp [texts] at member
  | type :: types, s, member => by
      rcases List.mem_cons.mp member with rfl | rest
      · exact mem_text type
      · exact mem_texts types s rest

theorem mem_joined_texts (types : List KotlinType) (c : Char)
    (member : c ∈ Text.joined ", " (texts types)) : isWord c = true ∨ c ∈ punctuation := by
  rcases mem_joined member with between | ⟨s, inside, here⟩
  · have separator : (", " : Text) ⊆ punctuation := by decide
    exact Or.inr (separator between)
  · exact mem_texts types s inside c here

end

theorem notMem_text (type : KotlinType) {c : Char} (other : isWord c = false)
    (mark : c ∉ punctuation) : c ∉ type.text := by
  intro member
  rcases mem_text type c member with word | punctuated
  · rw [word] at other
    cases other
  · exact mark punctuated

theorem text_head_solid : (type : KotlinType) → ∀ c ∈ type.text.head?, isBlank c = false
  | .named first more, c, head => by
      rw [text, List.head?_append_of_ne_nil _ first.nonempty] at head
      exact first.head_solid c head
  | .generic name arguments, c, head => by
      rw [text, List.head?_append_of_ne_nil _ name.nonempty] at head
      exact name.head_solid c head
  | .array element, c, head => by
      obtain rfl : '[' = c := by simpa [text] using head
      rfl
  | .tuple elements, c, head => by
      obtain rfl : '(' = c := by simpa [text] using head
      rfl
  | .nullable type, c, head => by
      cases written : type.text with
      | nil =>
          obtain rfl : '?' = c := by simpa [text, written] using head
          rfl
      | cons d s =>
          refine text_head_solid type c ?_
          simpa [text, written] using head

theorem getLast?_enclosed (opening closing : Char) (s : Text) :
    (opening :: (s ++ [closing])).getLast? = some closing := by
  rw [← List.cons_append, List.getLast?_concat]

theorem text_last_solid : (type : KotlinType) → ∀ c ∈ type.text.getLast?, isBlank c = false
  | .named first more, c, last => by
      rcases List.eq_nil_or_concat' more with rfl | ⟨more, final, rfl⟩
      · exact first.last_solid c (by simpa [text] using last)
      · refine final.last_solid c ?_
        have ending : KotlinType.text (.named first (more ++ [final])) =
            (first.text ++ (more.flatMap fun part => '.' :: part.text) ++ ['.']) ++ final.text := by
          simp [text]
        rwa [ending, List.getLast?_append_of_ne_nil _ final.nonempty] at last
  | .generic name arguments, c, last => by
      rw [text, List.getLast?_append_of_ne_nil _ (List.cons_ne_nil _ _), getLast?_enclosed] at last
      obtain rfl : '>' = c := by simpa using last
      rfl
  | .array element, c, last => by
      obtain rfl : ']' = c := by simpa only [text, getLast?_enclosed, Option.mem_some_iff] using last
      rfl
  | .tuple elements, c, last => by
      obtain rfl : ')' = c := by simpa only [text, getLast?_enclosed, Option.mem_some_iff] using last
      rfl
  | .nullable type, c, last => by
      obtain rfl : '?' = c := by simpa [text] using last
      rfl

theorem trim_text (type : KotlinType) : Text.trim type.text = type.text :=
  trim_eq_self (text_head_solid type) (text_last_solid type)

end KotlinType

section

variable {α : Type} {text : α → Text} {read : α → Parameter} {first : α} {items : List α}

theorem mapM_ofPiece? (reads : ∀ item ∈ items, Parameter.ofPiece? (text item) = some (read item)) :
    (items.map text).mapM Parameter.ofPiece? = some (items.map read) := by
  rw [mapM_eq_some_iff, List.forall₂_map_left_iff, List.forall₂_map_right_iff, List.forall₂_same]
  exact reads

theorem list?_commas (nested : ∀ item ∈ first :: items, Nested false (text item))
    (reads : ∀ item ∈ first :: items, Parameter.ofPiece? (text item) = some (read item)) :
    Parameter.list? (Text.joined "," ((first :: items).map text)) =
      some ((first :: items).map read) := by
  have texts : ∀ s ∈ (first :: items).map text, Nested false s := List.forall_mem_map.mpr nested
  unfold Parameter.list?
  rw [List.map_cons, pieces_commas texts]
  exact mapM_ofPiece? reads

theorem list?_joined (nested : ∀ item ∈ first :: items, Nested false (text item))
    (reads : ∀ item ∈ first :: items, ∀ blanks, Blanks blanks →
      Parameter.ofPiece? (blanks ++ text item) = some (read item)) :
    Parameter.list? (Text.joined ", " ((first :: items).map text)) =
      some ((first :: items).map read) := by
  have texts : ∀ s ∈ (first :: items).map text, Nested false s := List.forall_mem_map.mpr nested
  have head : Parameter.ofPiece? (text first) = some (read first) :=
    reads first List.mem_cons_self [] (by simp [Blanks])
  have rest : (items.map fun item => ' ' :: text item).mapM Parameter.ofPiece? =
      some (items.map read) :=
    mapM_ofPiece? fun item member => reads item (List.mem_cons_of_mem _ member) [' '] (by decide)
  unfold Parameter.list?
  rw [List.map_cons, pieces_joined texts, List.mapM_cons, head, List.map_map, Function.comp_def, rest]
  rfl

end

theorem ofPiece?_append (s : Text) {blanks : Text} (blank : Blanks blanks) :
    Parameter.ofPiece? (s ++ blanks) = Parameter.ofPiece? s := by
  unfold Parameter.ofPiece?
  rw [cutFirst_append_right s (notMem_of_blanks blank (by decide))]
  cases Text.cutFirst ':' s with
  | mk name rest =>
      cases rest with
      | none => rfl
      | some rest =>
          dsimp only
          rw [cutLast_append_right rest (notMem_of_blanks blank (by decide))]
          cases Text.cutLast '=' rest with
          | mk type default =>
              cases default <;> simp [trim_append_right _ blank]

/-- The text of a default value: it has no brackets, commas, colons or equals signs. -/
structure DefaultValue where
  text : Text
  nonempty : text ≠ []
  trimmed : Text.trim text = text
  plain : ∀ c ∈ ("()[]<>,=:" : Text), c ∉ text

theorem DefaultValue.nested {inside : Bool} (default : DefaultValue) :
    Nested inside default.text := by
  refine .of_unmarked fun c member => ?_
  by_contra mark
  have marks : ("[]()<>," : Text) ⊆ ("()[]<>,=:" : Text) := by decide
  exact default.plain c (marks (List.contains_iff_mem.mp (eq_true_of_ne_false mark))) member

structure TypedParameter where
  name : Identifier
  type : KotlinType
  default : Option DefaultValue

namespace TypedParameter

def defaultText (parameter : TypedParameter) : Text :=
  match parameter.default with
  | none => []
  | some default => " = " ++ default.text

def text (parameter : TypedParameter) : Text :=
  parameter.name.text ++ ": " ++ parameter.type.text ++ parameter.defaultText

def parameter (parameter : TypedParameter) : Parameter :=
  ⟨parameter.name.text, parameter.type.text, parameter.default.map (·.text)⟩

theorem defaultText_notMem (parameter : TypedParameter) {c : Char} (space : c ≠ ' ')
    (equals : c ≠ '=') (token : ∀ value ∈ parameter.default, c ∉ value.text) :
    c ∉ parameter.defaultText := by
  unfold defaultText
  cases present : parameter.default with
  | none => exact List.not_mem_nil
  | some value => simp [space, equals, token value present]

theorem text_nested (parameter : TypedParameter) : Nested false parameter.text := by
  have colon : Nested false (": " : Text) := .of_unmarked (by simp [isMark])
  have value : Nested false parameter.defaultText := by
    unfold defaultText
    split
    · exact .nil false
    · rename_i default _
      have equals : Nested false (" = " : Text) := .of_unmarked (by simp [isMark])
      exact equals.append default.nested
  exact ((parameter.name.nested.append colon).append parameter.type.text_nested).append value

theorem ofPiece?_text (parameter : TypedParameter) {blanks : Text} (blank : Blanks blanks) :
    Parameter.ofPiece? (blanks ++ parameter.text) = some parameter.parameter := by
  obtain ⟨name, type, default⟩ := parameter
  have space : Blanks [' '] := by decide
  have noColon : ':' ∉ blanks ++ name.text := by
    rw [List.mem_append, not_or]
    exact ⟨notMem_of_blanks blank (by decide), name.notMem (by decide)⟩
  have noEquals : '=' ∉ ' ' :: type.text := by
    rw [List.mem_cons, not_or]
    exact ⟨by decide, type.notMem_text (by decide) (by decide)⟩
  have named : Text.trim (blanks ++ name.text) = name.text := by
    rw [trim_append_left blank, name.trim_text]
  have typed : Text.trim (' ' :: type.text) = type.text :=
    (trim_append_left space type.text).trans type.trim_text
  cases default with
  | none =>
      have written : blanks ++ TypedParameter.text ⟨name, type, none⟩ =
          (blanks ++ name.text) ++ ':' :: (' ' :: type.text) := by
        simp [text, defaultText]
      unfold Parameter.ofPiece?
      rw [written, cutFirst_append noColon]
      simp only [cutLast_of_notMem noEquals, named, typed, parameter]
      rfl
  | some default =>
      have written : blanks ++ TypedParameter.text ⟨name, type, some default⟩ =
          (blanks ++ name.text) ++
            ':' :: ((' ' :: type.text ++ [' ']) ++ '=' :: (' ' :: default.text)) := by
        simp [text, defaultText]
      have noMore : '=' ∉ ' ' :: default.text := by
        rw [List.mem_cons, not_or]
        exact ⟨by decide, default.plain '=' (by decide)⟩
      have valued : Text.trim (' ' :: default.text) = default.text :=
        (trim_append_left space default.text).trans default.trimmed
      unfold Parameter.ofPiece?
      rw [written, cutFirst_append noColon]
      simp only [cutLast_append _ noMore, named, trim_append_right _ space, typed, parameter,
        Option.map_some, valued]

theorem ofPiece?_spaced (parameter : TypedParameter) {before after : Text} (blank : Blanks before)
    (ending : Blanks after) :
    Parameter.ofPiece? (before ++ (parameter.text ++ after)) = some parameter.parameter := by
  rw [← List.append_assoc, ofPiece?_append _ ending, parameter.ofPiece?_text blank]

theorem list?_joined (first : TypedParameter) (parameters : List TypedParameter) :
    Parameter.list? (Text.joined ", " ((first :: parameters).map text)) =
      some ((first :: parameters).map parameter) :=
  Domain.list?_joined (fun one _ => one.text_nested) fun one _ _ blank => one.ofPiece?_text blank

end TypedParameter

end KotlinDoc.Proofs.Domain
