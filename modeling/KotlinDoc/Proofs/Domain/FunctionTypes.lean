import KotlinDoc.Proofs.Domain.TypeGrammar

namespace KotlinDoc.Proofs.Domain

/-! ## Reading brackets -/

def bracketsAfter (b : Brackets) (s : Text) : Brackets :=
  s.foldl Brackets.read b

@[simp] theorem bracketsAfter_nil (b : Brackets) : bracketsAfter b [] = b :=
  rfl

@[simp] theorem bracketsAfter_cons (b : Brackets) (c : Char) (s : Text) :
    bracketsAfter b (c :: s) = bracketsAfter (b.read c) s :=
  rfl

@[simp] theorem bracketsAfter_append (b : Brackets) (s t : Text) :
    bracketsAfter b (s ++ t) = bracketsAfter (bracketsAfter b s) t :=
  List.foldl_append

def Unsplit (b : Brackets) : Text → Prop
  | [] => True
  | c :: s => ¬ (c = ',' ∧ (b.read c).balanced = true) ∧ Unsplit (b.read c) s

theorem unsplit_append {b : Brackets} {s t : Text} :
    Unsplit b (s ++ t) ↔ Unsplit b s ∧ Unsplit (bracketsAfter b s) t := by
  induction s generalizing b with
  | nil => simp [Unsplit]
  | cons c s ih => simp [Unsplit, ih, and_assoc]

theorem bracketsAfter_unmarked (b : Brackets) {s : Text} (unmarked : ∀ c ∈ s, isMark c = false) :
    bracketsAfter b s = b := by
  induction s with
  | nil => rfl
  | cons c s ih =>
      obtain ⟨here, later⟩ := List.forall_mem_cons.mp unmarked
      rw [bracketsAfter_cons, read_unmarked b here, ih later]

theorem unsplit_unmarked (b : Brackets) {s : Text} (unmarked : ∀ c ∈ s, isMark c = false) :
    Unsplit b s := by
  induction s with
  | nil => trivial
  | cons c s ih =>
      obtain ⟨here, later⟩ := List.forall_mem_cons.mp unmarked
      refine ⟨?_, ?_⟩
      · rintro ⟨rfl, -⟩
        cases here
      · rw [read_unmarked b here]
        exact ih later

theorem piecesFrom_unsplit {b : Brackets} {s : Text} (unsplit : Unsplit b s) (rest : Text) :
    Parameter.piecesFrom b (s ++ rest) = onto s (Parameter.piecesFrom (bracketsAfter b s) rest) := by
  induction s generalizing b with
  | nil => exact (onto_nil (piecesFrom_ne_nil b rest)).symm
  | cons c s ih =>
      rw [List.cons_append, piecesFrom_cons, if_neg unsplit.1, ih unsplit.2, onto_onto]
      rfl

theorem piecesFrom_cases (b : Brackets) (s : Text) :
    (Unsplit b s ∧ Parameter.piecesFrom b s = [s]) ∨
      ∃ piece rest, s = piece ++ ',' :: rest ∧ Unsplit b piece ∧
        (bracketsAfter b piece).balanced = true ∧
        Parameter.piecesFrom b s = piece :: Parameter.piecesFrom (bracketsAfter b piece) rest := by
  induction s generalizing b with
  | nil => exact .inl ⟨trivial, rfl⟩
  | cons c s ih =>
      rw [piecesFrom_cons]
      by_cases cut : c = ',' ∧ (b.read c).balanced = true
      · obtain ⟨rfl, balanced⟩ := cut
        refine .inr ⟨[], s, rfl, trivial, balanced, ?_⟩
        rw [if_pos ⟨rfl, balanced⟩]
        rfl
      · rw [if_neg cut]
        rcases ih (b.read c) with ⟨unsplit, whole⟩ | ⟨piece, rest, rfl, unsplit, balanced, pieces⟩
        · exact .inl ⟨⟨cut, unsplit⟩, by rw [whole]; rfl⟩
        · exact .inr ⟨c :: piece, rest, rfl, ⟨cut, unsplit⟩, balanced, by rw [pieces]; rfl⟩

theorem unsplit_cons {b : Brackets} {c : Char} (other : c ≠ ',') (s : Text) :
    Unsplit b (c :: s) ↔ Unsplit (b.read c) s := by
  simp [Unsplit, other]

def Leveled (b : Brackets) : Prop :=
  0 ≤ b.square ∧ 0 ≤ b.round

def Sheltered (b : Brackets) : Prop :=
  0 < b.square + b.round

theorem sheltered_opening {b : Brackets} (leveled : Leveled b) {c : Char} (opening : c = '[' ∨ c = '(') :
    Leveled (b.read c) ∧ Sheltered (b.read c) := by
  obtain ⟨square, round⟩ := leveled
  rcases opening with rfl | rfl <;> simp [Leveled, Sheltered, Brackets.read] <;> omega

theorem balanced_iff {b : Brackets} (leveled : Leveled b) :
    b.balanced = true ↔ ¬ Sheltered b ∧ b.angle = 0 := by
  obtain ⟨square, round⟩ := leveled
  simp only [Brackets.balanced, Sheltered, Bool.and_eq_true, beq_iff_eq]
  omega

/-! ## Types -/

inductive ArrowType where
  | named (first : Identifier) (more : List Identifier)
  | generic (name : Identifier) (arguments : List ArrowType)
  | array (element : ArrowType)
  | tuple (elements : List ArrowType)
  | nullable (type : ArrowType)
  | function (parameters : List ArrowType) (result : ArrowType)

namespace ArrowType

mutual

def text : ArrowType → Text
  | .named first more => KotlinType.text (.named first more)
  | .generic name arguments => name.text ++ '<' :: (Text.joined ", " (texts arguments) ++ ['>'])
  | .array element => '[' :: (element.text ++ [']'])
  | .tuple elements => '(' :: (Text.joined ", " (texts elements) ++ [')'])
  | .nullable type => type.text ++ ['?']
  | .function parameters result =>
    '(' :: (Text.joined ", " (texts parameters) ++ (") -> ".toList ++ result.text))

def texts : List ArrowType → List Text
  | [] => []
  | type :: types => type.text :: texts types

end

mutual

def arrows : ArrowType → Nat
  | .named _ _ => 0
  | .generic _ arguments => arrowsIn arguments
  | .array element => element.arrows
  | .tuple elements => arrowsIn elements
  | .nullable type => type.arrows
  | .function parameters result => arrowsIn parameters + 1 + result.arrows

def arrowsIn : List ArrowType → Nat
  | [] => 0
  | type :: types => type.arrows + arrowsIn types

end

mutual

/-- For each comma of the type outside parentheses and square brackets, the open angle brackets less
the arrows before it, where `level` counts those before the type. -/
def commaLevels (level : Int) : ArrowType → List Int
  | .named _ _ | .array _ | .tuple _ => []
  | .generic _ arguments => commaLevelsIn (level + 1) arguments
  | .nullable type => type.commaLevels level
  | .function parameters result => result.commaLevels (level - arrowsIn parameters - 1)

def commaLevelsIn (level : Int) : List ArrowType → List Int
  | [] => []
  | type :: types =>
    type.commaLevels level ++ (if types.isEmpty then [] else [level - type.arrows]) ++
      commaLevelsIn (level - type.arrows) types

end

theorem joined_texts_cons (type : ArrowType) (types : List ArrowType) :
    Text.joined [',', ' '] (texts (type :: types)) =
      type.text ++ if types.isEmpty then [] else ',' :: ' ' :: Text.joined [',', ' '] (texts types) := by
  cases types with
  | nil => simp [texts, Text.joined]
  | cons next types => simp [texts, joined_cons_cons]

theorem unmarked_named (first : Identifier) (more : List Identifier) :
    ∀ c ∈ KotlinType.text (.named first more), isMark c = false := by
  intro c member
  rcases List.mem_append.mp member with here | later
  · exact isMark_of_isWord (first.word c here)
  · obtain ⟨part, -, inner⟩ := List.mem_flatMap.mp later
    rcases List.mem_cons.mp inner with rfl | word
    · rfl
    · exact isMark_of_isWord (part.word c word)

mutual

theorem bracketsAfter_text : (type : ArrowType) → (b : Brackets) →
    bracketsAfter b type.text = { b with angle := b.angle - type.arrows }
  | .named first more, b => by
      rw [text, bracketsAfter_unmarked b (unmarked_named first more)]
      simp [arrows]
  | .generic name arguments, b => by
      have word := bracketsAfter_unmarked b fun c member => isMark_of_isWord (name.word c member)
      simp [text, arrows, word, bracketsAfter_texts arguments, Brackets.read]
      omega
  | .array element, b => by
      simp [text, arrows, bracketsAfter_text element, Brackets.read]
  | .tuple elements, b => by
      simp [text, arrows, bracketsAfter_texts elements, Brackets.read]
  | .nullable type, b => by
      simp [text, arrows, bracketsAfter_text type, Brackets.read]
  | .function parameters result, b => by
      simp [text, arrows, bracketsAfter_texts parameters, bracketsAfter_text result, Brackets.read]
      omega

theorem bracketsAfter_texts : (types : List ArrowType) → (b : Brackets) →
    bracketsAfter b (Text.joined [',', ' '] (texts types)) =
      { b with angle := b.angle - arrowsIn types }
  | [], b => by simp [texts, Text.joined, arrowsIn]
  | type :: types, b => by
      rw [joined_texts_cons, bracketsAfter_append, bracketsAfter_text type]
      cases types with
      | nil => simp [arrowsIn]
      | cons next types =>
          have rest := bracketsAfter_texts (next :: types) { b with angle := b.angle - type.arrows }
          simp [Brackets.read, rest, arrowsIn]
          omega

end

mutual

/-- A type is divided at a comma if no bracket is open there, an arrow being taken for a closing
one. -/
theorem unsplit_text : (type : ArrowType) → (b : Brackets) → Leveled b →
    (Unsplit b type.text ↔ Sheltered b ∨ 0 ∉ type.commaLevels b.angle)
  | .named first more, b, _ => by
      simp [text, commaLevels, unsplit_unmarked b (unmarked_named first more)]
  | .generic name arguments, b, leveled => by
      have word : ∀ c ∈ name.text, isMark c = false := fun c member =>
        isMark_of_isWord (name.word c member)
      have inner := unsplit_texts arguments (b.read '<') leveled
      simp [text, commaLevels, unsplit_append, unsplit_unmarked b word,
        bracketsAfter_unmarked b word, inner, Unsplit]
      simp [Sheltered, Brackets.read]
  | .array element, b, leveled => by
      obtain ⟨next, sheltered⟩ := sheltered_opening leveled (.inl rfl)
      have inner := (unsplit_text element (b.read '[') next).mpr (.inl sheltered)
      simp [text, commaLevels, unsplit_append, unsplit_cons, inner, Unsplit]
  | .tuple elements, b, leveled => by
      obtain ⟨next, sheltered⟩ := sheltered_opening leveled (.inr rfl)
      have inner := (unsplit_texts elements (b.read '(') next).mpr (.inl sheltered)
      simp [text, commaLevels, unsplit_append, unsplit_cons, inner, Unsplit]
  | .nullable type, b, leveled => by
      simp [text, commaLevels, unsplit_append, unsplit_text type b leveled, Unsplit]
  | .function parameters result, b, leveled => by
      obtain ⟨next, sheltered⟩ := sheltered_opening leveled (.inr rfl)
      have inner := (unsplit_texts parameters (b.read '(') next).mpr (.inl sheltered)
      have outer := unsplit_text result
        { b with angle := b.angle - arrowsIn parameters - 1 } leveled
      have after : bracketsAfter (b.read '(')
          (Text.joined [',', ' '] (texts parameters) ++ [')', ' ', '-', '>', ' ']) =
          { b with angle := b.angle - arrowsIn parameters - 1 } := by
        simp [bracketsAfter_texts, Brackets.read]
      have written : text (.function parameters result) =
          '(' :: (Text.joined [',', ' '] (texts parameters) ++ [')', ' ', '-', '>', ' '] ++
            result.text) := by
        simp [text]
      rw [written, unsplit_cons (by decide), unsplit_append, unsplit_append, after, outer]
      simp [commaLevels, inner, Unsplit, Sheltered]

theorem unsplit_texts : (types : List ArrowType) → (b : Brackets) → Leveled b →
    (Unsplit b (Text.joined [',', ' '] (texts types)) ↔
      Sheltered b ∨ 0 ∉ commaLevelsIn b.angle types)
  | [], b, _ => by simp [texts, commaLevelsIn, Text.joined, Unsplit]
  | type :: types, b, leveled => by
      have here := unsplit_text type b leveled
      rw [joined_texts_cons, unsplit_append, here, bracketsAfter_text, commaLevelsIn]
      cases types with
      | nil => simp [commaLevelsIn, Unsplit]
      | cons next types =>
          have rest := unsplit_texts (next :: types) { b with angle := b.angle - type.arrows } leveled
          have cut := balanced_iff (b := { b with angle := b.angle - type.arrows }) leveled
          have comma : Brackets.read { b with angle := b.angle - type.arrows } ',' =
              { b with angle := b.angle - type.arrows } := rfl
          have space : Brackets.read { b with angle := b.angle - type.arrows } ' ' =
              { b with angle := b.angle - type.arrows } := rfl
          simp only [List.isEmpty_cons, Bool.false_eq_true, if_false, Unsplit, comma, space, cut, rest]
          by_cases sheltered : 0 < b.square + b.round <;> simp [Sheltered, sheltered, eq_comm]

end

mutual

theorem commaLevels_pos : (type : ArrowType) → type.arrows = 0 → (level : Int) → 0 ≤ level →
    ∀ other ∈ type.commaLevels level, 0 < other
  | .named _ _, _, _, _ => by simp [commaLevels]
  | .generic _ arguments, plain, level, above => by
      rw [commaLevels]
      exact commaLevelsIn_pos arguments plain (level + 1) (by omega)
  | .array _, _, _, _ => by simp [commaLevels]
  | .tuple _, _, _, _ => by simp [commaLevels]
  | .nullable type, plain, level, above => by
      rw [commaLevels]
      exact commaLevels_pos type plain level above
  | .function parameters result, plain, _, _ => by simp [arrows] at plain

theorem commaLevelsIn_pos : (types : List ArrowType) → arrowsIn types = 0 → (level : Int) →
    0 < level → ∀ other ∈ commaLevelsIn level types, 0 < other
  | [], _, _, _ => by simp [commaLevelsIn]
  | type :: types, plain, level, above => by
      obtain ⟨here, later⟩ := Nat.add_eq_zero_iff.mp plain
      have same : level - type.arrows = level := by omega
      rw [commaLevelsIn, same]
      intro other member
      rcases List.mem_append.mp member with front | rest
      · rcases List.mem_append.mp front with inner | comma
        · exact commaLevels_pos type here level (Int.le_of_lt above) other inner
        · split at comma
          · cases comma
          · rwa [List.mem_singleton.mp comma]
      · exact commaLevelsIn_pos types later level above other rest

end

/-! ## Written types -/

section

variable {c : Char} (separator : c = ':' ∨ c = '=')

include separator

mutual

theorem notMem_text : (type : ArrowType) → c ∉ type.text
  | .named first more => by
      rcases separator with rfl | rfl <;> exact KotlinType.notMem_text _ (by decide) (by decide)
  | .generic name arguments => by
      have inner := notMem_texts arguments
      have word : c ∉ name.text := name.notMem (by rcases separator with rfl | rfl <;> decide)
      rcases separator with rfl | rfl <;> simp [text, inner, word]
  | .array element => by
      have inner := notMem_text element
      rcases separator with rfl | rfl <;> simp [text, inner]
  | .tuple elements => by
      have inner := notMem_texts elements
      rcases separator with rfl | rfl <;> simp [text, inner]
  | .nullable type => by
      have inner := notMem_text type
      rcases separator with rfl | rfl <;> simp [text, inner]
  | .function parameters result => by
      have inner := notMem_texts parameters
      have outer := notMem_text result
      rcases separator with rfl | rfl <;> simp [text, inner, outer]

theorem notMem_texts : (types : List ArrowType) → c ∉ Text.joined [',', ' '] (texts types)
  | [] => by simp [texts, Text.joined]
  | type :: types => by
      have here := notMem_text type
      have rest := notMem_texts types
      rw [joined_texts_cons]
      rcases separator with rfl | rfl <;> split <;> simp [here, rest]

end

end

end ArrowType

structure Tight (s : Text) : Prop where
  filled : s ≠ []
  starts : ∀ c ∈ s.head?, isBlank c = false
  ends : ∀ c ∈ s.getLast?, isBlank c = false

theorem Tight.single {c : Char} (solid : isBlank c = false) : Tight [c] := by
  constructor <;> simp [solid]

theorem Tight.between {s u : Text} (first : Tight s) (t : Text) (last : Tight u) :
    Tight (s ++ (t ++ u)) where
  filled := by simp [first.filled]
  starts := by
    rw [List.head?_append_of_ne_nil _ first.filled]
    exact first.starts
  ends := by
    rw [← List.append_assoc, List.getLast?_append_of_ne_nil _ last.filled]
    exact last.ends

theorem ArrowType.text_tight : (type : ArrowType) → Tight type.text
  | .named first more => by
      refine ⟨?_, KotlinType.text_head_solid _, KotlinType.text_last_solid _⟩
      simp [text, KotlinType.text, first.nonempty]
  | .generic name arguments => by
      have word : Tight name.text := ⟨name.nonempty, name.head_solid, name.last_solid⟩
      exact word.between ('<' :: _) (.single (c := '>') (by decide))
  | .array element =>
      Tight.between (s := ['[']) (.single (by decide)) _ (.single (c := ']') (by decide))
  | .tuple elements =>
      Tight.between (s := ['(']) (.single (by decide)) _ (.single (c := ')') (by decide))
  | .nullable type => by
      have whole := type.text_tight.between [] (.single (c := '?') (by decide))
      exact whole
  | .function parameters result => by
      have whole := Tight.between (s := ['(']) (.single (by decide))
        (Text.joined ", " (texts parameters) ++ ") -> ".toList) result.text_tight
      rw [List.append_assoc] at whole
      exact whole

/-! ## Parameters -/

structure ArrowParameter where
  name : Identifier
  type : ArrowType

namespace ArrowParameter

def text (parameter : ArrowParameter) : Text :=
  parameter.name.text ++ ':' :: ' ' :: parameter.type.text

def parameter (parameter : ArrowParameter) : Parameter :=
  ⟨parameter.name.text, parameter.type.text, none⟩

def lead (parameter : ArrowParameter) (margin : Text) : Text :=
  margin ++ parameter.name.text ++ [':', ' ']

theorem append_text (parameter : ArrowParameter) (margin : Text) :
    margin ++ parameter.text = parameter.lead margin ++ parameter.type.text := by
  simp [text, lead]

theorem notMem_equals (parameter : ArrowParameter) : '=' ∉ parameter.text := by
  have word : '=' ∉ parameter.name.text := parameter.name.notMem (by decide)
  simp [text, word, ArrowType.notMem_text (.inr rfl) parameter.type]

section

variable (parameter : ArrowParameter) {margin : Text} (blank : Blanks margin)

include blank

theorem unmarked_lead : ∀ c ∈ parameter.lead margin, isMark c = false := by
  intro c member
  rcases List.mem_append.mp member with named | colon
  · rcases List.mem_append.mp named with before | word
    · by_contra mark
      have inside : c ∈ ("[]()<>," : Text) := List.contains_iff_mem.mp (eq_true_of_ne_false mark)
      have solid : ("[]()<>," : Text).all (!isBlank ·) = true := by decide
      have unblank := List.all_eq_true.mp solid c inside
      simp [blank c before] at unblank
    · exact isMark_of_isWord (parameter.name.word c word)
  · have plain : [':', ' '].all (!isMark ·) = true := by decide
    simpa using List.all_eq_true.mp plain c colon

theorem bracketsAfter_text :
    bracketsAfter {} (margin ++ parameter.text) = { angle := -parameter.type.arrows } := by
  rw [append_text, bracketsAfter_append, bracketsAfter_unmarked _ (parameter.unmarked_lead blank),
    ArrowType.bracketsAfter_text]
  simp

theorem unsplit_text : Unsplit {} (margin ++ parameter.text) ↔ 0 ∉ parameter.type.commaLevels 0 := by
  have front := parameter.unmarked_lead blank
  have type := ArrowType.unsplit_text parameter.type {} ⟨Int.le_refl 0, Int.le_refl 0⟩
  rw [append_text, unsplit_append, bracketsAfter_unmarked _ front, type]
  simp [unsplit_unmarked _ front, Sheltered]

theorem ofPiece?_lead {s : Text} (plain : '=' ∉ s) :
    Parameter.ofPiece? (parameter.lead margin ++ s) =
      some ⟨parameter.name.text, Text.trim s, none⟩ := by
  have noColon : ':' ∉ margin ++ parameter.name.text := by
    rw [List.mem_append, not_or]
    exact ⟨notMem_of_blanks blank (by decide), parameter.name.notMem (by decide)⟩
  have noEquals : '=' ∉ ' ' :: s := by simp [plain]
  have named : Text.trim (margin ++ parameter.name.text) = parameter.name.text := by
    rw [trim_append_left blank, parameter.name.trim_text]
  have space : Text.trim (' ' :: s) = Text.trim s := trim_append_left (by decide : Blanks [' ']) s
  have written : parameter.lead margin ++ s = (margin ++ parameter.name.text) ++ ':' :: (' ' :: s) := by
    simp [lead]
  unfold Parameter.ofPiece?
  rw [written, cutFirst_append noColon]
  simp only [cutLast_of_notMem noEquals, named, space]
  rfl

theorem ofPiece?_text : Parameter.ofPiece? (margin ++ parameter.text) = some parameter.parameter := by
  have type := parameter.type.text_tight
  rw [append_text, ofPiece?_lead parameter blank (ArrowType.notMem_text (.inr rfl) parameter.type),
    trim_eq_self type.starts type.ends]
  rfl

end

end ArrowParameter

def Follows (s : Text) : Prop :=
  ∀ c ∈ s.head?, c = ','

theorem follows_cons (s : Text) : Follows (',' :: s) := by
  simp [Follows]

theorem eq_of_trim_eq {s t rest rest' : Text} (tight : Tight t) (trimmed : Text.trim s = t)
    (same : s ++ rest = t ++ rest') (follows : Follows rest') : s = t := by
  obtain ⟨before, after, blank, blank', written⟩ := exists_blanks_trim s
  rw [trimmed] at written
  have flush : before = [] := by
    cases before with
    | nil => rfl
    | cons c before =>
        obtain ⟨d, t, rfl⟩ := List.exists_cons_of_ne_nil tight.filled
        rw [written] at same
        obtain rfl : c = d := (List.cons.inj same).1
        have solid := tight.starts c rfl
        rw [blank c List.mem_cons_self] at solid
        cases solid
  subst flush
  rw [written, List.nil_append, List.append_assoc] at same
  have ending : after = [] := by
    cases after with
    | nil => rfl
    | cons c after =>
        have comma : c = ',' := follows c (by simp [← List.append_cancel_left same])
        have solid := blank' c List.mem_cons_self
        rw [comma] at solid
        cases solid
  rw [written, ending]
  simp

theorem piece_eq (parameter : ArrowParameter) {margin piece rest rest' : Text} (blank : Blanks margin)
    (plain : '=' ∉ piece) (same : piece ++ rest = margin ++ parameter.text ++ rest')
    (follows : Follows rest) (follows' : Follows rest')
    (read : Parameter.ofPiece? piece = some parameter.parameter) :
    piece = margin ++ parameter.text := by
  rw [ArrowParameter.append_text, List.append_assoc] at same
  rw [ArrowParameter.append_text]
  have within : parameter.lead margin <+: piece := by
    rcases List.append_eq_append_iff.mp same with ⟨more, lead, follow⟩ | ⟨s, written, -⟩
    · -- No comma stands before the type.
      cases more with
      | nil => exact ⟨[], by simp [lead]⟩
      | cons c more =>
          have comma : c = ',' := follows c (by simp [follow])
          have unmarked := parameter.unmarked_lead blank c (by simp [lead])
          rw [comma] at unmarked
          cases unmarked
    · exact ⟨s, written.symm⟩
  obtain ⟨s, rfl⟩ := within
  rw [List.append_assoc] at same
  have noEquals : '=' ∉ s := fun member => plain (List.mem_append_right _ member)
  rw [parameter.ofPiece?_lead blank noEquals] at read
  have trimmed : Text.trim s = parameter.type.text := congrArg Parameter.type (Option.some.inj read)
  rw [eq_of_trim_eq parameter.type.text_tight trimmed (List.append_cancel_left same) follows']

theorem balanced_angle (angle : Int) : ({ angle := angle } : Brackets).balanced = true ↔ angle = 0 := by
  simp [Brackets.balanced]

section

variable {margin : Text} (blank : Blanks margin) (parameter : ArrowParameter)

include blank

theorem read_last_iff :
    (Parameter.piecesFrom {} (margin ++ parameter.text)).mapM Parameter.ofPiece? =
        some [parameter.parameter] ↔
      0 ∉ parameter.type.commaLevels 0 := by
  rw [← parameter.unsplit_text blank]
  constructor
  · intro read
    rcases piecesFrom_cases {} (margin ++ parameter.text) with
      ⟨unsplit, -⟩ | ⟨piece, rest, -, -, -, pieces⟩
    · exact unsplit
    · rw [pieces, mapM_cons_eq_some] at read
      exact absurd read.2 (mapM_ne_nil (piecesFrom_ne_nil _ rest))
  · intro unsplit
    have pieces := piecesFrom_unsplit unsplit []
    rw [List.append_nil] at pieces
    rw [pieces]
    simp [onto, Parameter.piecesFrom, parameter.ofPiece?_text blank]

theorem read_next_iff {rest : Text} (plain : '=' ∉ rest) {parameters : List Parameter}
    (filled : parameters ≠ []) :
    (Parameter.piecesFrom {} (margin ++ parameter.text ++ ',' :: rest)).mapM Parameter.ofPiece? =
        some (parameter.parameter :: parameters) ↔
      parameter.type.arrows = 0 ∧
        (Parameter.piecesFrom {} rest).mapM Parameter.ofPiece? = some parameters := by
  have after := parameter.bracketsAfter_text blank
  constructor
  · intro read
    rcases piecesFrom_cases {} (margin ++ parameter.text ++ ',' :: rest) with
      ⟨-, whole⟩ | ⟨piece, tail, written, -, balanced, pieces⟩
    · rw [whole, mapM_cons_eq_some] at read
      exact absurd (Option.some.inj read.2).symm filled
    · rw [pieces, mapM_cons_eq_some] at read
      have noEquals : '=' ∉ piece := by
        intro member
        have inside : '=' ∈ margin ++ parameter.text ++ ',' :: rest :=
          written ▸ List.mem_append_left _ member
        simp [notMem_of_blanks blank (show isBlank '=' = false by decide),
          parameter.notMem_equals, plain] at inside
      obtain rfl : piece = margin ++ parameter.text :=
        piece_eq parameter blank noEquals written.symm (follows_cons tail) (follows_cons rest) read.1
      obtain rfl : rest = tail := (List.cons.inj (List.append_cancel_left written)).2
      rw [after, balanced_angle] at balanced
      have arrowless : parameter.type.arrows = 0 := by omega
      refine ⟨arrowless, ?_⟩
      rw [after, arrowless] at read
      exact read.2
  · rintro ⟨arrowless, read⟩
    have unsplit : Unsplit {} (margin ++ parameter.text) := by
      rw [parameter.unsplit_text blank]
      intro member
      have positive := parameter.type.commaLevels_pos arrowless 0 (Int.le_refl 0) 0 member
      omega
    have pieces : Parameter.piecesFrom {} (margin ++ parameter.text ++ ',' :: rest) =
        (margin ++ parameter.text) :: Parameter.piecesFrom {} rest := by
      rw [piecesFrom_unsplit unsplit, after, arrowless, piecesFrom_cons, if_pos ⟨rfl, rfl⟩]
      simp [onto]
      rfl
    rw [pieces, mapM_cons_eq_some]
    exact ⟨parameter.ofPiece?_text blank, read⟩

end

theorem read_functions_iff {margin : Text} (blank : Blanks margin) (first : ArrowParameter)
    (more : List ArrowParameter) :
    (Parameter.piecesFrom {}
        (margin ++ Text.joined ", " ((first :: more).map (·.text)))).mapM Parameter.ofPiece? =
        some ((first :: more).map (·.parameter)) ↔
      (∀ parameter ∈ (first :: more).dropLast, parameter.type.arrows = 0) ∧
        ∀ parameter ∈ (first :: more).getLast?, 0 ∉ parameter.type.commaLevels 0 := by
  induction more generalizing first margin with
  | nil =>
      have whole : margin ++ Text.joined ", " ([first].map (·.text)) = margin ++ first.text := by
        simp [Text.joined]
      rw [whole, List.map_singleton, read_last_iff blank]
      simp
  | cons second more ih =>
      have rest := ih (show Blanks [' '] by decide) second
      have written : margin ++ Text.joined ", " ((first :: second :: more).map (·.text)) =
          margin ++ first.text ++ ',' :: ([' '] ++ Text.joined ", " ((second :: more).map (·.text))) := by
        simp [joined_cons_cons]
      have plain : '=' ∉ [' '] ++ Text.joined ", " ((second :: more).map (·.text)) := by
        intro member
        rcases List.mem_append.mp member with space | inside
        · simp at space
        · rcases mem_joined inside with between | ⟨s, listed, here⟩
          · simp at between
          · obtain ⟨parameter, -, rfl⟩ := List.mem_map.mp listed
            exact parameter.notMem_equals here
      have step := read_next_iff blank first plain
        (List.cons_ne_nil second.parameter (more.map (·.parameter)))
      rw [written, List.dropLast_cons_cons, List.getLast?_cons_cons, List.forall_mem_cons, and_assoc,
        ← rest]
      exact step

/-- A list of parameters is read back just if a function type stands in the last place only, with no
comma outside all brackets after its arrow. -/
theorem list?_functions_iff (first : ArrowParameter) (more : List ArrowParameter) :
    Parameter.list? (Text.joined ", " ((first :: more).map (·.text))) =
        some ((first :: more).map (·.parameter)) ↔
      (∀ parameter ∈ (first :: more).dropLast, parameter.type.arrows = 0) ∧
        ∀ parameter ∈ (first :: more).getLast?, 0 ∉ parameter.type.commaLevels 0 :=
  read_functions_iff (show Blanks [] by decide) first more

theorem list?_functions_iff_callback :
    ∃ number callback keyed : ArrowParameter, number.text = "n: Int".toList ∧
      callback.text = "f: (Int) -> Int".toList ∧ keyed.text = "g: (Int) -> Map<Int, Int>".toList ∧
      Parameter.list? (Text.joined ", " ([number, callback].map (·.text))) =
        some ([number, callback].map (·.parameter)) ∧
      Parameter.list? (Text.joined ", " ([callback, number].map (·.text))) ≠
        some ([callback, number].map (·.parameter)) ∧
      Parameter.list? (Text.joined ", " ([number, keyed].map (·.text))) ≠
        some ([number, keyed].map (·.parameter)) := by
  let int : ArrowType := .named (.ofText "Int" (by decide) (by decide +kernel)) []
  let map : ArrowType := .generic (.ofText "Map" (by decide) (by decide +kernel)) [int, int]
  let number : ArrowParameter := ⟨.ofText "n" (by decide) (by decide +kernel), int⟩
  let callback : ArrowParameter :=
    ⟨.ofText "f" (by decide) (by decide +kernel), .function [int] int⟩
  let keyed : ArrowParameter := ⟨.ofText "g" (by decide) (by decide +kernel), .function [int] map⟩
  refine ⟨number, callback, keyed, rfl, rfl, rfl, (list?_functions_iff number [callback]).mpr ?_,
    mt (list?_functions_iff callback [number]).mp ?_, mt (list?_functions_iff number [keyed]).mp ?_⟩
  · decide
  · decide
  · decide

end KotlinDoc.Proofs.Domain
