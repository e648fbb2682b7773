import KotlinDoc.Proofs.Index.Declaration
import KotlinDoc.Proofs.Source.SymbolForms
import KotlinDoc.Proofs.Text.Spacing

namespace KotlinDoc.Proofs

theorem Named.word {name : Text} (named : Named false name) : ∀ c ∈ name, isAsciiWord c = true :=
  fun c member => (named.written c member).resolve_right (by simp)

theorem Named.notMem {name : Text} (named : Named false name) {c : Char} (other : isAsciiWord c = false) :
    c ∉ name := by
  intro member
  rw [named.word c member] at other
  cases other

theorem Named.solid_text {name : Text} (named : Named false name) : Solid name :=
  fun c member => isBlank_of_isWord (isWord_of_isAsciiWord (named.word c member))

instance (name : Text) : Decidable (Named false name) :=
  decidable_of_iff (name.head?.any Word.isInitial = true ∧ name.all isAsciiWord = true)
    ⟨fun written => ⟨(Option.any_eq_true _ _).mp written.1,
        fun c member => .inl (List.all_eq_true.mp written.2 c member),
        fun c last => List.all_eq_true.mp written.2 c (List.mem_of_mem_getLast? last)⟩,
      fun named => ⟨(Option.any_eq_true _ _).mpr named.starts, List.all_eq_true.mpr named.word⟩⟩

inductive ClassWord where
  | plain
  | data
  | enum
deriving Repr, DecidableEq

namespace ClassWord

def text : ClassWord → Text
  | .plain => "class"
  | .data => "data class"
  | .enum => "enum class"

def form : ClassWord → SymbolForm
  | .plain => .plainClass
  | .data => .dataClass
  | .enum => .enumClass

def kind : ClassWord → SymbolKind
  | .plain => .classKind
  | .data => .dataClass
  | .enum => .enumClass

theorem form_ne_function (word : ClassWord) : word.form ≠ .function := by
  cases word <;> decide

theorem unscoped (word : ClassWord) (s : Text) :
    Word.optional Header.scopeWords (word.text ++ s) = (none, word.text ++ s) := by
  have absent : ∀ scope ∈ ScopeWord.ofProperty, Text.after? scope.text (word.text ++ s) = none := by
    intro scope _
    cases word <;> cases scope <;> rfl
  exact optional_unwritten absent

theorem unmodified (word : ClassWord) (s : Text) :
    Word.optional word.form.modifiers (word.text ++ s) = (none, word.text ++ s) := by
  cases word <;> rfl

theorem keyword_read (word : ClassWord) (s : Text) :
    (word.form.keywords.findSome? fun (words, kind) =>
      (Word.phrase? words (word.text ++ s)).map (·, kind)) = some ((word.text, s), word.kind) := by
  cases word <;> rfl

theorem parse?_line (word : ClassWord) {indent name rest : Text} (indented : Blanks indent)
    (named : Named false name) (ended : ∀ c ∈ rest.head?, isWord c = false)
    (uncolon : SymbolHeader.afterColon? rest = none)
    (allowed : word.form.allowsName (name ++ rest) = true) :
    SymbolHeader.parse? word.form (indent ++ (word.text ++ ' ' :: (name ++ rest))) =
      some (⟨none, word.text, word.kind, name, none, Header.beforeBrace rest⟩,
        Header.fromBrace rest) := by
  have start : Text.trimLeft (indent ++ (word.text ++ ' ' :: (name ++ rest))) =
      word.text ++ ' ' :: (name ++ rest) := by
    rw [trimLeft_append indented]
    cases word <;> exact trimLeft_cons (by decide) _
  have gap : Text.afterBlanks? (' ' :: (name ++ rest)) = some (name ++ rest) := by
    have space : isBlank ' ' = true := by decide
    rw [Text.afterBlanks?, if_pos space, trimLeft_eq_self (named.solid rest)]
  have read := identifier?_append named ended
  unfold SymbolHeader.parse? SymbolHeader.parseNamed?
  simp only [start, unscoped, unmodified, keyword_read, gap, allowed, read, uncolon, bind,
    Option.bind_some, if_true]
  rfl

end ClassWord

end KotlinDoc.Proofs
