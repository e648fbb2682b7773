import KotlinDoc.Doc.Markup
import Mathlib.Algebra.Group.Nat.Even

namespace KotlinDoc.Proofs

open DocComment

def isFence (line : Text) : Bool :=
  Text.startsWith fence (unmargined line)

def codeLine (line : Text) : Text :=
  "    " ++ unmargined line

section

variable (isClass inCode : Bool) {line : Text} (lines : List Text)

theorem markupFrom_fence (fenced : isFence line = true) :
    markupFrom isClass inCode (line :: lines) =
      (if inCode then [] else codeBlock) ++ markupFrom isClass (!inCode) lines := by
  unfold isFence at fenced
  rw [markupFrom, if_pos fenced]

theorem markupFrom_code (plain : isFence line = false) :
    markupFrom isClass true (line :: lines) = codeLine line :: markupFrom isClass true lines := by
  unfold isFence at plain
  simp only [markupFrom, plain, codeLine]
  rfl

theorem markupFrom_prose (plain : isFence line = false) :
    markupFrom isClass false (line :: lines) =
      proseMarkup isClass (unmargined line) ++ markupFrom isClass false lines := by
  unfold isFence at plain
  simp [markupFrom, plain]

end

theorem markupFrom_append (isClass inCode : Bool) (first second : List Text) :
    markupFrom isClass inCode (first ++ second) = markupFrom isClass inCode first ++
      markupFrom isClass (inCode ^^ !decide (Even (first.countP isFence))) second := by
  have flipped (inCode : Bool) (n : Nat) :
      (!inCode ^^ !decide (Even n)) = (inCode ^^ !decide (Even (n + 1))) := by
    rw [decide_eq_decide.mpr Nat.even_add_one, decide_not]
    cases inCode <;> cases decide (Even n) <;> rfl
  induction first generalizing inCode with
  | nil => simp [markupFrom]
  | cons line first ih =>
      rw [List.cons_append]
      cases fenced : isFence line with
      | true =>
          rw [markupFrom_fence _ _ _ fenced, markupFrom_fence _ _ _ fenced, ih, flipped,
            List.append_assoc, List.countP_cons_of_pos fenced]
      | false =>
          rw [List.countP_cons_of_neg (by simp [fenced])]
          cases inCode with
          | true => rw [markupFrom_code _ _ fenced, markupFrom_code _ _ fenced, ih, List.cons_append]
          | false =>
              rw [markupFrom_prose _ _ fenced, markupFrom_prose _ _ fenced, ih, List.append_assoc]

theorem markupFrom_codeLines (isClass : Bool) {code : List Text}
    (plain : ∀ line ∈ code, isFence line = false) (lines : List Text) :
    markupFrom isClass true (code ++ lines) = code.map codeLine ++ markupFrom isClass true lines := by
  induction code with
  | nil => rfl
  | cons line code ih =>
      obtain ⟨here, later⟩ := List.forall_mem_cons.mp plain
      rw [List.cons_append, markupFrom_code _ _ here, ih later]
      rfl

/-- After an even number of fences, a code block is shown line by line, whatever it has in it, and
what follows is read as if it stood alone. -/
theorem markup_fenced (isClass : Bool) {before : List Text} (even : Even (before.countP isFence))
    (after : List Text) :
    (∀ opening code closing, isFence opening = true → (∀ line ∈ code, isFence line = false) →
      isFence closing = true →
      markup isClass (before ++ [opening] ++ code ++ [closing] ++ after) =
        markup isClass before ++ ([".. code-block:: kotlin", ""] : List Text) ++
          code.map (fun line => "    " ++ unmargined line) ++ markup isClass after) ∧
    markup isClass (before ++ after) = markup isClass before ++ markup isClass after := by
  have alone (lines : List Text) :
      markup isClass (before ++ lines) = markup isClass before ++ markup isClass lines := by
    unfold markup
    simp [markupFrom_append, even]
  refine ⟨?_, alone after⟩
  intro opening code closing opens plain closes
  have block : markup isClass (opening :: (code ++ closing :: after)) =
      codeBlock ++ (code.map codeLine ++ markup isClass after) := by
    unfold markup
    rw [markupFrom_fence _ _ _ opens, Bool.not_false, markupFrom_codeLines _ plain,
      markupFrom_fence _ _ _ closes]
    rfl
  simp only [List.append_assoc, List.cons_append, List.nil_append]
  rw [alone, block]
  rfl

def sumDoc : List Text :=
  [" * Adds.", "```", "sum(1)", "*```"]

def sumCode : List Text :=
  [" * @param a", "@return sum"]

def sumTag : List Text :=
  [" * @return the sum"]

theorem markup_fenced_sum :
    markup false (sumDoc ++ ["*```kotlin".toList] ++ sumCode ++ [fence] ++ sumTag) =
      (["Adds.", ".. code-block:: kotlin", "", "    sum(1)", ".. code-block:: kotlin", "",
        "     @param a", "    @return sum", ":returns: the sum"] : List Text) ∧
    markup true (sumDoc ++ sumTag) = markup true sumDoc ++ markup true sumTag := by
  have even : Even (sumDoc.countP isFence) := by decide +kernel
  have plain : ∀ line ∈ sumCode, isFence line = false := by decide +kernel
  have opens : isFence "*```kotlin" = true := by decide +kernel
  have closes : isFence fence = true := by decide +kernel
  constructor
  · rw [(markup_fenced false even sumTag).1 _ _ _ opens plain closes]
    decide +kernel
  · exact (markup_fenced true even sumTag).2

end KotlinDoc.Proofs
