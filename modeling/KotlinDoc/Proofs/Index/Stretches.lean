import KotlinDoc.Proofs.Index.Scanning

namespace KotlinDoc.Proofs

def continued (text : Text) (lines : List Text) : Text :=
  text ++ lines.flatMap fun line => ' ' :: Text.trim line

@[simp] theorem continued_nil (text : Text) : continued text [] = text := by
  simp [continued]

theorem continued_cons (text line : Text) (lines : List Text) :
    continued text (line :: lines) = continued (text ++ " " ++ Text.trim line) lines := by
  simp [continued]

theorem length_continued_append (text : Text) (lines : List Text) (line : Text) :
    (continued text lines).length < (continued text (lines ++ [line])).length := by
  simp [continued]

theorem joinOnto_balanced {text : Text} (balanced : Source.parenExcess text = 0) (budget : Nat)
    (lines : List Text) : Lines.joinOnto text budget lines = (text, 0) :=
  joinOnto_continues [] lines balanced (Nat.zero_le budget)

/-- Lines are joined until the parentheses balance, or else as many as may be; one more is passed
then. -/
theorem joinOnto_cases (text : Text) (budget : Nat) (lines : List Text) :
    (∃ count ≤ budget, count ≤ lines.length ∧
      Source.parenExcess (continued text (lines.take count)) = 0 ∧
      Lines.joinOnto text budget lines = (continued text (lines.take count), count)) ∨
    (∀ count ≤ budget, Source.parenExcess (continued text (lines.take count)) ≠ 0) ∧
      Lines.joinOnto text budget lines =
        (continued text (lines.take budget), min budget lines.length + 1) := by
  induction lines generalizing text budget with
  | nil =>
      by_cases balanced : Source.parenExcess text = 0
      · exact .inl ⟨0, by simp [balanced, joinOnto_balanced balanced]⟩
      · exact .inr (by simp [balanced, Lines.joinOnto])
  | cons line lines ih =>
      by_cases balanced : Source.parenExcess text = 0
      · exact .inl ⟨0, by simp [balanced, joinOnto_balanced balanced]⟩
      · cases budget with
        | zero => exact .inr (by simp [balanced, Lines.joinOnto])
        | succ budget =>
            have step : Lines.joinOnto text (budget + 1) (line :: lines) =
                ((Lines.joinOnto (text ++ " " ++ Text.trim line) budget lines).1,
                  (Lines.joinOnto (text ++ " " ++ Text.trim line) budget lines).2 + 1) := by
              simp [Lines.joinOnto, balanced]
            rw [step]
            rcases ih (text ++ " " ++ Text.trim line) budget with
              ⟨count, within, short, zero, joined⟩ | ⟨nonzero, joined⟩
            · refine .inl ⟨count + 1, Nat.succ_le_succ within, Nat.succ_le_succ short, ?_, ?_⟩
              · rwa [List.take_succ_cons, continued_cons]
              · rw [joined, List.take_succ_cons, continued_cons]
            · refine .inr ⟨fun count within => ?_, ?_⟩
              · cases count with
                | zero => simpa using balanced
                | succ count =>
                    rw [List.take_succ_cons, continued_cons]
                    exact nonzero count (Nat.le_of_succ_le_succ within)
              · rw [joined, List.take_succ_cons, continued_cons, List.length_cons,
                  Nat.succ_min_succ]

def joinedText : List Text → Text
  | [] => []
  | line :: lines => continued (Text.trimRight line) lines

def joinFrom (lines : List Text) (number : Nat) : Option (Text × Nat) :=
  match lines.drop number with
  | [] => none
  | line :: below => some ((Lines.join line below).1, number + (Lines.join line below).2)

/-- The parentheses of a line balance when some of the lines below, within the limit, are joined to
it. -/
def Balances (lines : List Text) (number : Nat) : Prop :=
  ∃ count ≤ Lines.maxJoined, number + count < lines.length ∧
    Source.parenExcess (joinedText (lines.extract number (number + count + 1))) = 0

instance (lines : List Text) (number : Nat) : Decidable (Balances lines number) :=
  decidable_of_iff (∃ count < Lines.maxJoined + 1, number + count < lines.length ∧
      Source.parenExcess (joinedText (lines.extract number (number + count + 1))) = 0)
    (by simp only [Balances, Nat.lt_succ_iff])

theorem extract_below {lines below : List Text} {number : Nat} {line : Text}
    (here : lines.drop number = line :: below) (count : Nat) :
    joinedText (lines.extract number (number + count + 1)) =
      continued (Text.trimRight line) (below.take count) := by
  have width : number + count + 1 - number = count + 1 := by omega
  rw [List.extract_eq_take_drop, width, here, List.take_succ_cons]
  rfl

theorem length_drop_cons {lines below : List Text} {number : Nat} {line : Text}
    (here : lines.drop number = line :: below) : lines.length = number + below.length + 1 := by
  have length := congrArg List.length here
  rw [List.length_drop, List.length_cons] at length
  omega

section

variable {lines below : List Text} {number : Nat} {line : Text}
  (here : lines.drop number = line :: below)

include here

theorem balances_iff :
    Balances lines number ↔ ∃ count ≤ Lines.maxJoined, count ≤ below.length ∧
      Source.parenExcess (continued (Text.trimRight line) (below.take count)) = 0 := by
  have length := length_drop_cons here
  have within (count : Nat) : number + count < lines.length ↔ count ≤ below.length := by omega
  simp only [Balances, extract_below here, within]

theorem joined_below_iff :
    (Lines.join line below).2 ≤ below.length ∧
        (Lines.join line below).1 =
          continued (Text.trimRight line) (below.take (Lines.join line below).2) ↔
      Balances lines number := by
  rw [balances_iff here]
  rcases joinOnto_cases (Text.trimRight line) Lines.maxJoined below with
    ⟨count, within, short, zero, joined⟩ | ⟨nonzero, joined⟩
  · rw [Lines.join, joined]
    exact iff_of_true ⟨short, rfl⟩ ⟨count, within, short, zero⟩
  · rw [Lines.join, joined]
    refine iff_of_false ?_ fun ⟨count, within, _, zero⟩ => nonzero count within zero
    rintro ⟨short, whole⟩
    have left : Lines.maxJoined < below.length := by omega
    rw [Nat.min_eq_left (Nat.le_of_lt left), List.take_add_one] at whole
    have longer := length_continued_append (Text.trimRight line) (below.take Lines.maxJoined)
      (below[Lines.maxJoined])
    rw [List.getElem?_eq_getElem left, Option.toList_some] at whole
    rw [← whole] at longer
    exact Nat.lt_irrefl _ longer

end

/-- The lines that are read together: the number of the first, their text, the number of the line at
which reading goes on, and the braces that are open then. -/
structure Stretch where
  start : Nat
  text : Text
  next : Nat
  braces : Int
deriving DecidableEq

def stretches (braces : Int) (number : Nat) : Nat → List Text → List Stretch
  | _, [] => []
  | skip + 1, _ :: lines => stretches braces (number + 1) skip lines
  | 0, line :: lines =>
    let (text, passed) := Lines.join line lines
    let after := braces + Source.braceExcess text
    ⟨number, text, number + passed + 1, after⟩ ::
      if after ≤ 0 then [] else stretches after (number + 1) passed lines

def stretchesFrom (lines : List Text) (number : Nat) : List Stretch :=
  stretches Member.Nesting.start.braces number 0 (lines.drop number)

def membersOfStretches (inEnum : Bool) (lines : List Text) (nesting : Member.Nesting) :
    List Stretch → List Member
  | [] => []
  | stretch :: rest =>
    (if stretch.braces ≤ 0 then []
     else addedMembers inEnum nesting
      ⟨lines.getD stretch.start [], (lines.take stretch.start).reverse⟩ (stretch.next - 1)
      stretch.text) ++
      membersOfStretches inEnum lines (nesting.after stretch.text) rest

theorem scan_stretches (inEnum : Bool) (above below : List Text) (nesting : Member.Nesting) (skip : Nat) :
    Member.scan inEnum nesting above.length skip (Site.listBelow above below) =
      membersOfStretches inEnum (above.reverse ++ below) nesting
        (stretches nesting.braces above.length skip below) := by
  induction below generalizing above nesting skip with
  | nil => cases skip <;> rfl
  | cons line below ih =>
      have lines : (line :: above).reverse ++ below = above.reverse ++ line :: below := by simp
      cases skip with
      | succ skip =>
          have next := ih (line :: above) nesting skip
          rw [lines] at next
          rw [Site.listBelow, Member.scan, stretches]
          exact next
      | zero =>
          have next := ih (line :: above) (nesting.after (Lines.join line below).1)
            (Lines.join line below).2
          rw [lines] at next
          have site : (⟨(above.reverse ++ line :: below).getD above.length [],
              ((above.reverse ++ line :: below).take above.length).reverse⟩ : Site) =
              ⟨line, above⟩ := by
            rw [List.take_left' List.length_reverse, List.reverse_reverse, List.getD_eq_getElem?_getD,
              List.getElem?_append_right (by simp)]
            simp
          have position : ((above.length + (Lines.join line below).2 + 1 : Nat) : Int) - 1 =
              above.length + (Lines.join line below).2 := by
            omega
          have braces : nesting.braces + Source.braceExcess (Lines.join line below).1 =
              (nesting.after (Lines.join line below).1).braces := rfl
          rw [scan_line, stretches]
          dsimp only
          rw [membersOfStretches, site, position, braces]
          split
          · rfl
          · exact congrArg (_ ++ ·) next

/-- The stretches follow one another from a line on, until the lines or the body end. Each has the
text of all its lines, and the braces in it count. -/
inductive Accounted (lines : List Text) : Nat → Int → List Stretch → Prop where
  | done {number : Nat} {braces : Int} (ended : lines.length ≤ number ∨ braces ≤ 0) :
      Accounted lines number braces []
  | read {number : Nat} {braces : Int} {stretch : Stretch} {rest : List Stretch}
      (start : stretch.start = number) (onwards : number < stretch.next)
      (whole : stretch.text = joinedText (lines.extract number stretch.next))
      (counted : stretch.braces = braces + Source.braceExcess stretch.text)
      (more : Accounted lines stretch.next stretch.braces rest) :
      Accounted lines number braces (stretch :: rest)

theorem stretches_skip (braces : Int) (number skip : Nat) (lines : List Text) :
    stretches braces number skip lines = stretches braces (number + skip) 0 (lines.drop skip) := by
  induction lines generalizing number skip with
  | nil => cases skip <;> rfl
  | cons line lines ih =>
      cases skip with
      | zero => rfl
      | succ skip =>
          rw [stretches, ih, List.drop_succ_cons]
          congr 1
          omega

/-- Few lines come after this one, so that all of them may be joined to it. -/
def NearEnd (lines : List Text) (number : Nat) : Prop :=
  lines.length ≤ number + Lines.maxJoined + 1

instance (lines : List Text) (number : Nat) : Decidable (NearEnd lines number) :=
  inferInstanceAs (Decidable (_ ≤ _))

theorem whole_iff {lines below : List Text} {number : Nat} {line : Text}
    (here : lines.drop number = line :: below) :
    (Lines.join line below).1 =
        joinedText (lines.extract number (number + (Lines.join line below).2 + 1)) ↔
      Balances lines number ∨ NearEnd lines number := by
  have length := length_drop_cons here
  have near : NearEnd lines number ↔ below.length ≤ Lines.maxJoined := by
    unfold NearEnd
    omega
  rw [extract_below here, ← joined_below_iff here, near]
  rcases joinOnto_cases (Text.trimRight line) Lines.maxJoined below with
    ⟨count, _, short, _, joined⟩ | ⟨_, joined⟩
  · rw [Lines.join, joined]
    exact iff_of_true rfl (.inl ⟨short, rfl⟩)
  · rw [Lines.join, joined]
    by_cases few : below.length ≤ Lines.maxJoined
    · refine iff_of_true ?_ (.inr few)
      rw [List.take_of_length_le few, List.take_of_length_le (by omega)]
    · have more : min Lines.maxJoined below.length + 1 ≤ below.length := by omega
      simp only [more, few, true_and, or_false]

theorem stretches_drop {lines below : List Text} {number : Nat} {line : Text}
    (here : lines.drop number = line :: below) (braces : Int) :
    stretches braces number 0 (lines.drop number) =
      ⟨number, (Lines.join line below).1, number + (Lines.join line below).2 + 1,
        braces + Source.braceExcess (Lines.join line below).1⟩ ::
        if braces + Source.braceExcess (Lines.join line below).1 ≤ 0 then []
        else stretches (braces + Source.braceExcess (Lines.join line below).1)
          (number + (Lines.join line below).2 + 1) 0
          (lines.drop (number + (Lines.join line below).2 + 1)) := by
  have rest : lines.drop (number + (Lines.join line below).2 + 1) =
      below.drop (Lines.join line below).2 := by
    rw [Nat.add_assoc, ← List.drop_drop, here, List.drop_succ_cons]
  rw [here, stretches]
  dsimp only
  rw [stretches_skip, rest, Nat.add_right_comm number 1]

theorem accounted_iff (lines : List Text) (number : Nat) (braces : Int) :
    Accounted lines number braces (stretches braces number 0 (lines.drop number)) ↔
      ∀ stretch ∈ stretches braces number 0 (lines.drop number),
        Balances lines stretch.start ∨ NearEnd lines stretch.start := by
  -- The lines that are left get fewer with each stretch.
  induction left : lines.length - number using Nat.strong_induction_on generalizing number braces with
  | _ left ih =>
      cases here : lines.drop number with
      | nil =>
          have ended : lines.length ≤ number := List.drop_eq_nil_iff.mp here
          exact iff_of_true (.done (.inl ended)) (by simp [stretches])
      | cons line below =>
          have length := length_drop_cons here
          have whole := whole_iff here
          have onwards : number < number + (Lines.join line below).2 + 1 := by omega
          have next := ih (lines.length - (number + (Lines.join line below).2 + 1)) (by omega)
            (number + (Lines.join line below).2 + 1)
            (braces + Source.braceExcess (Lines.join line below).1) rfl
          rw [← here, stretches_drop here, List.forall_mem_cons, ← whole]
          split
          · rename_i ended
            constructor
            · rintro (_ | ⟨-, -, text, -, -⟩)
              exact ⟨text, by simp⟩
            · rintro ⟨text, -⟩
              exact .read rfl onwards text rfl (.done (.inr ended))
          · rw [← next]
            constructor
            · rintro (_ | ⟨-, -, text, -, more⟩)
              exact ⟨text, more⟩
            · rintro ⟨text, more⟩
              exact .read rfl onwards text rfl more

theorem joinFrom_iff {lines : List Text} {number : Nat} (inside : number < lines.length) :
    (∃ text last, joinFrom lines number = some (text, last) ∧ number ≤ last ∧ last < lines.length ∧
        text = joinedText (lines.extract number (last + 1))) ↔ Balances lines number := by
  obtain ⟨line, below, here⟩ := List.exists_cons_of_ne_nil
    (fun empty => Nat.not_le.mpr inside (List.drop_eq_nil_iff.mp empty))
  have length := length_drop_cons here
  rw [← joined_below_iff here]
  unfold joinFrom
  rw [here]
  constructor
  · rintro ⟨text, last, found, -, within, whole⟩
    cases found
    rw [extract_below here] at whole
    exact ⟨by omega, whole⟩
  · rintro ⟨within, whole⟩
    refine ⟨_, _, rfl, Nat.le_add_right _ _, by omega, ?_⟩
    rw [extract_below here]
    exact whole

theorem index?_stretches (inEnum : Bool) {lines : List Text} {number : Nat}
    (inside : number < lines.length) :
    Member.index? inEnum lines number =
      some (membersOfStretches inEnum lines .start (stretchesFrom lines number)) := by
  have length : (lines.take number).length = number := List.length_take_of_le (Nat.le_of_lt inside)
  have read := index?_append inEnum (lines.take number) (lines.drop number)
  have scan := scan_stretches inEnum (lines.take number).reverse (lines.drop number) .start 0
  rw [List.reverse_reverse, List.length_reverse, List.take_append_drop, length] at scan
  rw [List.take_append_drop, length, scan] at read
  exact read

/-- Joining takes in all lines that it passes exactly if the parentheses of the line balance within
the limit. Reading a body takes in all lines that it passes exactly if those of each line at which
it goes on do, or few lines are left. -/
theorem lines_read_iff (lines : List Text) (number : Nat) (inside : number < lines.length) :
    ((∃ text last, joinFrom lines number = some (text, last) ∧ number ≤ last ∧ last < lines.length ∧
        text = joinedText (lines.extract number (last + 1))) ↔ Balances lines number) ∧
    (∀ inEnum, Member.index? inEnum lines number =
      some (membersOfStretches inEnum lines .start (stretchesFrom lines number))) ∧
    (Accounted lines number Member.Nesting.start.braces (stretchesFrom lines number) ↔
      ∀ stretch ∈ stretchesFrom lines number,
        Balances lines stretch.start ∨ NearEnd lines stretch.start) :=
  ⟨joinFrom_iff inside, fun inEnum => index?_stretches inEnum inside, accounted_iff lines number _⟩

theorem lines_read_iff_header :
    (∃ lines : List Text, lines = ["fun f(".toList, "a: A".toList, ")".toList, "\x7d".toList] ∧
      (∃ text last, joinFrom lines 0 = some (text, last) ∧ 0 ≤ last ∧ last < lines.length ∧
        text = joinedText (lines.extract 0 (last + 1))) ∧
      Accounted lines 0 Member.Nesting.start.braces (stretchesFrom lines 0)) ∧
    ∃ lines : List Text, lines = ["fun f(".toList, "a: A,".toList, "b: B,".toList, "c: C,".toList,
        "d: D,".toList, "e: E,".toList, "g: G".toList, ")".toList, "val b = 1".toList, "\x7d".toList] ∧
      (¬ ∃ text last, joinFrom lines 0 = some (text, last) ∧ 0 ≤ last ∧ last < lines.length ∧
        text = joinedText (lines.extract 0 (last + 1))) ∧
      ¬ Accounted lines 0 Member.Nesting.start.braces (stretchesFrom lines 0) := by
  constructor
  · refine ⟨_, rfl, ?_⟩
    obtain ⟨joined, -, read⟩ := lines_read_iff
      ["fun f(".toList, "a: A".toList, ")".toList, "\x7d".toList] 0 (by decide)
    exact ⟨joined.mpr (by decide), read.mpr (by decide)⟩
  · refine ⟨_, rfl, ?_⟩
    obtain ⟨joined, -, read⟩ := lines_read_iff
      ["fun f(".toList, "a: A,".toList, "b: B,".toList, "c: C,".toList, "d: D,".toList, "e: E,".toList,
        "g: G".toList, ")".toList, "val b = 1".toList, "\x7d".toList] 0 (by decide)
    exact ⟨mt joined.mp (by decide), mt read.mp (by decide)⟩

end KotlinDoc.Proofs
