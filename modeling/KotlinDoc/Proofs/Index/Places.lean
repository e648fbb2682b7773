import KotlinDoc.Proofs.Index.Scanning
import KotlinDoc.Proofs.Text.Cutting
import Mathlib.Data.List.Infix

namespace KotlinDoc.Proofs

/-! ## Places -/

def declarationWords : List Text :=
  ["class", "interface", "object", "fun", "val", "var", "init", "constructor", "typealias"]

def startsCompanion (s : Text) : Bool :=
  let words := (Text.piecesAt (fun c => !isAsciiWord c) s).filter (!·.isEmpty)
  match words.reverse.dropWhile (!declarationWords.contains ·) with
  | word :: before :: _ => word == "object" && before == "companion"
  | _ => false

/-- For each open brace, the innermost first, whether it is that of a companion object, and the text
since the last brace. -/
structure Enclosure where
  blocks : List Bool := []
  text : Text := []

def Enclosure.read (enclosure : Enclosure) (c : Char) : Enclosure :=
  if c == '{' then ⟨startsCompanion enclosure.text :: enclosure.blocks, []⟩
  else if c == '}' then ⟨enclosure.blocks.tail, []⟩
  else ⟨enclosure.blocks, enclosure.text ++ [c]⟩

def blocksOf (s : Text) : List Bool :=
  (s.foldl Enclosure.read {}).blocks

def bodyText (lines : List Text) : Text :=
  lines.flatMap (· ++ ['\n'])

inductive LinePlace where
  | body
  | companion
  | nested
deriving DecidableEq

def placeOf (lines : List Text) (number : Nat) : LinePlace :=
  match blocksOf (bodyText (lines.take number)) with
  | [] => .body
  | [true] => .companion
  | _ => .nested

theorem length_blocksOf {s : Text} (inside : ∀ t, t <+: s → t.count '}' ≤ t.count '{') :
    ((blocksOf s).length : Int) = s.count '{' - s.count '}' := by
  induction s using List.reverseRecOn with
  | nil => rfl
  | append_singleton s c ih =>
      have before := ih fun t front => inside t (front.trans (List.prefix_append s [c]))
      have whole := inside (s ++ [c]) List.prefix_rfl
      have read : blocksOf (s ++ [c]) = ((s.foldl Enclosure.read {}).read c).blocks := by
        rw [blocksOf, List.foldl_append]
        rfl
      rw [read]
      unfold blocksOf at before
      generalize s.foldl Enclosure.read {} = enclosure at before ⊢
      simp only [List.count_append, List.count_singleton] at whole ⊢
      by_cases opening : c = '{'
      · subst opening
        simp [Enclosure.read, before]
        omega
      · by_cases closing : c = '}'
        · subst closing
          simp [Enclosure.read] at whole ⊢
          omega
        · simp [Enclosure.read, opening, closing, before]

/-! ## Class bodies -/

/-- The lines of a class body without literals and comments, in which parentheses balance on every
line and braces over all lines, and the line that closes it. -/
structure ClassBody where
  lines : List Text
  closing : Text
  plain : ∀ line ∈ lines ++ [closing], PlainCode line
  parens : ∀ line ∈ lines ++ [closing], line.count '(' = line.count ')'
  inside : ∀ s ∈ (bodyText lines).inits, s.count '}' ≤ s.count '{'
  balanced : (bodyText lines).count '{' = (bodyText lines).count '}'
  closes : closing.count '{' < closing.count '}'

theorem count_bodyText {c : Char} (other : c ≠ '\n') (lines : List Text) :
    (bodyText lines).count c = lines.flatten.count c := by
  induction lines with
  | nil => rfl
  | cons line lines ih =>
      unfold bodyText at ih ⊢
      rw [List.flatMap_cons, List.flatten_cons, List.count_append, List.count_append, ih,
        List.count_append, List.count_singleton]
      simp [other.symm]

theorem depthBefore_eq_bodyText (lines : List Text) (number : Nat) :
    depthBefore lines number = ((bodyText (lines.take number)).count '{' : Int) -
      (bodyText (lines.take number)).count '}' := by
  rw [count_bodyText (by decide), count_bodyText (by decide)]
  rfl

namespace ClassBody

variable (body : ClassBody)

theorem front_inside (number : Nat) :
    ∀ t, t <+: bodyText (body.lines.take number) → t.count '}' ≤ t.count '{' := by
  intro t front
  refine body.inside t ((List.mem_inits _ _).mpr (front.trans ?_))
  have cut := List.take_append_drop number body.lines
  refine ⟨bodyText (body.lines.drop number), ?_⟩
  unfold bodyText
  rw [← List.flatMap_append, cut]

theorem depth_nonneg (number : Nat) : 0 ≤ depthBefore body.lines number := by
  have whole := body.front_inside number _ List.prefix_rfl
  rw [depthBefore_eq_bodyText]
  omega

theorem placeOf_eq_body_iff (number : Nat) :
    placeOf body.lines number = .body ↔ depthBefore body.lines number = 0 := by
  have length := length_blocksOf (body.front_inside number)
  rw [← depthBefore_eq_bodyText] at length
  rw [← length]
  unfold placeOf
  split
  · rename_i empty
    simp [empty]
  · rename_i one
    simp [one]
  · rename_i filled _
    simpa using filled

theorem depth_end : depthBefore body.lines body.lines.length = 0 := by
  rw [depthBefore_eq_bodyText, List.take_length, body.balanced, Int.sub_self]

end ClassBody

/-! ## The state of reading -/

def nestingAfter (nesting : Member.Nesting) (lines : List Text) : Member.Nesting :=
  lines.foldl (fun nesting line => nesting.after (Text.trimRight line)) nesting

def nestingBefore (lines : List Text) (number : Nat) : Member.Nesting :=
  nestingAfter .start (lines.take number)

theorem nestingBefore_succ {lines : List Text} {number : Nat} {line : Text}
    (here : lines[number]? = some line) :
    nestingBefore lines (number + 1) =
      (nestingBefore lines number).after (Text.trimRight line) := by
  simp only [nestingBefore, nestingAfter, List.take_add_one, here, Option.toList_some,
    List.foldl_append, List.foldl_cons, List.foldl_nil]

theorem braceExcess_trimRight {line : Text} (plain : PlainCode line) :
    Source.braceExcess (Text.trimRight line) = (line.count '{' : Int) - line.count '}' := by
  rw [plain.trimRight.braceExcess_eq, count_trimRight (by decide), count_trimRight (by decide)]

theorem braces_nestingBefore {lines : List Text} (plain : ∀ line ∈ lines, PlainCode line)
    (number : Nat) : (nestingBefore lines number).braces = 1 + depthBefore lines number := by
  induction number with
  | zero => rfl
  | succ number ih =>
      cases here : lines[number]? with
      | none =>
          have past : lines.take (number + 1) = lines.take number := by
            simp [List.take_add_one, here]
          unfold nestingBefore depthBefore at *
          rw [past]
          exact ih
      | some line =>
          have own := braceExcess_trimRight (plain line (List.mem_of_getElem? here))
          rw [nestingBefore_succ here, depthBefore_succ here]
          show (nestingBefore lines number).braces + Source.braceExcess (Text.trimRight line) = _
          rw [ih, own]
          omega

/-! ## The words of a companion object -/

def Mentions (line : Text) : Prop :=
  ¬ Outside (Text.trimRight line)

instance (line : Text) : Decidable (Mentions line) :=
  inferInstanceAs (Decidable (¬ _))

/-- Of the first lines, the one with a number is the last with the words of a companion object, and
no brace that was open after it has been closed. -/
structure OpenMention (lines : List Text) (count number : Nat) : Prop where
  before : number < count
  mentions : ∃ line ∈ lines[number]?, Mentions line
  last : ∀ later < count, number < later → ∀ line ∈ lines[later]?, ¬ Mentions line
  kept : ∀ later ≤ count, number < later →
    depthBefore lines (number + 1) ≤ depthBefore lines later

instance (lines : List Text) (count number : Nat) : Decidable (OpenMention lines count number) :=
  decidable_of_iff (number < count ∧ (∃ line ∈ lines[number]?, Mentions line) ∧
      (∀ later < count, number < later → ∀ line ∈ lines[later]?, ¬ Mentions line) ∧
      ∀ later ≤ count, number < later →
        depthBefore lines (number + 1) ≤ depthBefore lines later)
    ⟨fun h => ⟨h.1, h.2.1, h.2.2.1, h.2.2.2⟩, fun h => ⟨h.before, h.mentions, h.last, h.kept⟩⟩

def Mentioned (lines : List Text) (number : Nat) : Prop :=
  ∃ mention < number + 1, OpenMention lines (number + 1) mention

instance (lines : List Text) (number : Nat) : Decidable (Mentioned lines number) :=
  inferInstanceAs (Decidable (∃ mention < number + 1, _))

theorem openMention_here {lines : List Text} {count : Nat} {line : Text}
    (here : lines[count]? = some line) (mentions : Mentions line) :
    OpenMention lines (count + 1) count where
  before := Nat.lt_succ_self count
  mentions := ⟨line, here, mentions⟩
  last later below after := by omega
  kept later upTo after := by
    obtain rfl : later = count + 1 := by omega
    exact Int.le_refl _

theorem openMention_succ_iff {lines : List Text} {count mention : Nat} {line : Text}
    (here : lines[count]? = some line) (silent : ¬ Mentions line) :
    OpenMention lines (count + 1) mention ↔
      OpenMention lines count mention ∧
        depthBefore lines (mention + 1) ≤ depthBefore lines (count + 1) := by
  constructor
  · rintro ⟨before, ⟨own, there, mentions⟩, last, kept⟩
    have earlier : mention ≠ count := by
      rintro rfl
      obtain rfl : own = line := Option.some.inj (there.symm.trans here)
      exact silent mentions
    refine ⟨⟨by omega, ⟨own, there, mentions⟩, ?_, ?_⟩, kept (count + 1) (Nat.le_refl _) before⟩
    · exact fun later below => last later (by omega)
    · exact fun later upTo => kept later (by omega)
  · rintro ⟨⟨before, mentions, last, kept⟩, still⟩
    refine ⟨by omega, mentions, fun later below after other there => ?_, fun later upTo after => ?_⟩
    · rcases Nat.lt_succ_iff_lt_or_eq.mp below with inner | rfl
      · exact last later inner after other there
      · obtain rfl : other = line := Option.some.inj (there.symm.trans here)
        exact silent
    · rcases Nat.le_succ_iff.mp upTo with inner | rfl
      · exact kept later inner after
      · exact still

theorem openMention_unique {lines : List Text} {count first second : Nat}
    (one : OpenMention lines count first) (two : OpenMention lines count second) :
    first = second := by
  obtain ⟨line, there, mentions⟩ := one.mentions
  obtain ⟨line', there', mentions'⟩ := two.mentions
  rcases Nat.lt_trichotomy first second with less | same | more
  · exact absurd mentions' (one.last second two.before less line' there')
  · exact same
  · exact absurd mentions (two.last first one.before more line there)

namespace ClassBody

variable (body : ClassBody)

theorem plain_lines : ∀ line ∈ body.lines, PlainCode line :=
  fun line member => body.plain line (List.mem_append_left _ member)

theorem companion_nestingBefore {count : Nat} (bound : count ≤ body.lines.length) :
    ((nestingBefore body.lines count).companion = 0 ∧
      ∀ mention, ¬ OpenMention body.lines count mention) ∨
    ∃ mention, OpenMention body.lines count mention ∧
      (nestingBefore body.lines count).companion = 1 + depthBefore body.lines (mention + 1) := by
  induction count with
  | zero => exact .inl ⟨rfl, fun mention open' => absurd open'.before (Nat.not_lt_zero _)⟩
  | succ count ih =>
      obtain ⟨line, here⟩ : ∃ line, body.lines[count]? = some line :=
        ⟨_, List.getElem?_eq_getElem (by omega)⟩
      have braces := braces_nestingBefore body.plain_lines (count + 1)
      have nonneg := body.depth_nonneg (count + 1)
      rw [nestingBefore_succ here] at braces ⊢
      by_cases silent : Mentions line
      · rw [companion_after_mention silent, braces]
        exact .inr ⟨count, openMention_here here silent, rfl⟩
      · simp only [openMention_succ_iff here silent]
        rw [companion_after (not_not.mp silent), braces]
        rcases ih (by omega) with ⟨zero, none⟩ | ⟨mention, open', depth⟩
        · exact .inl ⟨by rw [zero, ite_self], fun mention still => none mention still.1⟩
        · rw [depth]
          by_cases fallen : depthBefore body.lines (count + 1) < depthBefore body.lines (mention + 1)
          · refine .inl ⟨if_pos (by omega), fun other still => ?_⟩
            obtain rfl := openMention_unique still.1 open'
            omega
          · exact .inr ⟨mention, ⟨open', by omega⟩, if_neg (by omega)⟩

theorem inCompanion_iff {number : Nat} (bound : number < body.lines.length) :
    (nestingBefore body.lines (number + 1)).inCompanion = true ↔ Mentioned body.lines number := by
  have braces := braces_nestingBefore body.plain_lines (number + 1)
  unfold Member.Nesting.inCompanion Mentioned
  simp only [Bool.and_eq_true, decide_eq_true_eq, braces]
  have state := body.companion_nestingBefore (show number + 1 ≤ body.lines.length from bound)
  rcases state with ⟨zero, none⟩ | ⟨mention, open', depth⟩
  · refine iff_of_false (by omega) ?_
    rintro ⟨mention, -, still⟩
    exact none mention still
  · refine iff_of_true ?_ ⟨mention, open'.before, open'⟩
    have kept := open'.kept (number + 1) (Nat.le_refl _) open'.before
    have nonneg := body.depth_nonneg (mention + 1)
    omega

end ClassBody

/-! ## Reading a body -/

def memberLists (above : List Text) (nesting : Member.Nesting) (position : Int) :
    List Text → List (List Member)
  | [] => []
  | line :: lines =>
    addedMembers false nesting ⟨line, above⟩ position (Text.trimRight line) ::
      memberLists (line :: above) (nesting.after (Text.trimRight line)) (position + 1) lines

theorem length_memberLists (above : List Text) (nesting : Member.Nesting) (position : Int)
    (lines : List Text) : (memberLists above nesting position lines).length = lines.length := by
  induction lines generalizing above nesting position with
  | nil => rfl
  | cons line lines ih => simp [memberLists, ih]

theorem getElem?_memberLists (above : List Text) (nesting : Member.Nesting) (position : Int)
    (lines : List Text) (number : Nat) :
    (memberLists above nesting position lines)[number]? = (lines[number]?).map fun line =>
      addedMembers false (nestingAfter nesting (lines.take number))
        ⟨line, (lines.take number).reverse ++ above⟩ (position + number) (Text.trimRight line) := by
  induction lines generalizing above nesting position number with
  | nil => rfl
  | cons line lines ih =>
      cases number with
      | zero => simp [memberLists, nestingAfter]
      | succ number =>
          rw [memberLists, List.getElem?_cons_succ, List.getElem?_cons_succ, ih, List.take_succ_cons,
            List.reverse_cons, List.append_assoc, Int.add_assoc]
          simp [nestingAfter, Int.add_comm 1]

theorem scan_memberLists {lines : List Text}
    (single : ∀ line ∈ lines, Source.parenExcess (Text.trimRight line) = 0)
    {nesting : Member.Nesting}
    (inside : ∀ number ≤ lines.length, 0 < (nestingAfter nesting (lines.take number)).braces)
    (above rest : List Text) (position : Int) :
    Member.scan false nesting position 0 (Site.listBelow above (lines ++ rest)) =
      (memberLists above nesting position lines).flatten ++
        Member.scan false (nestingAfter nesting lines) (position + lines.length) 0
          (Site.listBelow (lines.reverse ++ above) rest) := by
  induction lines generalizing nesting above position with
  | nil => simp [memberLists, nestingAfter]
  | cons line lines ih =>
      obtain ⟨here, later⟩ := List.forall_mem_cons.mp single
      have first : ¬ (nesting.after (Text.trimRight line)).braces ≤ 0 := by
        have next := inside 1 (Nat.succ_le_succ (Nat.zero_le _))
        exact Int.not_le.mpr next
      have deeper : ∀ number ≤ lines.length,
          0 < (nestingAfter (nesting.after (Text.trimRight line)) (lines.take number)).braces :=
        fun number bound => inside (number + 1) (Nat.succ_le_succ bound)
      rw [List.cons_append, scan_line, join_balanced here]
      dsimp only
      rw [if_neg first, ih later deeper (line :: above) (position + 1), memberLists,
        List.flatten_cons, List.append_assoc]
      push_cast
      simp [nestingAfter, Int.add_assoc, Int.add_comm 1]

/-! ## The members of a line -/

def IsStatic (member : Member) : Prop :=
  Text.startsWith "static_" member.kind.label = true

theorem startsWith_plain (word : MemberWord) :
    Text.startsWith "static_" (MemberKind.plain word).label = false := by
  cases word with
  | initial word => cases word <;> decide
  | _ => decide

theorem startsWith_companion (word : MemberWord) :
    Text.startsWith "static_" (MemberKind.companion word).label = true := by
  cases word with
  | initial word => cases word <;> decide
  | _ => decide

theorem kind_of_mem_ofLine {line : Text} {header : MemberHeader}
    (member : header ∈ MemberHeader.ofLine false line) (static : Bool) :
    ∃ word, header.kind static = if static then .companion word else .plain word := by
  simp only [MemberHeader.ofLine, Bool.false_eq_true, if_false, List.mem_append,
    Option.mem_toList, Option.map_eq_some_iff] at member
  rcases member with (⟨found, -, rfl⟩ | ⟨found, -, rfl⟩) | ⟨found, -, rfl⟩ <;> exact ⟨_, rfl⟩

theorem isStatic_iff {line : Text} {header : MemberHeader}
    (own : header ∈ MemberHeader.ofLine false line) {static : Bool} {docstring : List Text}
    {position : Int} {raw : Text} {member : Member}
    (found : member ∈ Member.ofHeader static docstring position raw header) :
    IsStatic member ↔ static = true := by
  obtain ⟨word, kind⟩ := kind_of_mem_ofLine own static
  have same : ∃ word, member.kind = if static then .companion word else .plain word := by
    rcases mem_ofHeader found with ⟨name, rest, rfl⟩ | ⟨primary, initial, -, listed⟩
    · exact ⟨word, kind⟩
    · -- Only a primary constructor of the class itself declares properties.
      rw [kind] at primary
      cases static with
      | true => cases primary
      | false =>
          rcases mem_ofPrimary listed with ⟨constructor, -⟩ | ⟨property, text, -, made⟩
          · exact ⟨_, constructor⟩
          · cases made
            exact ⟨_, rfl⟩
  obtain ⟨word, shown⟩ := same
  unfold IsStatic
  rw [shown]
  cases static with
  | true => simpa using startsWith_companion word
  | false => simpa using startsWith_plain word

theorem addedMembers_plain {line : Text} (plain : PlainCode line) (nesting : Member.Nesting)
    (above : List Text) (position : Int) :
    addedMembers false nesting ⟨line, above⟩ position (Text.trimRight line) =
      if 1 < (nesting.after (Text.trimRight line)).braces ∧
          nesting.braces = (nesting.after (Text.trimRight line)).braces then []
      else (MemberHeader.ofLine false (Text.trimRight line)).flatMap
        (Member.ofHeader (nesting.after (Text.trimRight line)).inCompanion
          (DocComment.above above) position (Text.trimRight line)) := by
  unfold addedMembers
  rw [ofLine_undocumented plain.trimRight.inlineDoc?_eq_none]
  simp only [Bool.and_eq_true, decide_eq_true_eq, beq_iff_eq]
  rfl

namespace ClassBody

variable (body : ClassBody)

theorem membersOn_eq {number : Nat} {line : Text} (here : body.lines[number]? = some line)
    (above : List Text) (position : Int) :
    addedMembers false (nestingBefore body.lines number) ⟨line, above⟩ position
        (Text.trimRight line) =
      if depthBefore body.lines number = 0 ∨ line.count '{' ≠ line.count '}' then
        (MemberHeader.ofLine false (Text.trimRight line)).flatMap
          (Member.ofHeader (nestingBefore body.lines (number + 1)).inCompanion
            (DocComment.above above) position (Text.trimRight line))
      else [] := by
  have plain := body.plain_lines line (List.mem_of_getElem? here)
  have before := braces_nestingBefore body.plain_lines number
  have after := braces_nestingBefore body.plain_lines (number + 1)
  have next := depthBefore_succ here
  have nonneg := body.depth_nonneg number
  rw [addedMembers_plain plain, ← nestingBefore_succ here, before, after, next]
  by_cases read : depthBefore body.lines number = 0 ∨ line.count '{' ≠ line.count '}'
  · rw [if_pos read, if_neg (by omega)]
  · rw [if_neg read, if_pos (by omega)]

theorem getElem?_found {number : Nat} {line : Text} (here : body.lines[number]? = some line)
    (above : List Text) :
    (memberLists above.reverse .start above.length body.lines)[number]? =
      some (if depthBefore body.lines number = 0 ∨ line.count '{' ≠ line.count '}' then
        (MemberHeader.ofLine false (Text.trimRight line)).flatMap
          (Member.ofHeader (nestingBefore body.lines (number + 1)).inCompanion
            (DocComment.above ((body.lines.take number).reverse ++ above.reverse))
            (above.length + number) (Text.trimRight line))
      else []) := by
  rw [getElem?_memberLists, here, ← body.membersOn_eq here]
  rfl

theorem parenExcess_eq_zero {line : Text} (member : line ∈ body.lines ++ [body.closing]) :
    Source.parenExcess (Text.trimRight line) = 0 := by
  have plain := body.plain line member
  have balanced := body.parens line member
  rw [plain.trimRight.parenExcess_eq, count_trimRight (by decide), count_trimRight (by decide),
    balanced, Int.sub_self]

theorem index?_eq_flatten (above rest : List Text) :
    Member.index? false (above ++ body.lines ++ body.closing :: rest) above.length =
      some (memberLists above.reverse .start above.length body.lines).flatten := by
  have braces := braces_nestingBefore body.plain_lines
  have inside : ∀ number ≤ body.lines.length,
      0 < (nestingAfter .start (body.lines.take number)).braces := by
    intro number _
    have nonneg := body.depth_nonneg number
    have known := braces number
    unfold nestingBefore at known
    omega
  have final : (nestingAfter .start body.lines).braces = 1 := by
    have known := braces body.lines.length
    rw [body.depth_end] at known
    unfold nestingBefore at known
    rwa [List.take_length] at known
  have single : ∀ line ∈ body.lines, Source.parenExcess (Text.trimRight line) = 0 :=
    fun line member => body.parenExcess_eq_zero (List.mem_append_left _ member)
  have last : body.closing ∈ body.lines ++ [body.closing] :=
    List.mem_append_right _ (List.mem_singleton.mpr rfl)
  rw [List.append_assoc, index?_append, scan_memberLists single inside]
  have closed : ((nestingAfter .start body.lines).after (Text.trimRight body.closing)).braces ≤ 0 := by
    have excess := braceExcess_trimRight (body.plain _ last)
    have closes := body.closes
    show (nestingAfter .start body.lines).braces +
      Source.braceExcess (Text.trimRight body.closing) ≤ 0
    omega
  rw [scan_line, join_balanced (body.parenExcess_eq_zero last), if_pos closed, List.append_nil]

end ClassBody

/-! ## Members and places -/

/-- The members of the class itself come from the body, those of a companion object from its braces,
and none from elsewhere. -/
def Fits : LinePlace → Member → Prop
  | .body, member => ¬ IsStatic member
  | .companion, member => IsStatic member
  | .nested, _ => False

/-- What is read of the line is what its place asks for: the words of a companion object hold on it
just if it lies in one, and a line that lies deeper leaves the braces as they are. -/
def ReadAsPlaced (lines : List Text) (number : Nat) (line : Text) : Prop :=
  match placeOf lines number with
  | .body => ¬ Mentioned lines number
  | .companion => Mentioned lines number ∨ line.count '{' = line.count '}'
  | .nested => line.count '{' = line.count '}'

instance (lines : List Text) (number : Nat) (line : Text) :
    Decidable (ReadAsPlaced lines number line) :=
  decidable_of_iff
    ((placeOf lines number = .body → ¬ Mentioned lines number) ∧
      (placeOf lines number = .companion →
        Mentioned lines number ∨ line.count '{' = line.count '}') ∧
      (placeOf lines number = .nested → line.count '{' = line.count '}')) <| by
    unfold ReadAsPlaced
    cases placeOf lines number <;> simp

theorem isStatic_of_mem_flatMap {line : Text} {static : Bool} {docstring : List Text}
    {position : Int} {raw : Text} {member : Member}
    (found : member ∈ (MemberHeader.ofLine false line).flatMap
      (Member.ofHeader static docstring position raw)) : IsStatic member ↔ static = true := by
  obtain ⟨header, own, made⟩ := List.mem_flatMap.mp found
  exact isStatic_iff own made

theorem exists_mem_flatMap {line : Text} (declares : MemberHeader.ofLine false line ≠ [])
    (static : Bool) (docstring : List Text) (position : Int) (raw : Text) :
    ∃ member, member ∈ (MemberHeader.ofLine false line).flatMap
      (Member.ofHeader static docstring position raw) := by
  obtain ⟨header, own⟩ := List.exists_mem_of_ne_nil _ declares
  obtain ⟨member, made⟩ :=
    List.exists_mem_of_ne_nil _ (ofHeader_ne_nil static docstring position raw header)
  exact ⟨member, List.mem_flatMap.mpr ⟨header, own, made⟩⟩

namespace ClassBody

variable (body : ClassBody)

theorem fits_iff {number : Nat} {line : Text} {static : Bool}
    (mentioned : static = true ↔ Mentioned body.lines number) (docstring : List Text)
    (position : Int) (raw : Text) :
    (∀ member ∈ (if depthBefore body.lines number = 0 ∨ line.count '{' ≠ line.count '}' then
        (MemberHeader.ofLine false (Text.trimRight line)).flatMap
          (Member.ofHeader static docstring position raw)
      else []), Fits (placeOf body.lines number) member) ↔
      (MemberHeader.ofLine false (Text.trimRight line) ≠ [] →
        ReadAsPlaced body.lines number line) := by
  by_cases silent : MemberHeader.ofLine false (Text.trimRight line) = []
  · rw [silent]
    exact iff_of_true (by simp) (absurd rfl)
  · rw [imp_iff_right silent]
    obtain ⟨first, listed⟩ := exists_mem_flatMap silent static docstring position raw
    have kinds : ∀ member ∈ (MemberHeader.ofLine false (Text.trimRight line)).flatMap
        (Member.ofHeader static docstring position raw),
        (IsStatic member ↔ Mentioned body.lines number) :=
      fun member found => (isStatic_of_mem_flatMap found).trans mentioned
    have outermost := body.placeOf_eq_body_iff number
    unfold ReadAsPlaced
    cases place : placeOf body.lines number with
    | body =>
        rw [if_pos (.inl (outermost.mp place))]
        exact ⟨fun fits => mt (kinds first listed).mpr (fits first listed),
          fun unmentioned member found => mt (kinds member found).mp unmentioned⟩
    | companion =>
        have deeper : depthBefore body.lines number ≠ 0 := by
          rw [Ne, ← outermost, place]
          nofun
        by_cases level : line.count '{' = line.count '}'
        · exact iff_of_true (by simp [deeper, level]) (.inr level)
        · rw [if_pos (.inr level), or_iff_left level]
          exact ⟨fun fits => (kinds first listed).mp (fits first listed),
            fun open' member found => (kinds member found).mpr open'⟩
    | nested =>
        have deeper : depthBefore body.lines number ≠ 0 := by
          rw [Ne, ← outermost, place]
          nofun
        by_cases level : line.count '{' = line.count '}'
        · exact iff_of_true (by simp [deeper, level]) level
        · rw [if_pos (.inr level)]
          exact iff_of_false (fun fits => fits first listed) level

end ClassBody

/-- Reading a class body gives the members of its lines, in order. A line adds those of its headers
if it starts in the body itself or does not leave the braces as they are, and they are those of a
companion object if its words hold on the line. So all members fit their places exactly if every
line that starts with a header is read as its place asks for. -/
theorem members_placed_iff (body : ClassBody) (above rest : List Text) :
    ∃ found : List (List Member), found.length = body.lines.length ∧
      Member.index? false (above ++ body.lines ++ body.closing :: rest) above.length =
        some found.flatten ∧
      (∀ number line members, body.lines[number]? = some line → found[number]? = some members →
        ∃ static : Bool, (static = true ↔ Mentioned body.lines number) ∧
          members = if depthBefore body.lines number = 0 ∨ line.count '{' ≠ line.count '}' then
            (MemberHeader.ofLine false (Text.trimRight line)).flatMap (Member.ofHeader static
              (DocComment.above ((body.lines.take number).reverse ++ above.reverse))
              (above.length + number) (Text.trimRight line))
          else []) ∧
      ((∀ number members, found[number]? = some members →
          ∀ member ∈ members, Fits (placeOf body.lines number) member) ↔
        ∀ number line, body.lines[number]? = some line →
          MemberHeader.ofLine false (Text.trimRight line) ≠ [] →
            ReadAsPlaced body.lines number line) := by
  refine ⟨memberLists above.reverse .start above.length body.lines, length_memberLists _ _ _ _,
    body.index?_eq_flatten above rest, ?_, ?_⟩
  · intro number line members here found
    have bound := (List.getElem?_eq_some_iff.mp here).1
    rw [body.getElem?_found here] at found
    exact ⟨_, body.inCompanion_iff bound, (Option.some.inj found).symm⟩
  · refine ⟨fun fits number line here => ?_, fun placed number members found => ?_⟩
    · have bound := (List.getElem?_eq_some_iff.mp here).1
      exact (body.fits_iff (body.inCompanion_iff bound) _ _ _).mp
        (fits number _ (body.getElem?_found here above))
    · obtain ⟨line, here, -⟩ := Option.map_eq_some_iff.mp (getElem?_memberLists .. ▸ found)
      have bound := (List.getElem?_eq_some_iff.mp here).1
      rw [body.getElem?_found here] at found
      rw [← Option.some.inj found]
      exact (body.fits_iff (body.inCompanion_iff bound) _ _ _).mpr (placed number line here)

/-- The words of a companion object that is closed on its own line hold on the lines below it. -/
theorem members_placed_iff_companion :
    (∃ body : ClassBody, body.lines = ["val a = 1".toList, "companion object \x7b".toList,
        "fun make() \x7b".toList, "\x7d".toList, "\x7d".toList] ∧
      ∃ found : List (List Member),
        Member.index? false ([] ++ body.lines ++ body.closing :: []) 0 = some found.flatten ∧
        ∀ number members, found[number]? = some members →
          ∀ member ∈ members, Fits (placeOf body.lines number) member) ∧
    ∃ body : ClassBody, body.lines = ["companion object \x7b\x7d".toList, "val a = 1".toList] ∧
      ∃ found : List (List Member),
        Member.index? false ([] ++ body.lines ++ body.closing :: []) 0 = some found.flatten ∧
        ¬ ∀ number members, found[number]? = some members →
          ∀ member ∈ members, Fits (placeOf body.lines number) member := by
  constructor
  · let body : ClassBody := ⟨["val a = 1".toList, "companion object \x7b".toList,
      "fun make() \x7b".toList, "\x7d".toList, "\x7d".toList], "\x7d".toList, by decide, by decide,
      by decide, by decide, by decide⟩
    obtain ⟨found, -, read, -, placed⟩ := members_placed_iff body [] []
    refine ⟨body, rfl, found, read, placed.mpr ?_⟩
    intro number line here declares
    have few : number < 5 := (List.getElem?_eq_some_iff.mp here).1
    rcases (by omega : number = 0 ∨ number = 1 ∨ number = 2 ∨ number = 3 ∨ number = 4) with
      rfl | rfl | rfl | rfl | rfl <;> cases here
    · decide
    · exact absurd (by decide) declares
    · decide
    · exact absurd (by decide) declares
    · exact absurd (by decide) declares
  · let body : ClassBody := ⟨["companion object \x7b\x7d".toList, "val a = 1".toList],
      "\x7d".toList, by decide, by decide, by decide, by decide, by decide⟩
    obtain ⟨found, -, read, -, placed⟩ := members_placed_iff body [] []
    refine ⟨body, rfl, found, read, fun fits => ?_⟩
    exact absurd (placed.mp fits 1 "val a = 1".toList rfl (by decide)) (by decide)

end KotlinDoc.Proofs
