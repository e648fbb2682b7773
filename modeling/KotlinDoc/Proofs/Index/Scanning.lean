import KotlinDoc.Proofs.Doc.Block
import KotlinDoc.Proofs.Index.Declaration
import KotlinDoc.Proofs.Index.Inventory
import KotlinDoc.Proofs.Source.LogicalLine
import KotlinDoc.Proofs.Source.PlainCode

/-!
# Reading the lines of a body

The body of a class is read one logical line at a time (`scan_logicalLine`). Lines that lead from
one depth of braces to another and declare nothing are passed over as a whole (`scan_leads`); the
line that closes the body ends it (`scan_closing`).
-/

namespace KotlinDoc.Proofs

/-! ## Braces -/

def Outside (line : Text) : Prop :=
  Text.has "companion object" (Text.unspaced " " line) = false

instance (line : Text) : Decidable (Outside line) :=
  inferInstanceAs (Decidable (_ = _))

theorem after_outside {line : Text} (outside : Outside line) (depth : Int) :
    Member.Nesting.after ⟨depth, 0⟩ line = ⟨depth + Source.braceExcess line, 0⟩ := by
  unfold Outside at outside
  unfold Member.Nesting.after
  simp only [outside, Bool.false_eq_true, if_false, ite_self]

theorem companion_after {nesting : Member.Nesting} {text : Text} (outside : Outside text) :
    (nesting.after text).companion =
      if (nesting.after text).braces < nesting.companion then 0 else nesting.companion := by
  unfold Outside at outside
  unfold Member.Nesting.after
  simp only [outside, Bool.false_eq_true, if_false]

theorem companion_after_mention {nesting : Member.Nesting} {text : Text}
    (mentioned : ¬ Outside text) :
    (nesting.after text).companion = (nesting.after text).braces := by
  unfold Outside at mentioned
  unfold Member.Nesting.after
  simp only [Bool.not_eq_false] at mentioned
  simp only [mentioned, if_true, Int.lt_irrefl, if_false]

/-- Lines whose braces lead from one depth to another without leaving the body, outside of any
companion object. Each logical line is allowed at the depth before it. -/
inductive Leads (allowed : Int → Text → Prop) : Int → List Text → Int → Prop where
  | nil (depth : Int) : Leads allowed depth [] depth
  | step {depth final : Int} {lines : List Text} (line : LogicalLine)
      (inside : 0 < depth + Source.braceExcess line.text) (outside : Outside line.text)
      (here : allowed depth line.text)
      (rest : Leads allowed (depth + Source.braceExcess line.text) lines final) :
      Leads allowed depth (line.lines ++ lines) final

def PassedOver (depth : Int) (line : Text) : Prop :=
  (1 < depth ∧ Source.braceExcess line = 0) ∨ MemberHeader.ofLine false line = []

instance (depth : Int) (line : Text) : Decidable (PassedOver depth line) :=
  inferInstanceAs (Decidable (_ ∨ _))

theorem Leads.line {allowed : Int → Text → Prop} {depth final : Int} {line : Text}
    {lines : List Text} (next : Int)
    (leads : Source.parenExcess (Text.trimRight line) = 0 ∧
      depth + Source.braceExcess (Text.trimRight line) = next ∧ 0 < next ∧
        Outside (Text.trimRight line) ∧ allowed depth (Text.trimRight line))
    (rest : Leads allowed next lines final) : Leads allowed depth (line :: lines) final := by
  obtain ⟨balanced, rfl, inside, outside, here⟩ := leads
  exact .step ⟨line, [], by decide, balanced⟩ inside outside here rest

/-! ## Members of a line -/

theorem ofHeader_ne_nil (static : Bool) (docstring : List Text) (line : Int) (raw : Text)
    (header : MemberHeader) : Member.ofHeader static docstring line raw header ≠ [] := by
  rcases ofHeader_cases static docstring line raw header with
    made | ⟨-, made⟩ | ⟨-, made⟩ | ⟨-, own, -, made⟩ <;>
    (rw [made]; exact List.cons_ne_nil _ _)

theorem suppression_notMem_above (lines : List Text) :
    Member.suppression ∉ DocComment.above lines := by
  intro suppressed
  have unannotated := above_unannotated lines _ suppressed
  have annotated : Text.startsWith ['@'] (Text.trim Member.suppression) = true := by decide
  rw [unannotated] at annotated
  cases annotated

theorem ofLine_undocumented {inEnum : Bool} {text : Text}
    (undocumented : Member.inlineDoc? text = none) (nesting : Member.Nesting) (site : Site)
    (position : Int) :
    Member.ofLine inEnum nesting site position text =
      (MemberHeader.ofLine inEnum text).flatMap (Member.ofHeader nesting.inCompanion
        (if inEnum then [] else DocComment.above site.above) position text) := by
  have shown : (if inEnum then [] else DocComment.above site.above).contains Member.suppression =
      false := by
    cases inEnum with
    | true => rfl
    | false => simpa using suppression_notMem_above site.above
  unfold Member.ofLine Member.docstringAt
  simp only [undocumented, shown, Bool.false_eq_true, if_false]

theorem PlainCode.inlineDoc?_eq_none {text : Text} (plain : PlainCode text) :
    Member.inlineDoc? text = none := by
  unfold Member.inlineDoc?
  cases found : Text.find? "/**<" text with
  | none => rfl
  | some start =>
      have opening : ['/', '*'] <:+: "/**<".toList := by decide
      exact absurd (opening.trans (isInfix_of_find? found)) plain.noBlock

/-! ## Steps -/

theorem index?_append (inEnum : Bool) (above lines : List Text) :
    Member.index? inEnum (above ++ lines) above.length =
      some (Member.scan inEnum .start above.length 0 (Site.listBelow above.reverse lines)) := by
  rw [index?_natCast, Site.list, drop_listBelow, List.take_left, List.drop_left, List.append_nil]
  rfl

theorem scan_skip (inEnum : Bool) (nesting : Member.Nesting) (position : Int)
    (skipped sites : List Site) :
    Member.scan inEnum nesting position skipped.length (skipped ++ sites) =
      Member.scan inEnum nesting (position + skipped.length) 0 sites := by
  induction skipped generalizing position with
  | nil => simp
  | cons site skipped ih =>
      rw [List.length_cons, List.cons_append, Member.scan, ih]
      congr 1
      push_cast
      omega

def addedMembers (inEnum : Bool) (nesting : Member.Nesting) (site : Site) (position : Int)
    (text : Text) : List Member :=
  if 1 < (nesting.after text).braces && nesting.braces == (nesting.after text).braces then []
  else Member.ofLine inEnum (nesting.after text) site position text

theorem scan_line (inEnum : Bool) (nesting : Member.Nesting) (position : Int) (above : List Text)
    (line : Text) (lines : List Text) :
    Member.scan inEnum nesting position 0 (Site.listBelow above (line :: lines)) =
      if (nesting.after (Lines.join line lines).1).braces ≤ 0 then []
      else
        addedMembers inEnum nesting ⟨line, above⟩ (position + (Lines.join line lines).2)
            (Lines.join line lines).1 ++
          Member.scan inEnum (nesting.after (Lines.join line lines).1) (position + 1)
            (Lines.join line lines).2 (Site.listBelow (line :: above) lines) := by
  rw [Site.listBelow, Member.scan, line_listBelow]
  rfl

theorem scan_joinedLine (inEnum : Bool) (line : JoinedLine) (above rest : List Text)
    (nesting : Member.Nesting) (position : Int) :
    Member.scan inEnum nesting position 0 (Site.listBelow above (line.lines ++ rest)) =
      if (nesting.after line.text).braces ≤ 0 then []
      else
        addedMembers inEnum nesting ⟨line.first, above⟩ (position + line.more.length) line.text ++
          Member.scan inEnum (nesting.after line.text) (position + line.lines.length) 0
            (Site.listBelow (line.lines.reverse ++ above) rest) := by
  have skip := scan_skip inEnum (nesting.after line.text) (position + 1)
    (Site.listBelow (line.first :: above) line.more)
    (Site.listBelow (line.more.reverse ++ line.first :: above) rest)
  rw [length_listBelow] at skip
  have length : position + 1 + (line.more.length : Int) = position + line.lines.length := by
    simp only [JoinedLine.lines, List.length_cons]
    push_cast
    omega
  have below : line.lines.reverse ++ above = line.more.reverse ++ line.first :: above := by
    simp [JoinedLine.lines]
  rw [below, ← length, ← skip, ← listBelow_append]
  show Member.scan inEnum nesting position 0
    (Site.listBelow above (line.first :: (line.more ++ rest))) = _
  rw [scan_line, line.joined rest]

theorem scan_inside (line : LogicalLine) (above rest : List Text) {depth : Int} (position : Int)
    (inside : 0 < depth + Source.braceExcess line.text) (outside : Outside line.text) :
    Member.scan false ⟨depth, 0⟩ position 0 (Site.listBelow above (line.lines ++ rest)) =
      addedMembers false ⟨depth, 0⟩ ⟨line.first, above⟩ (position + line.more.length) line.text ++
        Member.scan false ⟨depth + Source.braceExcess line.text, 0⟩
          (position + line.lines.length) 0 (Site.listBelow (line.lines.reverse ++ above) rest) := by
  have read := scan_joinedLine false line.joinedLine above rest ⟨depth, 0⟩ position
  have text : line.joinedLine.text = line.text := rfl
  rw [text, after_outside outside, if_neg (Int.not_le.mpr inside)] at read
  exact read

theorem scan_logicalLine (line : LogicalLine) (above rest : List Text) {depth : Int}
    (position : Int) (inside : 0 < depth + Source.braceExcess line.text)
    (outside : Outside line.text) :
    Member.scan false ⟨depth, 0⟩ position 0 (Site.listBelow above (line.lines ++ rest)) =
      (if 1 < depth + Source.braceExcess line.text ∧ Source.braceExcess line.text = 0 then []
        else Member.ofLine false ⟨depth + Source.braceExcess line.text, 0⟩ ⟨line.first, above⟩
          (position + line.more.length) line.text) ++
        Member.scan false ⟨depth + Source.braceExcess line.text, 0⟩
          (position + line.lines.length) 0 (Site.listBelow (line.lines.reverse ++ above) rest) := by
  have unchanged : depth = depth + Source.braceExcess line.text ↔
      Source.braceExcess line.text = 0 := by
    omega
  rw [scan_inside line above rest position inside outside, addedMembers, after_outside outside]
  simp only [Bool.and_eq_true, decide_eq_true_eq, beq_iff_eq, unchanged]

theorem scan_leads {depth final : Int} {lines : List Text}
    (leads : Leads PassedOver depth lines final) (above rest : List Text) (position : Int) :
    Member.scan false ⟨depth, 0⟩ position 0 (Site.listBelow above (lines ++ rest)) =
      Member.scan false ⟨final, 0⟩ (position + lines.length) 0
        (Site.listBelow (lines.reverse ++ above) rest) := by
  induction leads generalizing above position with
  | nil depth => simp
  | @step depth final lines line inside outside here _ ih =>
      have nothing : (if 1 < depth + Source.braceExcess line.text ∧
          Source.braceExcess line.text = 0 then []
          else Member.ofLine false ⟨depth + Source.braceExcess line.text, 0⟩ ⟨line.first, above⟩
            (position + line.more.length) line.text) = [] := by
        -- At the depth of the class itself only the lack of a header helps.
        rcases here with ⟨deeper, level⟩ | undeclared
        · rw [if_pos (by omega)]
        · simp [Member.ofLine, undeclared]
      have after := ih (line.lines.reverse ++ above) (position + line.lines.length)
      rw [List.append_assoc, scan_logicalLine line above _ position inside outside, nothing, after]
      simp [Int.add_assoc, List.append_assoc]

theorem excess_brace {before : Text} (blank : Blanks before) {opening closing : Char}
    (solidOpening : isBlank opening = false) (solidClosing : isBlank closing = false) :
    Source.excess opening closing (before ++ ['}']) =
      (['}'].count opening : Int) - ['}'].count closing := by
  have count (c : Char) (solid : isBlank c = false) :
      (before ++ ['}']).count c = ['}'].count c := by
    rw [List.count_append, List.count_eq_zero.mpr (notMem_of_blanks blank solid), Nat.zero_add]
  have notMem (c : Char) (solid : isBlank c = false) (other : c ≠ '}') : c ∉ before ++ ['}'] := by
    rw [List.mem_append, List.mem_singleton]
    rintro (member | same)
    · exact notMem_of_blanks blank solid member
    · exact other same
  rw [excess_of_plain (notMem '"' (by decide) (by decide)) (notMem '/' (by decide) (by decide)),
    count opening solidOpening, count closing solidClosing]

theorem scan_closing {closing : Text} (closes : Text.trim closing = ['}']) (above rest : List Text)
    (position : Int) :
    Member.scan false ⟨1, 0⟩ position 0 (Site.listBelow above (closing :: rest)) = [] := by
  obtain ⟨before, after, blankBefore, blankAfter, written⟩ := exists_blanks_trim closing
  rw [closes] at written
  have text : Text.trimRight closing = before ++ ['}'] := by
    have brace : isBlank '}' = false := by decide
    rw [written, trimRight_append _ blankAfter]
    exact trimRight_concat before brace
  have braces : Source.braceExcess (Text.trimRight closing) = -1 := by
    rw [text]
    exact excess_brace blankBefore (by decide) (by decide)
  have parens : Source.parenExcess (Text.trimRight closing) = 0 := by
    rw [text]
    exact excess_brace blankBefore (by decide) (by decide)
  have joined : Lines.join closing rest = (Text.trimRight closing, 0) :=
    join_logicalLine ⟨closing, [], by decide, parens⟩ rest
  rw [Site.listBelow, Member.scan, line_listBelow, joined]
  simp only [Member.Nesting.after, braces]
  rfl

/-! ## Comments -/

def Commented (line : Text) : Prop :=
  ∃ c t, Text.trim line = c :: t ∧ (c = '*' ∨ c = '/')

theorem trimLeft_commented {line : Text} (commented : Commented line) (rest : Text) :
    ∃ c t, Text.trimLeft (line ++ rest) = c :: t ∧ (c = '*' ∨ c = '/') := by
  obtain ⟨c, t, trimmed, mark⟩ := commented
  obtain ⟨before, after, blank, -, written⟩ := exists_blanks_trim line
  have solid : isBlank c = false := by
    rcases mark with rfl | rfl <;> decide
  refine ⟨c, t ++ after ++ rest, ?_, mark⟩
  rw [written, trimmed, List.append_assoc, List.append_assoc, trimLeft_append blank]
  simpa using trimLeft_cons solid (t ++ (after ++ rest))

theorem ofLine_commented {line : LogicalLine} (commented : Commented line.first) :
    MemberHeader.ofLine false line.text = [] := by
  have right : Commented (Text.trimRight line.first) := by
    unfold Commented
    rwa [trim_trimRight]
  obtain ⟨c, t, start, mark⟩ := trimLeft_commented right _
  rw [← line.text_eq] at start
  have function : FunctionHeader.parse? line.text = none := by
    unfold FunctionHeader.parse?
    rw [start]
    rcases mark with rfl | rfl <;> rfl
  have initial : InitialHeader.parse? line.text = none := by
    unfold InitialHeader.parse?
    rw [start]
    rcases mark with rfl | rfl <;> rfl
  have property : PropertyHeader.parse? line.text = none := by
    unfold PropertyHeader.parse?
    rw [start]
    rcases mark with rfl | rfl <;> rfl
  simp [MemberHeader.ofLine, function, initial, property]

theorem commented_block (block : DocBlock) {line : Text} (member : line ∈ block.lines) :
    Commented line := by
  unfold DocBlock.lines at member
  rcases List.mem_cons.mp member with rfl | member
  · exact ⟨'/', ['*', '*'], block.opens, .inr rfl⟩
  rcases List.mem_append.mp member with star | last
  · obtain ⟨t, trimmed⟩ := trim_of_starred (block.starred line star).1
    exact ⟨'*', t, trimmed, .inl rfl⟩
  · rw [List.mem_singleton.mp last]
    unfold Commented
    rw [← trim_trimRight, block.closes]
    rcases block.margin with blank | starred
    · exact ⟨'*', ['/'], by rw [trim_append_left blank]; decide, .inl rfl⟩
    · obtain ⟨t, trimmed⟩ := trim_of_starred starred
      obtain ⟨before, after, blank, -, written⟩ := exists_blanks_trim block.before
      have star : isBlank '*' = false := by decide
      rw [written, trimmed, List.append_assoc, List.append_assoc, trim_append_left blank]
      exact ⟨'*', _, trim_cons star _, .inl rfl⟩

theorem Leads.imp {allowed other : Int → Text → Prop} {depth final : Int} {lines : List Text}
    (leads : Leads allowed depth lines final)
    (implied : ∀ (line : LogicalLine) (depth : Int), line.first ∈ lines → other depth line.text) :
    Leads other depth lines final := by
  induction leads with
  | nil depth => exact .nil depth
  | step line inside outside _ _ ih =>
      have first : line.first ∈ line.lines := List.mem_cons_self
      exact .step line inside outside (implied line _ (List.mem_append_left _ first))
        (ih fun other depth member => implied other depth (List.mem_append_right _ member))

theorem leads_block (block : DocBlock) (balanced : Leads (fun _ _ => True) 1 block.lines 1) :
    Leads PassedOver 1 block.lines 1 :=
  balanced.imp fun _ _ member => .inr (ofLine_commented (commented_block block member))

end KotlinDoc.Proofs
