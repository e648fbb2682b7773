import KotlinDoc.Page.Entry
import KotlinDoc.Proofs.Index.Scanning

namespace KotlinDoc.Proofs

def bare (member : Member) : MemberEntry :=
  { member.entry with docstring := [] }

def api (members : List Member) : List MemberEntry :=
  members.map bare

@[simp] theorem api_append (first second : List Member) :
    api (first ++ second) = api first ++ api second :=
  List.map_append

theorem bare_member? (docstring docstring' : List Text) (line : Int)
    (parameter : ConstructorParameter) :
    (parameter.member? docstring line).map bare = (parameter.member? docstring' line).map bare := by
  cases parameter <;> rfl

theorem api_ofPrimary (header : InitialHeader) (docstring docstring' : List Text) (line : Int)
    (raw : Text) :
    api (Member.ofPrimary header docstring line raw) =
      api (Member.ofPrimary header docstring' line raw) := by
  unfold api Member.ofPrimary
  dsimp only
  simp only [List.map_cons, List.map_filterMap, bare_member? docstring docstring']
  rfl

theorem api_ofHeader (static : Bool) (docstring docstring' : List Text) (line : Int) (raw : Text)
    (header : MemberHeader) :
    api (Member.ofHeader static docstring line raw header) =
      api (Member.ofHeader static docstring' line raw header) := by
  unfold Member.ofHeader
  dsimp only
  split
  · rfl
  · rfl
  · exact api_ofPrimary _ _ _ _ _
  · rfl

theorem api_ofLine (inEnum : Bool) (nesting : Member.Nesting) (line : Text)
    (above above' : List Text) (position : Int) (text : Text) :
    api (Member.ofLine inEnum nesting ⟨line, above⟩ position text) =
      api (Member.ofLine inEnum nesting ⟨line, above'⟩ position text) := by
  unfold Member.ofLine Member.docstringAt
  cases Member.inlineDoc? text with
  | some doc => rfl
  | none =>
      cases inEnum with
      | true => rfl
      | false =>
          simp only [api, Bool.false_eq_true, if_false, List.contains_eq_mem,
            suppression_notMem_above, decide_false, List.map_flatMap]
          congr 1
          funext header
          exact api_ofHeader _ _ _ _ _ header

theorem api_addedMembers (inEnum : Bool) (nesting : Member.Nesting) (line : Text)
    (above above' : List Text) (position : Int) (text : Text) :
    api (addedMembers inEnum nesting ⟨line, above⟩ position text) =
      api (addedMembers inEnum nesting ⟨line, above'⟩ position text) := by
  unfold addedMembers
  split
  · rfl
  · exact api_ofLine inEnum _ line above above' position text

theorem ofLine_enum (braces companion companion' : Int) (site : Site) (position : Int)
    (text : Text) :
    Member.ofLine true ⟨braces, companion⟩ site position text =
      Member.ofLine true ⟨braces, companion'⟩ site position text := by
  unfold Member.ofLine MemberHeader.ofLine
  cases EntryHeader.parse? text <;> rfl

theorem scan_enum (braces companion companion' : Int) (position : Int) (skip : Nat)
    (sites : List Site) :
    Member.scan true ⟨braces, companion⟩ position skip sites =
      Member.scan true ⟨braces, companion'⟩ position skip sites := by
  induction sites generalizing braces companion companion' position skip with
  | nil => simp only [Member.scan]
  | cons site sites ih =>
      cases skip with
      | succ skip =>
          rw [Member.scan, Member.scan]
          exact ih ..
      | zero =>
          rw [Member.scan, Member.scan]
          simp only [Member.Nesting.after]
          rw [ih, ofLine_enum]

structure Within (nesting : Member.Nesting) : Prop where
  inside : 0 < nesting.braces
  kept : nesting.companion ≤ nesting.braces

theorem within_start : Within .start :=
  ⟨by decide, by decide⟩

theorem Within.after {nesting : Member.Nesting} {text : Text}
    (inside : 0 < (nesting.after text).braces) : Within (nesting.after text) := by
  refine ⟨inside, ?_⟩
  have braces : (nesting.after text).braces = nesting.braces + Source.braceExcess text := rfl
  rw [braces] at inside
  unfold Member.Nesting.after
  dsimp only
  split <;> split <;> omega

structure Level (inEnum : Bool) (text : Text) : Prop where
  parens : Source.parenExcess text = 0
  braces : Source.braceExcess text = 0
  outside : inEnum = false → Outside text

structure Silent (inEnum : Bool) (text : Text) : Prop extends Level inEnum text where
  headerless : MemberHeader.ofLine inEnum text = []

instance (inEnum : Bool) (text : Text) : Decidable (Level inEnum text) :=
  decidable_of_iff (Source.parenExcess text = 0 ∧ Source.braceExcess text = 0 ∧
      (inEnum = false → Outside text))
    ⟨fun h => ⟨h.1, h.2.1, h.2.2⟩, fun h => ⟨h.parens, h.braces, h.outside⟩⟩

instance (inEnum : Bool) (text : Text) : Decidable (Silent inEnum text) :=
  decidable_of_iff (Level inEnum text ∧ MemberHeader.ofLine inEnum text = [])
    ⟨fun h => ⟨h.1, h.2⟩, fun h => ⟨h.toLevel, h.headerless⟩⟩

namespace Level

variable {inEnum : Bool} {text : Text} (level : Level inEnum text) {nesting : Member.Nesting}

include level

theorem braces_after : (nesting.after text).braces = nesting.braces := by
  show nesting.braces + Source.braceExcess text = nesting.braces
  rw [level.braces, Int.add_zero]

theorem after_eq (within : Within nesting) :
    ∃ companion, nesting.after text = ⟨nesting.braces, companion⟩ ∧
      (inEnum = false → companion = nesting.companion) := by
  refine ⟨(nesting.after text).companion, ?_, fun inClass => ?_⟩
  · rw [← level.braces_after]
  · have outside : Text.has "companion object" (Text.unspaced " " text) = false :=
      level.outside inClass
    unfold Member.Nesting.after
    simp only [level.braces, Int.add_zero, outside, Bool.false_eq_true, if_false,
      if_neg (Int.not_lt.mpr within.kept)]

theorem scan_after (within : Within nesting) (position : Int) (skip : Nat) (sites : List Site) :
    Member.scan inEnum (nesting.after text) position skip sites =
      Member.scan inEnum nesting position skip sites := by
  obtain ⟨companion, after, inClass⟩ := level.after_eq within
  rw [after]
  cases inEnum with
  | true => exact scan_enum _ _ _ position skip sites
  | false => rw [inClass rfl]

theorem ofLine_after (within : Within nesting) (site : Site) (position : Int) (other : Text) :
    Member.ofLine inEnum (nesting.after text) site position other =
      Member.ofLine inEnum nesting site position other := by
  obtain ⟨companion, after, inClass⟩ := level.after_eq within
  rw [after]
  cases inEnum with
  | true => exact ofLine_enum _ _ _ site position other
  | false => rw [inClass rfl]

end Level

theorem addedMembers_silent {inEnum : Bool} {text : Text} (silent : Silent inEnum text)
    (nesting : Member.Nesting) (site : Site) (position : Int) :
    addedMembers inEnum nesting site position text = [] := by
  unfold addedMembers Member.ofLine
  dsimp only
  rw [silent.headerless]
  simp only [List.flatMap_nil, ite_self]

theorem scan_silent {inEnum : Bool} {line : Text} (silent : Silent inEnum (Text.trimRight line))
    {nesting : Member.Nesting} (within : Within nesting) (position : Int) (above lines : List Text) :
    Member.scan inEnum nesting position 0 (Site.listBelow above (line :: lines)) =
      Member.scan inEnum nesting (position + 1) 0 (Site.listBelow (line :: above) lines) := by
  rw [scan_line, join_balanced silent.parens, silent.braces_after,
    if_neg (Int.not_le.mpr within.inside), addedMembers_silent silent, silent.scan_after within]
  rfl

theorem scan_level {inEnum : Bool} {line : Text} (level : Level inEnum (Text.trimRight line))
    (position : Int) (above lines : List Text) :
    Member.scan inEnum .start position 0 (Site.listBelow above (line :: lines)) =
      Member.ofLine inEnum .start ⟨line, above⟩ position (Text.trimRight line) ++
        Member.scan inEnum .start (position + 1) 0 (Site.listBelow (line :: above) lines) := by
  rw [scan_line, join_balanced level.parens, level.braces_after, if_neg (by decide),
    level.scan_after within_start, addedMembers, level.braces_after, if_neg (by decide),
    level.ofLine_after within_start]
  simp

theorem scan_silents {inEnum : Bool} {inner : List Text}
    (silent : ∀ line ∈ inner, Silent inEnum (Text.trimRight line)) {nesting : Member.Nesting}
    (within : Within nesting) (position : Int) (above lines : List Text) :
    Member.scan inEnum nesting position 0 (Site.listBelow above (inner ++ lines)) =
      Member.scan inEnum nesting (position + inner.length) 0
        (Site.listBelow (inner.reverse ++ above) lines) := by
  induction inner generalizing position above with
  | nil => simp
  | cons line inner ih =>
      obtain ⟨first, later⟩ := List.forall_mem_cons.mp silent
      rw [List.cons_append, scan_silent first within, ih later, List.length_cons, List.reverse_cons,
        List.append_assoc]
      congr 1
      push_cast
      omega

def commentStart : Text :=
  "/**"

/-- The lines differ only in silent lines below the start of a comment, as many in both. -/
inductive Alike (inEnum : Bool) : List Text → List Text → Prop where
  | nil : Alike inEnum [] []
  | line (line : Text) {lines lines' : List Text} (rest : Alike inEnum lines lines') :
      Alike inEnum (line :: lines) (line :: lines')
  | comment {opening : Text} {inner inner' lines lines' : List Text}
      (opens : Text.trim opening = commentStart) (length : inner.length = inner'.length)
      (silent : ∀ line ∈ inner, Silent inEnum (Text.trimRight line))
      (silent' : ∀ line ∈ inner', Silent inEnum (Text.trimRight line))
      (rest : Alike inEnum lines lines') :
      Alike inEnum (opening :: (inner ++ lines)) (opening :: (inner' ++ lines'))

def Apart : Nat → List Text → Prop
  | _, [] => True
  | skip + 1, line :: lines => Text.trim line ≠ commentStart ∧ Apart skip lines
  | 0, line :: lines => Apart (Lines.join line lines).2 lines

instance : (skip : Nat) → (lines : List Text) → Decidable (Apart skip lines)
  | _, [] => isTrue trivial
  | skip + 1, line :: lines =>
    have := instDecidableApart skip lines
    inferInstanceAs (Decidable (Text.trim line ≠ commentStart ∧ Apart skip lines))
  | 0, line :: lines => instDecidableApart (Lines.join line lines).2 lines

theorem Alike.length_eq {inEnum : Bool} {lines lines' : List Text}
    (alike : Alike inEnum lines lines') : lines.length = lines'.length := by
  induction alike with
  | nil => rfl
  | line line _ ih => rw [List.length_cons, List.length_cons, ih]
  | comment _ length _ _ _ ih => simp only [List.length_cons, List.length_append, length, ih]

theorem Alike.take_eq {inEnum : Bool} {lines lines' : List Text}
    (alike : Alike inEnum lines lines') {skip : Nat} (apart : Apart skip lines) :
    lines.take skip = lines'.take skip := by
  cases skip with
  | zero => rfl
  | succ skip =>
      induction alike generalizing skip with
      | nil => rfl
      | line line _ ih =>
          rw [List.take_succ_cons, List.take_succ_cons]
          cases skip with
          | zero => rfl
          | succ skip => rw [ih skip apart.2]
      | comment opens => exact absurd opens apart.1

theorem joinOnto_congr {text : Text} {budget : Nat} {lines lines' : List Text}
    (length : lines.length = lines'.length)
    (same : lines.take (Lines.joinOnto text budget lines).2 =
      lines'.take (Lines.joinOnto text budget lines).2) :
    Lines.joinOnto text budget lines' = Lines.joinOnto text budget lines := by
  induction lines generalizing text budget lines' with
  | nil =>
      cases lines' with
      | nil => rfl
      | cons line lines' => cases length
  | cons line lines ih =>
      cases lines' with
      | nil => cases length
      | cons line' lines' =>
          by_cases balanced : Source.parenExcess text = 0
          · unfold Lines.joinOnto
            simp only [balanced, beq_self_eq_true, if_true]
          · cases budget with
            | zero => simp only [Lines.joinOnto, beq_iff_eq, balanced, if_false]
            | succ budget =>
                simp only [Lines.joinOnto, beq_iff_eq, balanced, if_false, List.take_succ_cons,
                  List.cons.injEq] at same ⊢
                obtain ⟨rfl, same⟩ := same
                rw [ih (Nat.succ.inj length) same]

theorem Alike.join_eq {inEnum : Bool} {line : Text} {lines lines' : List Text}
    (alike : Alike inEnum lines lines') (apart : Apart (Lines.join line lines).2 lines) :
    Lines.join line lines' = Lines.join line lines :=
  joinOnto_congr alike.length_eq (alike.take_eq apart)

theorem parenExcess_opening {opening : Text} (opens : Text.trim opening = commentStart) :
    Source.parenExcess (Text.trimRight opening) = 0 := by
  obtain ⟨before, after, blank, blank', written⟩ := exists_blanks_trim opening
  have absent (c : Char) (solid : isBlank c = false) (other : c ∉ commentStart) :
      c ∉ Text.trimRight opening := by
    rw [written, opens, trimRight_append _ blank']
    intro member
    rcases List.mem_append.mp ((isPrefix_trimRight _).subset member) with first | last
    · exact notMem_of_blanks blank solid first
    · exact other last
  exact excess_eq_zero (absent '(' (by decide) (by decide)) (absent ')' (by decide) (by decide))

theorem apart_silents {inEnum : Bool} {inner lines : List Text}
    (silent : ∀ line ∈ inner, Silent inEnum (Text.trimRight line)) :
    Apart 0 (inner ++ lines) ↔ Apart 0 lines := by
  induction inner with
  | nil => rfl
  | cons line inner ih =>
      obtain ⟨first, later⟩ := List.forall_mem_cons.mp silent
      rw [List.cons_append, Apart, join_balanced first.parens]
      exact ih later

theorem api_scan_alike {inEnum : Bool} {lines lines' : List Text}
    (alike : Alike inEnum lines lines') {skip : Nat} (apart : Apart skip lines)
    {nesting : Member.Nesting} (within : Within nesting) (position : Int) (above above' : List Text) :
    api (Member.scan inEnum nesting position skip (Site.listBelow above lines)) =
      api (Member.scan inEnum nesting position skip (Site.listBelow above' lines')) := by
  induction alike generalizing skip nesting position above above' with
  | nil => rfl
  | line line alike ih =>
      cases skip with
      | succ skip =>
          rw [Site.listBelow, Site.listBelow, Member.scan, Member.scan]
          exact ih apart.2 within _ _ _
      | zero =>
          rw [scan_line, scan_line, alike.join_eq apart]
          split
          · rfl
          · rename_i inside
            rw [api_append, api_append, api_addedMembers inEnum nesting line above above',
              ih apart (.after (Int.not_le.mp inside))]
  | @comment opening inner inner' lines lines' opens length silent silent' alike ih =>
      cases skip with
      | succ skip => exact absurd opens apart.1
      | zero =>
          have balanced := parenExcess_opening opens
          have rest : Apart 0 (inner ++ lines) := by
            rw [Apart, join_balanced balanced] at apart
            exact apart
          rw [scan_line, scan_line, join_balanced balanced, join_balanced balanced]
          split
          · rfl
          · rename_i inside
            have next := Within.after (Int.not_le.mp inside)
            rw [api_append, api_append, api_addedMembers inEnum nesting opening above above',
              scan_silents silent next, scan_silents silent' next, length,
              ih ((apart_silents silent).mp rest) next]

end KotlinDoc.Proofs
