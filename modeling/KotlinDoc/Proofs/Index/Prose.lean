import KotlinDoc.Proofs.Index.LoudLines
import KotlinDoc.Source.EnumBody

/-!
# The prose of comments

The lines of a comment are read as any other lines of a body, and those of an enum are marked as
entries. So prose has no part in what is listed of a class or an enum if it is quiet: if it says
nothing as code, and of an enum neither with the mark nor by a stop word. Any other line without
literals and comments changes what is listed of some body (`prose_unlisted_iff`).
-/

namespace KotlinDoc.Proofs

/-! ## Prose -/

def commentEnd : Text :=
  "*/"

structure Interior (line : Text) : Prop where
  unopened : ¬ ['/', '*'] <:+: line
  unclosed : ¬ ['*', '/'] <:+: line

instance (line : Text) : Decidable (Interior line) :=
  decidable_of_iff (¬ ['/', '*'] <:+: line ∧ ¬ ['*', '/'] <:+: line)
    ⟨fun h => ⟨h.1, h.2⟩, fun h => ⟨h.unopened, h.unclosed⟩⟩

/-- The bodies have the same lines but for the interior lines of comments, which are as many in both
and all in `prose`. -/
inductive Reworded (prose : Text → Prop) : List Text → List Text → Prop where
  | nil : Reworded prose [] []
  | line (line : Text) {body body' : List Text} (rest : Reworded prose body body') :
      Reworded prose (line :: body) (line :: body')
  | comment {opening closing : Text} {inner inner' body body' : List Text}
      (opens : Text.trim opening = commentStart) (closes : Text.trim closing = commentEnd)
      (length : inner.length = inner'.length)
      (own : ∀ line ∈ inner, Interior line ∧ prose line)
      (own' : ∀ line ∈ inner', Interior line ∧ prose line) (rest : Reworded prose body body') :
      Reworded prose (opening :: (inner ++ closing :: body)) (opening :: (inner' ++ closing :: body'))

theorem Reworded.imp {prose other : Text → Prop} {body body' : List Text}
    (reworded : Reworded prose body body') (implied : ∀ line, prose line → other line) :
    Reworded other body body' := by
  induction reworded with
  | nil => exact .nil
  | line line _ ih => exact .line line ih
  | comment opens closes length own own' _ ih =>
      exact .comment opens closes length
        (fun line member => ⟨(own line member).1, implied line (own line member).2⟩)
        (fun line member => ⟨(own' line member).1, implied line (own' line member).2⟩) ih

def indexedLines (inEnum : Bool) (body : List Text) : List Text :=
  if inEnum then EnumBody.mark body else body

def SameApi (inEnum : Bool) (body body' : List Text) : Prop :=
  ∀ above : List Text,
    (Member.index? inEnum (above ++ indexedLines inEnum body) above.length).map api =
      (Member.index? inEnum (above ++ indexedLines inEnum body') above.length).map api

def marked (line : Text) : Text :=
  "case: " ++ line

/-- The line says nothing as code. A line of an enum says nothing with the mark of an entry either,
and has no word that would end the entries. -/
structure Quiet (inEnum : Bool) (line : Text) : Prop where
  silent : Silent inEnum (Text.trimRight line)
  silentMarked : inEnum = true → Silent true (Text.trimRight (marked line))
  stopless : inEnum = true → Source.hasStopWord (Text.trim line) = false

instance (inEnum : Bool) (line : Text) : Decidable (Quiet inEnum line) :=
  decidable_of_iff (Silent inEnum (Text.trimRight line) ∧
      (inEnum = true → Silent true (Text.trimRight (marked line))) ∧
      (inEnum = true → Source.hasStopWord (Text.trim line) = false))
    ⟨fun h => ⟨h.1, h.2.1, h.2.2⟩, fun h => ⟨h.silent, h.silentMarked, h.stopless⟩⟩

theorem quiet_nil (inEnum : Bool) : Quiet inEnum [] := by
  cases inEnum <;> decide

/-! ## Marking -/

theorem Interior.commentExcess_eq {line : Text} (interior : Interior line) :
    Source.commentExcess (Text.trim line) = 0 := by
  have inside := isInfix_trim line
  unfold Source.commentExcess
  rw [show Text.occurrences "/*" (Text.trim line) = 0 from
      (occurrences_eq_zero_iff (by decide)).mpr fun opened =>
        interior.unopened (opened.trans inside),
    show Text.occurrences "*/" (Text.trim line) = 0 from
      (occurrences_eq_zero_iff (by decide)).mpr fun closed =>
        interior.unclosed (closed.trans inside)]
  rfl

theorem Interior.not_startsWith {line : Text} (interior : Interior line) :
    Text.startsWith "/**" (Text.trim line) = false := by
  cases starts : Text.startsWith "/**" (Text.trim line) with
  | false => rfl
  | true =>
      have first : "/**".toList <+: Text.trim line := List.isPrefixOf_iff_prefix.mp starts
      have opened : ['/', '*'] <:+: "/**".toList := by decide
      exact absurd (opened.trans (first.isInfix.trans (isInfix_trim line))) interior.unopened

theorem markFrom_opening {opening : Text} (opens : Text.trim opening = commentStart)
    (comments : Int) (ended : Bool) (lines : List Text) :
    EnumBody.markFrom comments ended (opening :: lines) =
      opening :: EnumBody.markFrom (comments + 1) ended lines := by
  have excess : Source.commentExcess commentStart = 1 := by decide
  have stopless : Source.hasStopWord commentStart = false := by decide
  have starts : Text.startsWith "/**" commentStart = true := by decide
  rw [EnumBody.markFrom]
  simp only [opens, excess, stopless, starts, Bool.and_false, Bool.or_false, Bool.or_true, if_true]

theorem markFrom_ended (comments : Int) (lines : List Text) :
    EnumBody.markFrom comments true lines = lines := by
  induction lines generalizing comments with
  | nil => rfl
  | cons line lines ih =>
      rw [EnumBody.markFrom]
      simp only [Bool.true_or, if_true, ih]

theorem Interior.markFrom_cons {line : Text} (interior : Interior line) {comments : Int}
    {ended : Bool}
    (going : ended = false → comments = 0 → Source.hasStopWord (Text.trim line) = false)
    (lines : List Text) :
    EnumBody.markFrom comments ended (line :: lines) =
      (if ended then line else marked line) :: EnumBody.markFrom comments ended lines := by
  rw [EnumBody.markFrom]
  simp only [interior.commentExcess_eq, interior.not_startsWith, Int.add_zero, Bool.or_false]
  cases ended with
  | true => rfl
  | false =>
      have same : (comments == 0 && Source.hasStopWord (Text.trim line)) = false := by
        by_cases outside : comments = 0
        · rw [going rfl outside, Bool.and_false]
        · simp [outside]
      simp only [same, Bool.or_false]
      rfl

theorem markFrom_inner {inner : List Text}
    (own : ∀ line ∈ inner, Interior line ∧ Source.hasStopWord (Text.trim line) = false)
    (comments : Int) (ended : Bool) (lines : List Text) :
    EnumBody.markFrom comments ended (inner ++ lines) =
      inner.map (fun line => if ended then line else marked line) ++
        EnumBody.markFrom comments ended lines := by
  induction inner with
  | nil => rfl
  | cons line inner ih =>
      obtain ⟨⟨interior, stopless⟩, later⟩ := List.forall_mem_cons.mp own
      rw [List.cons_append, interior.markFrom_cons fun _ _ => stopless, ih later]
      rfl

/-! ## Quiet prose -/

theorem alike_of_reworded {body body' : List Text} (reworded : Reworded (Quiet false) body body') :
    Alike false body body' := by
  induction reworded with
  | nil => exact .nil
  | line line _ ih => exact .line line ih
  | comment opens _ length own own' _ ih =>
      exact .comment opens length (fun line member => (own line member).2.silent)
        (fun line member => (own' line member).2.silent) (.line _ ih)

theorem alike_markFrom {body body' : List Text} (reworded : Reworded (Quiet true) body body')
    (comments : Int) (ended : Bool) :
    Alike true (EnumBody.markFrom comments ended body) (EnumBody.markFrom comments ended body') := by
  induction reworded generalizing comments ended with
  | nil => exact .nil
  | line line _ ih =>
      rw [EnumBody.markFrom, EnumBody.markFrom]
      exact .line _ (ih _ _)
  | @comment opening closing inner inner' body body' opens closes length own own' _ ih =>
      have stopless {lines : List Text} (own : ∀ line ∈ lines, Interior line ∧ Quiet true line) :
          ∀ line ∈ lines, Interior line ∧ Source.hasStopWord (Text.trim line) = false :=
        fun line member => ⟨(own line member).1, (own line member).2.stopless rfl⟩
      have silent {lines : List Text} (own : ∀ line ∈ lines, Interior line ∧ Quiet true line) :
          ∀ line ∈ lines.map (fun line => if ended then line else marked line),
            Silent true (Text.trimRight line) := by
        intro line member
        obtain ⟨written, inside, rfl⟩ := List.mem_map.mp member
        split
        · exact (own written inside).2.silent
        · exact (own written inside).2.silentMarked rfl
      rw [markFrom_opening opens, markFrom_opening opens, markFrom_inner (stopless own),
        markFrom_inner (stopless own'), EnumBody.markFrom, EnumBody.markFrom]
      refine .comment opens ?_ (silent own) (silent own') (.line _ (ih _ _))
      rw [List.length_map, List.length_map, length]

theorem sameApi_of_quiet {inEnum : Bool} {body body' : List Text}
    (reworded : Reworded (Quiet inEnum) body body') (apart : Apart 0 (indexedLines inEnum body)) :
    SameApi inEnum body body' := by
  have alike : Alike inEnum (indexedLines inEnum body) (indexedLines inEnum body') := by
    cases inEnum with
    | false => exact alike_of_reworded reworded
    | true => exact alike_markFrom reworded 0 false
  intro above
  rw [index?_append, index?_append, Option.map_some, Option.map_some,
    api_scan_alike alike apart within_start]

/-! ## Bodies around a comment -/

def around (before after : List Text) (line : Text) : List Text :=
  before ++ commentStart :: line :: commentEnd :: after

theorem reworded_around {line line' : Text} (interior : Interior line) (interior' : Interior line')
    (before after : List Text) :
    Reworded (fun other => other = line' ∨ other = line) (around before after line)
      (around before after line') := by
  have same : Reworded (fun other => other = line' ∨ other = line) after after := by
    induction after with
    | nil => exact .nil
    | cons next after ih => exact .line next ih
  induction before with
  | nil =>
      have own {written : Text} (inside : Interior written)
          (known : written = line' ∨ written = line) :
          ∀ other ∈ [written], Interior other ∧ (other = line' ∨ other = line) := by
        intro other member
        rw [List.mem_singleton.mp member]
        exact ⟨inside, known⟩
      exact @Reworded.comment _ commentStart commentEnd [line] [line'] after after (by decide)
        (by decide) rfl (own interior (.inr rfl)) (own interior' (.inl rfl)) same
  | cons next before ih => exact .line next ih

def valEntry (name rest : Text) (static : Bool) : MemberEntry where
  kind := if static then "static_val" else "val"
  scope := "public"
  name := name
  rest := some rest
  rawValue := none
  docstring := []

def caseEntry (name : Text) (_static : Bool) : MemberEntry where
  kind := "enum_case"
  scope := "public"
  name := name
  rest := none
  rawValue := none
  docstring := []

theorem lists_of_header {inEnum : Bool} {line : Text} {entry : Bool → MemberEntry}
    {header : MemberHeader} (level : Level inEnum (Text.trimRight line))
    (undocumented : Member.inlineDoc? (Text.trimRight line) = none)
    (headed : MemberHeader.ofLine inEnum (Text.trimRight line) = [header])
    (single : ∀ static docstring position,
      api (Member.ofHeader static docstring position (Text.trimRight line) header) =
        [entry static]) : Lists inEnum line entry where
  level := level
  undocumented := undocumented
  listed static docstring position := by
    rw [headed, List.flatMap_singleton, single]

theorem classFrame :
    Frame false commentEnd "val a = 1" "val b = 2" (valEntry "a" "= 1") (valEntry "b" "= 2") where
  silent := by decide
  firstLists := by
    apply lists_of_header (by decide) (by decide) (by decide :
      _ = [.property ⟨none, "val ", "a", " = 1", none⟩])
    intro static docstring position
    cases static <;> rfl
  secondLists := by
    apply lists_of_header (by decide) (by decide) (by decide :
      _ = [.property ⟨none, "val ", "b", " = 2", none⟩])
    intro static docstring position
    cases static <;> rfl
  flat := by decide
  kind _ := rfl
  placed _ := by decide

theorem lists_entry {name line : Text} (level : Level true (Text.trimRight line))
    (undocumented : Member.inlineDoc? (Text.trimRight line) = none)
    (headed : MemberHeader.ofLine true (Text.trimRight line) = [.entry ⟨name, none⟩]) :
    Lists true line (caseEntry name) :=
  lists_of_header level undocumented headed fun _ _ _ => rfl

theorem enumFrame {closing : Text} (closes : closing = commentEnd ∨ closing = marked commentEnd) :
    Frame true closing (marked "A") (marked "B") (caseEntry "A") (caseEntry "B") where
  silent := by rcases closes with rfl | rfl <;> decide
  firstLists := lists_entry (by decide) (by decide) (by decide)
  secondLists := lists_entry (by decide) (by decide) (by decide)
  flat := by rcases closes with rfl | rfl <;> decide
  kind := nofun
  placed := nofun

theorem Frame.not_sameApi {inEnum : Bool} {closing first second : Text}
    {one two : Bool → MemberEntry} (frame : Frame inEnum closing first second one two)
    {before : List Text} (silent : ∀ line ∈ before, Silent inEnum (Text.trimRight line))
    {line line' : Text} (quiet : Silent inEnum (Text.trimRight line)) (plain : PlainCode line')
    (loud : ¬ Silent inEnum (Text.trimRight line')) {body body' : List Text}
    (read : indexedLines inEnum body = before ++ [line, closing, first, second])
    (read' : indexedLines inEnum body' = before ++ [line', closing, first, second]) :
    ¬ SameApi inEnum body body' := by
  intro same
  have listed := same []
  rw [index?_append, index?_append, read, read', scan_silents silent within_start,
    scan_silents silent within_start, Option.map_some, Option.map_some,
    frame.api_silent quiet] at listed
  exact frame.api_loud plain loud _ _ (Option.some.inj listed).symm

theorem silent_commentStart (inEnum : Bool) : Silent inEnum (Text.trimRight commentStart) := by
  cases inEnum <;> decide

theorem interior_nil : Interior [] := by
  decide

theorem mark_entries {line : Text} (interior : Interior line) :
    indexedLines true (around [] ["A", "B"] line) =
      [commentStart] ++ [marked line, marked commentEnd, marked "A", marked "B"] := by
  have rest : EnumBody.markFrom 1 false [commentEnd, "A", "B"] =
      [marked commentEnd, marked "A", marked "B"] := by
    decide
  have inner : EnumBody.markFrom 1 false (line :: [commentEnd, "A", "B"]) =
      marked line :: EnumBody.markFrom 1 false [commentEnd, "A", "B"] :=
    interior.markFrom_cons (fun _ outside => absurd outside (by decide)) _
  show EnumBody.markFrom 0 false (commentStart :: line :: [commentEnd, "A", "B"]) = _
  rw [markFrom_opening (by decide), Int.zero_add, inner, rest]
  rfl

def declaring : Text :=
  "val x = 1"

theorem mark_declaring (lines : List Text) :
    indexedLines true (declaring :: lines) = declaring :: lines := by
  have stops : Source.hasStopWord (Text.trim declaring) = true := by decide
  have uncommented : Source.commentExcess (Text.trim declaring) = 0 := by decide
  show EnumBody.markFrom 0 false (declaring :: lines) = _
  rw [EnumBody.markFrom]
  simp only [stops, uncommented, Bool.and_true, Bool.false_or, Int.add_zero, beq_self_eq_true,
    Bool.true_or, if_true, markFrom_ended]

def starEntry : Text :=
  "STAR(\"*/\"),"

theorem lists_starEntry : Lists true (marked starEntry) (caseEntry "STAR") :=
  lists_entry (by decide) (by decide) (by decide)

/-- Below an end of a comment too many, the lines of a comment seem to lie outside of it. -/
theorem mark_stopped {line : Text} (interior : Interior line)
    (stops : Source.hasStopWord (Text.trim line) = true) :
    indexedLines true (around [starEntry] ["B"] line) =
      [marked starEntry, commentStart, line, commentEnd, "B"] := by
  have first : EnumBody.markFrom 0 false (starEntry :: (commentStart :: line :: [commentEnd, "B"])) =
      marked starEntry :: EnumBody.markFrom (-1) false (commentStart :: line :: [commentEnd, "B"]) := by
    have excess : Source.commentExcess (Text.trim starEntry) = -1 := by decide
    have entry : Source.hasStopWord (Text.trim starEntry) = false := by decide
    have other : Text.startsWith "/**" (Text.trim starEntry) = false := by decide
    rw [EnumBody.markFrom]
    simp only [excess, entry, other, Bool.and_false, Bool.or_false, Bool.false_eq_true, if_false,
      Int.zero_add]
    rfl
  have inner : EnumBody.markFrom 0 false (line :: [commentEnd, "B"]) = line :: [commentEnd, "B"] := by
    rw [EnumBody.markFrom]
    simp only [interior.commentExcess_eq, stops, Int.add_zero, beq_self_eq_true, Bool.and_true,
      Bool.false_or, Bool.true_or, if_true, markFrom_ended]
  show EnumBody.markFrom 0 false _ = _
  rw [around, List.singleton_append, first, markFrom_opening (by decide)]
  exact congrArg (marked starEntry :: commentStart :: ·) inner

theorem not_sameApi_of_stop {line : Text} (interior : Interior line)
    (silent : Silent true (Text.trimRight line))
    (stops : Source.hasStopWord (Text.trim line) = true) :
    ¬ SameApi true (around [starEntry] ["B"] []) (around [starEntry] ["B"] line) := by
  have read : indexedLines true (around [starEntry] ["B"] []) =
      marked starEntry :: ([commentStart, marked [], marked commentEnd] ++ [marked "B"]) := by
    decide
  have read' : indexedLines true (around [starEntry] ["B"] line) =
      marked starEntry :: ([commentStart, line, commentEnd, "B"] ++ []) :=
    mark_stopped interior stops
  have silents : ∀ line ∈ [commentStart, marked [], marked commentEnd],
      Silent true (Text.trimRight line) := by
    decide
  have silents' : ∀ other ∈ [commentStart, line, commentEnd, "B"],
      Silent true (Text.trimRight other) := by
    simp only [List.forall_mem_cons]
    exact ⟨silent_commentStart true, silent, by decide, by decide, nofun⟩
  intro same
  have listed := same []
  rw [index?_append, index?_append, read, read', Option.map_some, Option.map_some,
    lists_starEntry.api_scan within_start rfl, lists_starEntry.api_scan within_start rfl,
    scan_silents silents within_start, scan_silents silents' within_start,
    (enumFrame (.inl rfl)).secondLists.api_scan within_start rfl] at listed
  cases listed

/-! ## Loud prose -/

theorem exists_listed {inEnum : Bool} {line : Text} (interior : Interior line)
    (plain : PlainCode line) (loud : ¬ Quiet inEnum line) :
    ∃ before after, Apart 0 (indexedLines inEnum (around before after [])) ∧
      ¬ SameApi inEnum (around before after []) (around before after line) := by
  have start (before : List Text) (silent : ∀ line ∈ before, Silent inEnum (Text.trimRight line)) :
      ∀ line ∈ before ++ [commentStart], Silent inEnum (Text.trimRight line) := by
    intro line member
    rcases List.mem_append.mp member with first | last
    · exact silent line first
    · rw [List.mem_singleton.mp last]
      exact silent_commentStart inEnum
  cases inEnum with
  | false =>
      have spoken : ¬ Silent false (Text.trimRight line) :=
        fun silent => loud ⟨silent, nofun, nofun⟩
      exact ⟨[], ["val a = 1", "val b = 2"], by decide,
        classFrame.not_sameApi (start [] nofun) (quiet_nil false).silent plain spoken rfl rfl⟩
  | true =>
      by_cases silentMarked : Silent true (Text.trimRight (marked line))
      · by_cases silent : Silent true (Text.trimRight line)
        · -- Only a stop word is left, which is read where the comment seems to have ended before.
          have stops : Source.hasStopWord (Text.trim line) = true := by
            by_contra stopless
            exact loud ⟨silent, fun _ => silentMarked, fun _ => Bool.eq_false_iff.mpr stopless⟩
          exact ⟨[starEntry], ["B"], by decide, not_sameApi_of_stop interior silent stops⟩
        · -- Below the entries the lines of comments are not marked.
          have own : ∀ line ∈ [declaring], Silent true (Text.trimRight line) := by decide
          exact ⟨[declaring], [marked "A", marked "B"], by decide,
            (enumFrame (.inl rfl)).not_sameApi (start _ own) (quiet_nil true).silent plain silent
              (mark_declaring _) (mark_declaring _)⟩
      · have written : PlainCode (marked line) :=
          PlainCode.joined (show PlainCode "case:".toList by decide) plain
        exact ⟨[], ["A", "B"], by decide,
          (enumFrame (.inr rfl)).not_sameApi (start [] nofun) ((quiet_nil true).silentMarked rfl)
            written silentMarked (mark_entries interior_nil) (mark_entries interior)⟩

/-- Quiet prose has no part in what is listed of a class or an enum, unless its comment starts on a
line that is joined to the ones before. Among lines without literals and comments only quiet ones
are so: any other, in the place of an empty line, changes what is listed of some body. -/
theorem prose_unlisted_iff (inEnum : Bool) :
    (∀ body body', Reworded (Quiet inEnum) body body' → Apart 0 (indexedLines inEnum body) →
      SameApi inEnum body body') ∧
    ∀ line, Interior line → PlainCode line →
      ((∀ body body', Reworded (fun other => other = line ∨ other = []) body body' →
          Apart 0 (indexedLines inEnum body) → SameApi inEnum body body') ↔
        Quiet inEnum line) := by
  refine ⟨fun body body' => sameApi_of_quiet, fun line interior plain => ⟨fun unlisted => ?_, ?_⟩⟩
  · by_contra loud
    obtain ⟨before, after, apart, differ⟩ := exists_listed interior plain loud
    exact differ (unlisted _ _ (reworded_around interior_nil interior before after) apart)
  · intro quiet body body' reworded apart
    refine sameApi_of_quiet (reworded.imp fun other known => ?_) apart
    rcases known with rfl | rfl
    · exact quiet
    · exact quiet_nil inEnum

theorem prose_unlisted_iff_hidden :
    SameApi true ["  /**".toList, "   * The first.".toList, "   */".toList, "A(1),".toList]
      ["  /**".toList, "   * Alpha (or one).".toList, "   */".toList, "A(1),".toList] ∧
    ¬ ∀ body body', Reworded (fun other => other = "fun hidden() = 1".toList ∨ other = []) body body' →
      Apart 0 (indexedLines false body) → SameApi false body body' := by
  constructor
  · refine (prose_unlisted_iff true).1 _ _ ?_ (by decide)
    exact @Reworded.comment _ _ _ ["   * The first."] ["   * Alpha (or one)."] ["A(1),"] ["A(1),"]
      (by decide) (by decide) (Eq.refl 1) (by decide) (by decide) (.line _ .nil)
  · intro unlisted
    exact absurd (((prose_unlisted_iff false).2 _ (by decide) (by decide)).mp unlisted)
      (by decide)

/-- A comment between open parentheses becomes a part of what follows the name. -/
example : ¬ SameApi false ["fun f(", "/**", "x", "*/", "a: Int)"]
    ["fun f(", "/**", "y", "*/", "a: Int)"] :=
  fun same => absurd (same []) (by decide)

end KotlinDoc.Proofs
