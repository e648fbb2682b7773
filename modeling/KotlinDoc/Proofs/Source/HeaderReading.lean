import KotlinDoc.Proofs.Source.HeaderLayout
import KotlinDoc.Proofs.Source.StopWords
import KotlinDoc.Proofs.Text.Cutting
import KotlinDoc.Proofs.Text.Parentheses

namespace KotlinDoc.Proofs

open ClassHeader

/-! ## Lines outside parentheses -/

@[simp] theorem depth_addInner (r : Reading) (c : Char) : (r.addInner c).depth = r.depth := by
  unfold Reading.addInner
  split <;> rfl

@[simp] theorem depth_addOuter (r : Reading) (c : Char) : (r.addOuter c).depth = r.depth := by
  unfold Reading.addOuter
  split <;> rfl

theorem depth_read (r : Reading) (c : Char) : (r.read c).depth = r.depth + parenDepth [c] := by
  have colon : (if r.depth == 0 && c == ':' then { r with derived := true } else r).depth = r.depth := by
    split <;> rfl
  unfold Reading.read
  dsimp only
  by_cases closing : c = ')'
  · subst closing
    simp [parenDepth]
    omega
  rw [if_neg (by simpa using closing)]
  by_cases opening : c = '('
  · subst opening
    rw [apply_ite Reading.depth, depth_addInner, depth_addOuter, ite_self]
    simp [parenDepth]
  · have plain : parenDepth [c] = 0 :=
      parenDepth_of_notMem (by simpa using Ne.symm opening) (by simpa using Ne.symm closing)
    rw [apply_ite Reading.depth, depth_addInner, depth_addOuter, ite_self,
      if_neg (by simpa using opening), colon, plain, Int.add_zero]

theorem depth_foldl (r : Reading) (s : Text) :
    (s.foldl Reading.read r).depth = r.depth + parenDepth s := by
  induction s generalizing r with
  | nil => simp
  | cons c s ih =>
      rw [List.foldl_cons, ih, depth_read, parenDepth_cons c s]
      omega

def Undivided (depth : Int) (lines : List Text) : Prop :=
  ∀ earlier line later, lines = earlier ++ line :: later →
    depth + parenDepth (headerText earlier) = 0 → Source.startsDeclaration line = false

theorem headerText_cons (line : Text) (lines : List Text) :
    headerText (line :: lines) = Text.trim line ++ headerText lines :=
  rfl

theorem headerText_append (lines more : List Text) :
    headerText (lines ++ more) = headerText lines ++ headerText more := by
  simp [headerText]

theorem Undivided.left {depth : Int} {lines more : List Text}
    (undivided : Undivided depth (lines ++ more)) :
    Undivided depth lines := by
  rintro earlier line later rfl outside
  exact undivided earlier line (later ++ more) (by simp) outside

theorem Undivided.right {depth : Int} {lines more : List Text}
    (undivided : Undivided depth (lines ++ more)) :
    Undivided (depth + parenDepth (headerText lines)) more := by
  rintro earlier line later rfl outside
  refine undivided (lines ++ earlier) line later (by simp) ?_
  rw [headerText_append, parenDepth_append]
  omega

theorem Undivided.seenWith_eq {r : Reading} {line : Text} {lines : List Text}
    (undivided : Undivided r.depth (line :: lines)) (seen : Nat) : seenWith r seen line = seen := by
  have silent : (r.depth == 0 && Source.startsDeclaration (Text.trim line)) = false := by
    by_cases outside : r.depth = 0
    · have here := undivided [] line lines rfl (by simp [headerText, outside])
      simp [startsDeclaration_trim, here]
    · simp [outside]
  rw [seenWith, silent]
  rfl

theorem readWith_unbraced {r : Reading} {line : Text} (unbraced : '{' ∉ Text.trim line) :
    readWith r line = (Text.trim line).foldl Reading.read r := by
  rw [readWith, List.takeWhile_eq_self_iff.mpr]
  intro c member
  rw [bne_iff_ne]
  rintro rfl
  exact unbraced member

theorem readLines_undivided {r : Reading} {seen : Nat} (few : seen ≤ 1) {own after : List Text}
    (undivided : Undivided r.depth own) (unbraced : '{' ∉ headerText own) (number : Nat) :
    readLines r seen number (own ++ after) =
      readLines ((headerText own).foldl Reading.read r) seen (number + own.length) after := by
  induction own generalizing r number with
  | nil => rfl
  | cons line own ih =>
      rw [headerText_cons, List.mem_append, not_or] at unbraced
      have later : Undivided (readWith r line).depth own := by
        have whole : Undivided r.depth ([line] ++ own) := undivided
        rw [readWith_unbraced unbraced.1, depth_foldl]
        simpa [headerText] using whole.right
      rw [List.cons_append, readLines_cons, undivided.seenWith_eq, if_neg (Nat.not_lt.mpr few),
        if_neg (by simpa using unbraced.1), ih later unbraced.2, readWith_unbraced unbraced.1,
        headerText_cons, List.foldl_append, List.length_cons, Nat.add_assoc, Nat.add_comm 1]

theorem readWith_brace {r : Reading} {line inside rest : Text} (unbraced : '{' ∉ inside)
    (brace : Text.trim line = inside ++ '{' :: rest) :
    readWith r line = inside.foldl Reading.read r := by
  rw [readWith, brace, takeWhile_bne unbraced]

theorem readLines_brace {r : Reading} {seen : Nat} (few : seen ≤ 1) {own : List Text}
    {last inside rest : Text} (undivided : Undivided r.depth (own ++ [last]))
    (unbraced : '{' ∉ headerText own ++ inside) (brace : Text.trim last = inside ++ '{' :: rest)
    (number : Nat) (after : List Text) :
    readLines r seen number (own ++ last :: after) =
      ((headerText own ++ inside).foldl Reading.read r).header true (number + own.length) := by
  rw [List.mem_append, not_or] at unbraced
  have behind : Undivided ((headerText own).foldl Reading.read r).depth [last] := by
    rw [depth_foldl]
    exact undivided.right
  rw [readLines_undivided few undivided.left unbraced.1, readLines_cons, behind.seenWith_eq,
    if_neg (Nat.not_lt.mpr few), if_pos (by simp [brace]), readWith_brace unbraced.2 brace,
    List.foldl_append]

theorem seenWith_le (r : Reading) (line : Text) : seenWith r 0 line ≤ 1 := by
  unfold seenWith
  split <;> omega

theorem hasBody_of_brace {line : Text} (brace : '{' ∈ Text.trim line) (lines : List Text) :
    (ofLines (line :: lines)).hasBody = true := by
  rw [ofLines, readLines_cons, if_neg (Nat.not_lt.mpr (seenWith_le _ _)),
    if_pos (List.contains_iff_mem.mpr brace)]
  rfl

theorem ofLines_brace {own : List Text} {last inside rest : Text}
    (undivided : ∀ first others, own ++ [last] = first :: others →
      Undivided (parenDepth (Text.trim first)) others)
    (unbraced : '{' ∉ headerText own ++ inside) (brace : Text.trim last = inside ++ '{' :: rest)
    (after : List Text) :
    ofLines (own ++ last :: after) =
      ((headerText own ++ inside).foldl Reading.read {}).header true own.length := by
  cases own with
  | nil =>
      rw [ofLines, List.nil_append, readLines_cons, if_neg (Nat.not_lt.mpr (seenWith_le _ _)),
        if_pos (by simp [brace]), readWith_brace unbraced brace]
      rfl
  | cons first own =>
      have later := undivided first (own ++ [last]) rfl
      rw [headerText_cons, List.append_assoc, List.mem_append, not_or] at unbraced
      have depth : Undivided (readWith {} first).depth (own ++ [last]) := by
        rw [readWith_unbraced unbraced.1, depth_foldl]
        simpa using later
      rw [ofLines, List.cons_append, readLines_cons, if_neg (Nat.not_lt.mpr (seenWith_le _ _)),
        if_neg (by simpa using unbraced.1), readLines_brace (seenWith_le _ _) depth unbraced.2 brace,
        readWith_unbraced unbraced.1, ← List.foldl_append, headerText_cons, List.append_assoc,
        List.length_cons, Nat.zero_add, Nat.add_comm 1]

/-! ## Texts between and outside parentheses -/

structure Balanced (s : Text) : Prop where
  opened : ∀ before, before <+: s → before.count ')' ≤ before.count '('
  closed : s.count '(' = s.count ')'
  unbraced : '{' ∉ s

instance (s : Text) : Decidable (Balanced s) :=
  decidable_of_iff ((∀ before ∈ s.inits, before.count ')' ≤ before.count '(') ∧
    s.count '(' = s.count ')' ∧ '{' ∉ s)
    ⟨fun h => ⟨fun before inside => h.1 before ((List.mem_inits _ _).mpr inside), h.2.1, h.2.2⟩,
      fun h => ⟨fun before inside => h.opened before ((List.mem_inits _ _).mp inside), h.closed,
        h.unbraced⟩⟩

def Unbracketed (s : Text) : Prop :=
  ∀ c ∈ s, c ∉ ("()\x7b\x7d" : Text)

instance (s : Text) : Decidable (Unbracketed s) :=
  decidable_of_iff (s.all (fun c => !("()\x7b\x7d" : Text).contains c) = true) (by simp [Unbracketed])

theorem unbracketed_nil : Unbracketed [] ∧ ':' ∉ ([] : Text) := by
  decide

def enclosed (s : Text) : Text :=
  '(' :: (s ++ [')'])

def addInners (r : Reading) (s : Text) : Reading :=
  if r.derived then { r with arguments := r.arguments ++ s }
  else { r with constructor := r.constructor ++ s }

theorem read_inner (c : Char) {r : Reading} (inner : 0 < r.depth) :
    r.read c = { r with depth := r.depth + parenDepth [c] }.addInner c := by
  have deep : r.depth ≠ 0 := by omega
  by_cases closing : c = ')'
  · subst closing
    simp [Reading.read, parenDepth]
    rfl
  by_cases opening : c = '('
  · subst opening
    have deeper : 0 < r.depth + 1 := by omega
    simp [Reading.read, deeper, parenDepth]
  · have plain : parenDepth [c] = 0 :=
      parenDepth_of_notMem (by simpa using Ne.symm opening) (by simpa using Ne.symm closing)
    simp [Reading.read, closing, opening, deep, inner, plain]

theorem foldl_inner {s : Text} {r : Reading}
    (inside : ∀ before, before <+: s → before ≠ s → 0 < r.depth + parenDepth before) :
    s.foldl Reading.read r = addInners { r with depth := r.depth + parenDepth s } s := by
  induction s generalizing r with
  | nil =>
      unfold addInners
      split <;> simp
  | cons c s ih =>
      have first : 0 < r.depth := by
        simpa using inside [] (List.nil_prefix) (by simp)
      rw [List.foldl_cons, read_inner c first, ih]
      · unfold Reading.addInner addInners
        cases r.derived <;> simp [parenDepth_cons c s, Int.add_assoc]
      · intro before start part
        have whole := inside (c :: before) (List.cons_prefix_cons.mpr ⟨rfl, start⟩) (by simpa using part)
        rw [parenDepth_cons] at whole
        rw [depth_addInner]
        dsimp only
        omega

theorem foldl_enclosed {s : Text} (balanced : Balanced s) {r : Reading} (outer : r.depth = 0) :
    (enclosed s).foldl Reading.read r = addInners r (enclosed s) := by
  have opening : r.read '(' = { r with depth := 1 }.addInner '(' := by
    simp [Reading.read, outer]
  have total : parenDepth (s ++ [')']) = -1 := by
    have closed := balanced.closed
    simp [parenDepth]
    omega
  rw [enclosed, List.foldl_cons, opening, foldl_inner]
  · unfold Reading.addInner addInners
    cases same : r.derived <;> simp [total, ← outer]
  · intro before start part
    have inner : before <+: s := (List.prefix_concat_iff.mp start).resolve_left part
    have opened := balanced.opened before inner
    simp [parenDepth]
    omega

theorem read_outer {c : Char} (plain : c ≠ '(' ∧ c ≠ ')') {r : Reading} (outer : r.depth = 0)
    (derived : r.derived = true) : r.read c = r.addOuter c := by
  obtain ⟨constructor, supertypes, arguments, depth, _⟩ := r
  obtain rfl : depth = 0 := outer
  cases derived
  simp [Reading.read, plain]

theorem foldl_supertypes {s : Text} (plain : ∀ c ∈ s, c ≠ '(' ∧ c ≠ ')') {r : Reading}
    (outer : r.depth = 0) (derived : r.derived = true) (first : r.arguments = []) :
    s.foldl Reading.read r = { r with supertypes := r.supertypes ++ s } := by
  induction s generalizing r with
  | nil => simp
  | cons c s ih =>
      obtain ⟨here, later⟩ := List.forall_mem_cons.mp plain
      have step : r.read c = { r with supertypes := r.supertypes ++ [c] } := by
        rw [read_outer here outer derived]
        simp [Reading.addOuter, derived, first]
      have rest := @ih later { r with supertypes := r.supertypes ++ [c] } outer derived first
      rw [List.foldl_cons, step, rest]
      simp

theorem foldl_rest {s : Text} (plain : ∀ c ∈ s, c ≠ '(' ∧ c ≠ ')') {r : Reading}
    (outer : r.depth = 0) (derived : r.derived = true) (filled : r.arguments ≠ []) :
    s.foldl Reading.read r = r := by
  induction s with
  | nil => rfl
  | cons c s ih =>
      obtain ⟨here, later⟩ := List.forall_mem_cons.mp plain
      have step : r.read c = r := by
        rw [read_outer here outer derived]
        simp [Reading.addOuter, filled]
      rw [List.foldl_cons, step, ih later]

/-! ## The parts of a header -/

structure SuperArguments where
  list : Text
  balanced : Balanced list
  rest : Text
  plain : Unbracketed rest

structure Supertypes where
  names : Text
  plain : Unbracketed names
  arguments : Option SuperArguments

structure WrittenHeader where
  front : Text
  plainFront : Unbracketed front ∧ ':' ∉ front
  parameters : Option { list : Text // Balanced list }
  middle : Text
  plainMiddle : Unbracketed middle ∧ ':' ∉ middle
  supertypes : Option Supertypes

namespace WrittenHeader

variable (header : WrittenHeader)

def constructor : Text :=
  match header.parameters with
  | some list => enclosed list
  | none => []

def derived : Text :=
  match header.supertypes with
  | some supertypes => ':' :: supertypes.names
  | none => []

def arguments : Text :=
  match header.supertypes.bind Supertypes.arguments with
  | some arguments => enclosed arguments.list
  | none => []

def rest : Text :=
  match header.supertypes.bind Supertypes.arguments with
  | some arguments => arguments.rest
  | none => []

def text : Text :=
  header.front ++ header.constructor ++ header.middle ++ header.derived ++ header.arguments ++ header.rest

end WrittenHeader

theorem Unbracketed.plain {s : Text} (unbracketed : Unbracketed s) : ∀ c ∈ s, c ≠ '(' ∧ c ≠ ')' := by
  intro c member
  have none := unbracketed c member
  simp at none
  exact ⟨none.1, none.2.1⟩

theorem Unbracketed.outside {s : Text} (unbracketed : Unbracketed s ∧ ':' ∉ s) :
    ∀ c ∈ s, c ∉ ("():" : Text) := by
  intro c member
  have colon : c ≠ ':' := by
    rintro rfl
    exact unbracketed.2 member
  simp [unbracketed.1.plain c member, colon]

namespace WrittenHeader

variable (header : WrittenHeader)

theorem foldl_text :
    header.text.foldl Reading.read {} =
      ⟨header.constructor, header.derived, header.arguments, 0, header.supertypes.isSome⟩ := by
  have front : (header.front ++ header.constructor ++ header.middle).foldl Reading.read {} =
      { constructor := header.constructor } := by
    have list : header.constructor.foldl Reading.read {} = { constructor := header.constructor } := by
      unfold constructor
      cases header.parameters with
      | none => rfl
      | some list => exact foldl_enclosed list.2 rfl
    rw [List.foldl_append, List.foldl_append,
      foldl_outside (Unbracketed.outside header.plainFront) rfl rfl, list,
      foldl_outside (Unbracketed.outside header.plainMiddle) rfl rfl]
  rw [text, List.append_assoc, List.append_assoc, List.foldl_append, front]
  unfold derived arguments rest
  cases header.supertypes with
  | none => rfl
  | some supertypes =>
      have names : (':' :: supertypes.names).foldl Reading.read { constructor := header.constructor } =
          { constructor := header.constructor, supertypes := ':' :: supertypes.names, derived := true } :=
        foldl_supertypes supertypes.plain.plain rfl rfl rfl
      rw [List.foldl_append, names]
      dsimp only [Option.bind_some]
      cases supertypes.arguments with
      | none => rfl
      | some arguments =>
          rw [List.foldl_append, foldl_enclosed arguments.balanced rfl]
          exact foldl_rest arguments.plain.plain rfl rfl (by simp [addInners, enclosed])

theorem unbraced : '{' ∉ header.text := by
  have list {s : Text} (balanced : Balanced s) : '{' ∉ enclosed s := by
    simp [enclosed, balanced.unbraced]
  have plain {s : Text} (unbracketed : Unbracketed s) : '{' ∉ s :=
    fun member => unbracketed '{' member (by decide)
  have front : '{' ∉ header.constructor := by
    unfold constructor
    split
    · exact list (Subtype.property _)
    · exact List.not_mem_nil
  have middle : '{' ∉ header.derived := by
    unfold derived
    split
    · rename_i supertypes _
      simp [plain supertypes.plain]
    · exact List.not_mem_nil
  have back : '{' ∉ header.arguments ∧ '{' ∉ header.rest := by
    unfold arguments rest
    split
    · rename_i arguments _
      exact ⟨list arguments.balanced, plain arguments.plain⟩
    · exact ⟨List.not_mem_nil, List.not_mem_nil⟩
  simp [text, plain header.plainFront.1, plain header.plainMiddle.1, front, middle, back]

end WrittenHeader

/-! ## Headers without a body -/

theorem startsDeclaration_blanks {line : Text} (blank : Blanks line) :
    Source.startsDeclaration line = false := by
  rw [← startsDeclaration_trim, trim_eq_nil blank]
  decide

/-- What ends a header without a body: the end of the file, or the line of another declaration. -/
def EndsBodiless (rest : List Text) : Prop :=
  ∀ line ∈ rest.head?, Source.startsDeclaration line = true

theorem ofLines_bodiless (header : WrittenHeader) {line : Text} {blanks rest : List Text}
    (written : Text.trim line = header.text) (declares : Source.startsDeclaration line = true)
    (blank : ∀ line ∈ blanks, Blanks line) (ends : EndsBodiless rest) :
    ∃ lastLine, ofLines (line :: (blanks ++ rest)) =
      ⟨header.constructor, header.derived, header.arguments, false, lastLine⟩ := by
  have seen : seenWith {} 0 line = 1 := by
    rw [seenWith, startsDeclaration_trim, declares]
    rfl
  have unbraced : '{' ∉ Text.trim line := written ▸ header.unbraced
  have empty : headerText blanks = [] := by
    refine List.flatten_eq_nil_iff.mpr (List.forall_mem_map.mpr fun line member => ?_)
    exact trim_eq_nil (blank line member)
  rw [ofLines, readLines_cons, seen, if_neg (by decide), if_neg (by simpa using unbraced),
    readWith_unbraced unbraced, written, header.foldl_text, readLines_undivided (by decide), empty]
  · cases rest with
    | nil => exact ⟨_, rfl⟩
    | cons stop below =>
        have second : seenWith ([].foldl Reading.read ⟨header.constructor, header.derived,
            header.arguments, 0, header.supertypes.isSome⟩) 1 stop = 2 := by
          rw [seenWith, startsDeclaration_trim, ends stop rfl]
          rfl
        rw [readLines_cons, second, if_pos (by decide)]
        exact ⟨_, rfl⟩
  · rintro earlier line later rfl -
    exact startsDeclaration_blanks (blank line (by simp))
  · rw [empty]
    exact List.not_mem_nil

/-! ## Headers over several lines -/

def lineAt (position : Nat) : List Text → Nat
  | [] => 0
  | line :: lines =>
      let width := (Text.trim line).length
      if position < width then 0 else lineAt (position - width) lines + 1

theorem exists_lineAt {text : Text} {lines : List Text} (written : text ++ ['{'] <+: headerText lines) :
    ∃ own last after inside rest, lines = own ++ last :: after ∧ own.length = lineAt text.length lines ∧
      headerText own ++ inside = text ∧ Text.trim last = inside ++ '{' :: rest := by
  induction lines generalizing text with
  | nil =>
      have short := written.length_le
      simp [headerText] at short
  | cons line lines ih =>
      rw [headerText_cons] at written
      by_cases within : text.length < (Text.trim line).length
      · have start : text ++ ['{'] <+: Text.trim line :=
          List.prefix_of_prefix_length_le written (List.prefix_append _ _)
            (by simpa using Nat.succ_le_of_lt within)
        obtain ⟨rest, whole⟩ := start
        refine ⟨[], line, lines, text, rest, rfl, ?_, rfl, ?_⟩
        · simp [lineAt, within]
        · rw [← whole, List.append_assoc]
          rfl
      · have start : Text.trim line <+: text :=
          List.prefix_of_prefix_length_le (List.prefix_append _ _)
            ((List.prefix_append text ['{']).trans written) (Nat.le_of_not_lt within)
        obtain ⟨text, rfl⟩ := start
        rw [List.append_assoc, List.prefix_append_right_inj] at written
        obtain ⟨own, last, after, inside, rest, rfl, number, same, brace⟩ := ih written
        refine ⟨line :: own, last, after, inside, rest, rfl, ?_, ?_, brace⟩
        · simp [lineAt, number]
        · rw [headerText_cons, List.append_assoc, same]

/-- The parts of a header are read as they are written, in any layout, up to the line with the
opening brace and whatever stands below it. -/
theorem ofLines_written (header : WrittenHeader) {lines : List Text}
    (written : header.text ++ ['{'] <+: headerText lines)
    (quiet : ∀ number line, 0 < number → number ≤ lineAt header.text.length lines →
      lines[number]? = some line →
      (headerText (lines.take number)).count '(' = (headerText (lines.take number)).count ')' →
      Source.startsDeclaration line = false)
    (before after : List Text) :
    ClassHeader.ofLines
        ((before ++ (lines.take (lineAt header.text.length lines + 1) ++ after)).drop before.length) =
      { constructor := header.constructor
        supertypes := header.derived
        arguments := header.arguments
        hasBody := true
        lastLine := lineAt header.text.length lines } := by
  obtain ⟨own, last, below, inside, rest, rfl, number, text, brace⟩ := exists_lineAt written
  rw [← number] at quiet ⊢
  have kept : (own ++ last :: below).take (own.length + 1) ++ after = own ++ last :: after := by
    simp [List.take_append]
  have silent : ∀ first others, own ++ [last] = first :: others →
      Undivided (parenDepth (Text.trim first)) others := by
    rintro first _ split earlier line later rfl outside
    have whole : own ++ last :: below = (first :: earlier) ++ line :: (later ++ below) := by
      rw [← List.singleton_append, ← List.append_assoc, split]
      simp
    have length := congrArg List.length split
    simp at length
    refine quiet (first :: earlier).length line (by simp) (by simp; omega) ?_ ?_
    · rw [whole]
      simp
    · rw [whole, List.take_left, headerText_cons]
      rw [← parenDepth_append] at outside
      unfold parenDepth at outside
      omega
  rw [List.drop_left, kept, ofLines_brace silent (text ▸ header.unbraced) brace, text, header.foldl_text]
  rfl

def engine : WrittenHeader where
  front := "class Engine"
  plainFront := by decide
  parameters := some ⟨"private val n: Int,val f: (Int) -> Int", by decide⟩
  middle := []
  plainMiddle := unbracketed_nil
  supertypes := some
    { names := " Base"
      plain := by decide
      arguments := some ⟨"n, f(1)", by decide, ",Runnable", by decide⟩ }

def engineLines : List Text :=
  ["class Engine(", "    private val n: Int,", "    val f: (Int) -> Int", ")",
   ": Base(n, f(1)),", "    Runnable", "\x7b"]

theorem ofLines_written_engine :
    engine.text ++ ['{'] <+: headerText engineLines ∧
      ClassHeader.ofLines
          ((["package drive".toList] ++ (engineLines.take 7 ++ ["    fun run() \x7b".toList])).drop 1) =
        { constructor := "(private val n: Int,val f: (Int) -> Int)"
          supertypes := ": Base"
          arguments := "(n, f(1))"
          hasBody := true
          lastLine := 6 } := by
  have written : engine.text ++ ['{'] <+: headerText engineLines := by decide
  have place : lineAt engine.text.length engineLines = 6 := by decide
  have silent : ∀ number < 7, 0 < number →
      (headerText (engineLines.take number)).count '(' =
        (headerText (engineLines.take number)).count ')' →
      ∀ line ∈ engineLines[number]?, Source.startsDeclaration line = false := by decide
  refine ⟨written, ?_⟩
  have constructor : engine.constructor = "(private val n: Int,val f: (Int) -> Int)" := rfl
  have arguments : engine.arguments = "(n, f(1))" := rfl
  have parts := ofLines_written engine written
    (fun number line positive bound found outside =>
      silent number (by omega) positive outside line found)
    ["package drive"] ["    fun run() \x7b"]
  rw [place, constructor, arguments] at parts
  exact parts

end KotlinDoc.Proofs
