import KotlinDoc.Index.Member
import KotlinDoc.Proofs.Index.ConstructorParameters

/-!
# Parameters of primary constructors as they are written again

The list of a primary constructor is cut at every comma, and its pieces are written one by one. A
parameter that declares a property keeps its text, but for a blank after each comma of its type
(`writtenList_property`); of any other parameter the colon is lost (`colon_notMem_writtenList`).
-/

namespace KotlinDoc.Proofs

open Domain

def writtenList (list : Text) : Text :=
  Text.joined ", " ((Text.pieces ',' list).map fun piece =>
    (ConstructorParameter.ofText piece).written)

theorem writtenList_single {s : Text} (single : ',' ∉ s) :
    writtenList s = (ConstructorParameter.ofText s).written := by
  have whole : Text.pieces ',' s = [s] :=
    piecesAt_of_none fun c member => beq_eq_false_iff_ne.mpr fun same => single (same ▸ member)
  simp [writtenList, whole, Text.joined]

theorem writtenList_comma (s t : Text) :
    writtenList (s ++ ',' :: t) = writtenList s ++ (", " ++ writtenList t) := by
  have cut : Text.pieces ',' (s ++ ',' :: t) = Text.pieces ',' s ++ Text.pieces ',' t :=
    piecesAt_append (by decide) s t
  rw [writtenList, cut, List.map_append]
  apply joined_append <;>
    exact fun none => piecesAt_ne_nil _ _ (List.map_eq_nil_iff.mp none)

theorem writtenList_joined (first : Text) (texts : List Text) :
    writtenList (Text.joined "," (first :: texts)) =
      Text.joined ", " ((first :: texts).map writtenList) := by
  induction texts generalizing first with
  | nil => simp [Text.joined]
  | cons second texts ih =>
      have cut : Text.joined "," (first :: second :: texts) =
          first ++ ',' :: Text.joined "," (second :: texts) := by
        rw [joined_cons_cons, List.append_assoc]
        rfl
      rw [cut, writtenList_comma, ih]
      simp only [List.map_cons, joined_cons_cons, List.append_assoc]

/-! ## Parts of plain parameters -/

def isPartEnd (c : Char) : Bool :=
  c == ':' || c == '=' || c == '|'

theorem written_plain {s name : Text} {parts : List Text} (plain : PropertyHeader.parse? s = none)
    (cut : Text.piecesAt isPartEnd s = name :: parts) :
    (ConstructorParameter.ofText s).written = name ++ parts.headD [] := by
  unfold isPartEnd at cut
  simp only [ConstructorParameter.ofText, plain, cut, ConstructorParameter.written]

theorem colon_notMem_written {s : Text} (plain : PropertyHeader.parse? s = none) :
    ':' ∉ (ConstructorParameter.ofText s).written := by
  obtain ⟨name, parts, cut⟩ := List.exists_cons_of_ne_nil (piecesAt_ne_nil isPartEnd s)
  rw [written_plain plain cut, List.mem_append, not_or]
  have apart (piece : Text) (member : piece ∈ name :: parts) : ':' ∉ piece := by
    intro inside
    have separator := (mem_of_mem_piecesAt (cut.symm ▸ member) inside).2
    cases separator
  refine ⟨apart name List.mem_cons_self, ?_⟩
  cases parts with
  | nil => exact List.not_mem_nil
  | cons part parts => exact apart part (by simp)

/-! ## Types with commas -/

def widen (s : Text) : Text :=
  s.flatMap fun c => if c = ',' then [',', ' '] else [c]

theorem widen_cons {c : Char} (other : c ≠ ',') (s : Text) : widen (c :: s) = c :: widen s := by
  simp [widen, other]

theorem widen_comma (s : Text) : widen (',' :: s) = ',' :: ' ' :: widen s := by
  simp [widen]

theorem widen_append (s t : Text) : widen (s ++ t) = widen s ++ widen t :=
  List.flatMap_append

theorem widen_of_notMem {s : Text} (none : ',' ∉ s) : widen s = s := by
  induction s with
  | nil => rfl
  | cons c s ih =>
      obtain ⟨other, later⟩ := List.ne_and_not_mem_of_not_mem_cons none
      rw [widen_cons (Ne.symm other), ih later]

theorem mem_widen {c : Char} {s : Text} (member : c ∈ widen s) : c ∈ s ∨ c = ' ' := by
  obtain ⟨d, here, written⟩ := List.mem_flatMap.mp member
  split at written
  · rename_i comma
    subst comma
    rcases List.mem_cons.mp written with rfl | space
    · exact .inl here
    · exact .inr (List.mem_singleton.mp space)
  · rw [List.mem_singleton.mp written]
    exact .inl here

theorem nested_widen {inside : Bool} {s : Text} (nested : Nested inside s) :
    Nested inside (widen s) := by
  induction nested with
  | nil => exact .nil _
  | @plain _ c s unmarked _ ih =>
      have other : c ≠ ',' := by
        rintro rfl
        cases unmarked
      rw [widen_cons other]
      exact .plain unmarked ih
  | comma _ ih =>
      rw [widen_comma]
      exact .comma (.plain rfl ih)
  | bracketed kind _ _ ihInner ihRest =>
      have opening : kind.opening ≠ ',' := by cases kind <;> decide
      have closing : kind.closing ≠ ',' := by cases kind <;> decide
      rw [widen_cons opening, widen_append, widen_cons closing]
      exact .bracketed kind ihInner ihRest

/-! ## What follows a comma -/

def Uncut (s : Text) : Prop :=
  ∀ c ∈ s, isPartEnd c = false

theorem isPartEnd_eq_false {c : Char} (others : c ∉ (":=|" : Text)) : isPartEnd c = false := by
  simpa [isPartEnd, and_assoc] using others

theorem uncut_type (type : KotlinType) : Uncut type.text := by
  have words : (":=|" : Text).all (!isWord ·) = true := by decide +kernel
  have marks : (":=|" : Text).all (!KotlinType.punctuation.contains ·) = true := by decide
  intro c member
  apply isPartEnd_eq_false
  intro cut
  rcases type.mem_text c member with word | mark
  · have other := List.all_eq_true.mp words c cut
    simp [word] at other
  · have other := List.all_eq_true.mp marks c cut
    simp [mark] at other

theorem uncut_blanks {s : Text} (blank : Blanks s) : Uncut s := by
  have solid : (":=|" : Text).all (!isBlank ·) = true := by decide +kernel
  intro c member
  apply isPartEnd_eq_false
  intro cut
  have other := List.all_eq_true.mp solid c cut
  simp [blank c member] at other

theorem Uncut.append {s t : Text} (first : Uncut s) (second : Uncut t) : Uncut (s ++ t) :=
  fun c member => (List.mem_append.mp member).elim (first c) (second c)

namespace DeclaredParameter

def tailText (parameter : DeclaredParameter) : Text :=
  parameter.toTypedParameter.defaultText ++ parameter.after

def looseTail (parameter : DeclaredParameter) : Text :=
  match parameter.default with
  | none => parameter.after
  | some value => ' ' :: ' ' :: (value.text ++ parameter.after)

theorem uncut_default (parameter : DeclaredParameter) {value : DefaultValue}
    (present : parameter.default = some value) : Uncut value.text := by
  have colons : [':', '='] ⊆ ("()[]<>,=:" : Text) := by decide
  intro c member
  apply isPartEnd_eq_false
  intro cut
  have known : c ∈ [':', '='] ∨ c = '|' := by
    simpa [or_assoc] using cut
  rcases known with colon | rfl
  · exact value.plain c (colons colon) member
  · exact parameter.token value present '|' (by decide) member

end DeclaredParameter

theorem written_uncut {s : Text} (plain : PropertyHeader.parse? s = none) (uncut : Uncut s) :
    (ConstructorParameter.ofText s).written = s := by
  rw [written_plain plain (piecesAt_of_none uncut)]
  exact List.append_nil s

theorem written_equals {s t : Text} (plain : PropertyHeader.parse? (s ++ '=' :: t) = none)
    (before : Uncut s) (after : Uncut t) :
    (ConstructorParameter.ofText (s ++ '=' :: t)).written = s ++ t := by
  have cut : Text.piecesAt isPartEnd (s ++ '=' :: t) = [s, t] := by
    rw [piecesAt_append (by decide), piecesAt_of_none before, piecesAt_of_none after]
    rfl
  rw [written_plain plain cut]
  rfl

theorem written_later (parameter : DeclaredParameter) {y : Text} (filled : y ≠ [])
    (unspaced : ∀ c ∈ y, isBlank c = false) (uncut : Uncut y) :
    (ConstructorParameter.ofText (' ' :: (y ++ parameter.tailText))).written =
      ' ' :: (y ++ parameter.looseTail) := by
  have space : Uncut [' '] := uncut_blanks (by decide)
  have after : Uncut parameter.after := uncut_blanks parameter.spaced.2
  unfold DeclaredParameter.tailText DeclaredParameter.looseTail TypedParameter.defaultText
  cases present : parameter.default with
  | none =>
      have plain : PropertyHeader.parse? (' ' :: (y ++ (parameter.after ++ []))) = none :=
        parse?_later filled unspaced parameter.spaced.2 (fun _ => rfl) (by simp)
      rw [List.append_nil] at plain
      exact written_uncut plain (space.append (uncut.append after))
  | some value =>
      have shape : ' ' :: (y ++ ((" = " : Text) ++ value.text ++ parameter.after)) =
          (' ' :: (y ++ [' '])) ++ '=' :: ' ' :: (value.text ++ parameter.after) := by
        simp
      have plain : PropertyHeader.parse?
          (' ' :: (y ++ ([' '] ++ '=' :: ' ' :: (value.text ++ parameter.after)))) = none :=
        parse?_later filled unspaced (by decide) (by simp) (by simp)
      have same : ' ' :: (y ++ ([' '] ++ '=' :: ' ' :: (value.text ++ parameter.after))) =
          (' ' :: (y ++ [' '])) ++ '=' :: ' ' :: (value.text ++ parameter.after) := by
        simp
      rw [same] at plain
      rw [shape, written_equals plain (space.append (uncut.append space))
        (space.append ((parameter.uncut_default present).append after))]
      simp

theorem comma_notMem_tailText (parameter : DeclaredParameter) : ',' ∉ parameter.tailText := by
  have blanks : ',' ∉ parameter.after := notMem_of_blanks parameter.spaced.2 (by decide)
  have value : ',' ∉ parameter.toTypedParameter.defaultText :=
    parameter.toTypedParameter.defaultText_notMem (by decide) (by decide)
      fun value _ => value.plain ',' (by decide)
  simp [DeclaredParameter.tailText, value, blanks]

theorem writtenList_later (parameter : DeclaredParameter) {y s : Text} (filled : y ≠ [])
    (solid : ∀ c ∈ y, isBlank c = false ∧ c ≠ ',') (spread : Spread s) (uncut : Uncut (y ++ s)) :
    writtenList (' ' :: (y ++ (s ++ parameter.tailText))) =
      ' ' :: (y ++ (widen s ++ parameter.looseTail)) := by
  have noComma {y : Text} (solid : ∀ c ∈ y, isBlank c = false ∧ c ≠ ',') : ',' ∉ y :=
    fun member => (solid ',' member).2 rfl
  induction spread generalizing y with
  | nil =>
      have single : ',' ∉ ' ' :: (y ++ parameter.tailText) := by
        simp [comma_notMem_tailText, noComma solid]
      rw [List.append_nil] at uncut
      rw [List.nil_append, writtenList_single single,
        written_later parameter filled (fun c member => (solid c member).1) uncut]
      rfl
  | @solid c s blank comma _ ih =>
      have more : ∀ d ∈ y ++ [c], isBlank d = false ∧ d ≠ ',' := by
        simpa [or_imp, forall_and, blank, comma] using solid
      have written := ih (by simp) more (by simpa using uncut)
      simpa [widen_cons comma] using written
  | @comma c s blank comma _ ih =>
      have first : writtenList (' ' :: y) = ' ' :: y := by
        have single : ',' ∉ ' ' :: y := by
          simp [noComma solid]
        have plain : PropertyHeader.parse? (' ' :: (y ++ ([] ++ []))) = none :=
          parse?_later filled (fun d member => (solid d member).1) (by simp [Blanks]) (by simp)
            (by simp)
        have space : Uncut [' '] := uncut_blanks (by decide)
        rw [List.append_nil, List.append_nil] at plain
        rw [writtenList_single single]
        exact written_uncut plain
          (space.append fun d member => uncut d (List.mem_append_left _ member))
      have own : ∀ d ∈ [c], isBlank d = false ∧ d ≠ ',' := by
        simpa using ⟨blank, comma⟩
      have rest := ih (by simp) own fun d member => uncut d (by simp at member ⊢; tauto)
      have shape : ' ' :: (y ++ (',' :: ' ' :: c :: s ++ parameter.tailText)) =
          (' ' :: y) ++ ',' :: ' ' :: ([c] ++ (s ++ parameter.tailText)) := by
        simp
      rw [shape, writtenList_comma, first, rest, widen_comma, widen_cons (by decide),
        widen_cons comma]
      simp

/-! ## Whole parameters -/

theorem Started.cases {s : Text} (started : Started s) :
    (∀ c ∈ s, isBlank c = false ∧ c ≠ ',') ∨
      ∃ x c t, s = x ++ ',' :: ' ' :: c :: t ∧ x ≠ [] ∧
        (∀ d ∈ x, isBlank d = false ∧ d ≠ ',') ∧ isBlank c = false ∧ c ≠ ',' ∧ Spread t := by
  obtain ⟨first, s, rfl, blank, comma, spread⟩ := started
  induction spread generalizing first with
  | nil => exact .inl (by simpa using ⟨blank, comma⟩)
  | @solid c s blank' comma' _ ih =>
      rcases ih c blank' comma' with solid | ⟨x, d, t, same, filled, solid, rest⟩
      · exact .inl (List.forall_mem_cons.mpr ⟨⟨blank, comma⟩, solid⟩)
      · exact .inr ⟨first :: x, d, t, congrArg (first :: ·) same, List.cons_ne_nil _ _,
          List.forall_mem_cons.mpr ⟨⟨blank, comma⟩, solid⟩, rest⟩
  | @comma c s blank' comma' rest _ =>
      exact .inr ⟨[first], c, s, rfl, List.cons_ne_nil _ _, by simpa using ⟨blank, comma⟩, blank',
        comma', rest⟩

namespace DeclaredParameter

def lead (parameter : DeclaredParameter) : Text :=
  parameter.before ++ (parameter.keywordText ++ parameter.name.text)

theorem text_eq (parameter : DeclaredParameter) :
    parameter.text =
      parameter.lead ++ ':' :: ' ' :: (parameter.type.text ++ parameter.tailText) := by
  simp [text, lead, tailText, TypedParameter.text]

theorem comma_notMem_lead (parameter : DeclaredParameter) : ',' ∉ parameter.lead := by
  have blanks : ',' ∉ parameter.before := notMem_of_blanks parameter.spaced.1 (by decide)
  have keyword : ',' ∉ parameter.keywordText := parameter.keywordText_notMem (by decide) (by decide)
  have name : ',' ∉ parameter.name.text := parameter.name.notMem (by decide)
  simp [lead, blanks, keyword, name]

def Readable (parameter : DeclaredParameter) : Prop :=
  parameter.keyword.isSome = true ∧ Named false parameter.name.text

theorem parse?_lead {parameter : DeclaredParameter} (unreadable : ¬ parameter.Readable) (t : Text) :
    PropertyHeader.parse? (parameter.lead ++ ':' :: t) = none := by
  unfold Readable at unreadable
  unfold lead keywordText
  cases present : parameter.keyword with
  | none =>
      have unspaced : ∀ c ∈ parameter.name.text, isBlank c = false :=
        fun c member => isBlank_of_isWord (parameter.name.word c member)
      simpa using parse?_plain parameter.spaced.1 unspaced t
  | some keyword =>
      have unnamed : ¬ Named false parameter.name.text := by
        simpa [present] using unreadable
      simpa using parse?_unnamed parameter.spaced.1 keyword unnamed t

theorem written_lead {parameter : DeclaredParameter} (readable : parameter.Readable) {t : Text}
    (unbraced : '{' ∉ t) :
    (ConstructorParameter.ofText (parameter.lead ++ ':' :: t)).written =
      parameter.name.text ++ Text.trim (':' :: t) := by
  obtain ⟨some, named⟩ := readable
  obtain ⟨keyword, present⟩ := Option.isSome_iff_exists.mp some
  let declaration : Declaration := {
    indent := parameter.before
    scope := none
    word := keyword.word
    gap := keyword.gap
    name := parameter.name.text
    rest := ':' :: t
    tail := []
    indented := parameter.spaced.1
    allowed := by simp
    separated := keyword.separated
    named := by
      rw [DeclarationWord.isFunction_eq_false keyword.property]
      exact named
    unnamed := by
      intro c first
      cases first
      decide
    unbraced := by simp [unbraced]
    braced := by simp }
  have text : declaration.text = parameter.lead ++ ':' :: t := by
    simp [declaration, Declaration.text, Declaration.written, Declaration.unscoped, lead,
      keywordText, present, PropertyKeyword.text]
  obtain ⟨computed, after, parsed⟩ := declaration.property_parse? keyword.property
  rw [text] at parsed
  simp only [ConstructorParameter.ofText, parsed, ConstructorParameter.written]
  rfl

/-- A parameter is written in one piece if its type has no comma, and otherwise as its part before
the first comma and what follows it. -/
theorem writtenList_text (parameter : DeclaredParameter) :
    (',' ∉ parameter.type.text ∧
      writtenList parameter.text = (ConstructorParameter.ofText parameter.text).written) ∨
    ∃ x c t, parameter.type.text = x ++ ',' :: ' ' :: c :: t ∧ isBlank c = false ∧ c ≠ ',' ∧
      x ≠ [] ∧ (∀ d ∈ x, isBlank d = false ∧ d ≠ ',') ∧
        writtenList parameter.text =
          (ConstructorParameter.ofText (parameter.lead ++ ':' :: ' ' :: x)).written ++
            (", " ++ ' ' :: c :: (widen t ++ parameter.looseTail)) := by
  rw [text_eq]
  rcases (type_started parameter.type).cases with
    solid | ⟨x, c, t, same, filled, solid, blank, comma, spread⟩
  · have absent : ',' ∉ parameter.type.text := fun member => (solid ',' member).2 rfl
    have single : ',' ∉
        parameter.lead ++ ':' :: ' ' :: (parameter.type.text ++ parameter.tailText) := by
      simp [parameter.comma_notMem_lead, absent, comma_notMem_tailText]
    exact .inl ⟨absent, writtenList_single single⟩
  · refine .inr ⟨x, c, t, same, blank, comma, filled, solid, ?_⟩
    have absent : ',' ∉ x := fun member => (solid ',' member).2 rfl
    have single : ',' ∉ parameter.lead ++ ':' :: ' ' :: x := by
      simp [parameter.comma_notMem_lead, absent]
    have uncut : Uncut ([c] ++ t) := by
      intro d member
      apply uncut_type parameter.type d
      rw [same]
      exact List.mem_append_right _ (List.mem_cons_of_mem _ (List.mem_cons_of_mem _ member))
    have own : ∀ d ∈ [c], isBlank d = false ∧ d ≠ ',' := by
      simpa using ⟨blank, comma⟩
    have later := writtenList_later parameter (List.cons_ne_nil c []) own spread uncut
    have shape : parameter.lead ++ ':' :: ' ' :: (parameter.type.text ++ parameter.tailText) =
        (parameter.lead ++ ':' :: ' ' :: x) ++
          ',' :: ' ' :: ([c] ++ (t ++ parameter.tailText)) := by
      simp [same]
    rw [shape, writtenList_comma, writtenList_single single, later]
    rfl

def shownText (parameter : DeclaredParameter) : Text :=
  if ',' ∈ parameter.type.text then
    parameter.name.text ++ ':' :: ' ' :: (widen parameter.type.text ++ parameter.looseTail)
  else parameter.toTypedParameter.text

theorem trim_typed (parameter : DeclaredParameter) :
    Text.trim (':' :: ' ' :: (parameter.type.text ++ parameter.tailText)) =
      ':' :: ' ' :: (parameter.type.text ++ parameter.toTypedParameter.defaultText) := by
  have shape : ':' :: ' ' :: (parameter.type.text ++ parameter.tailText) =
      (':' :: ' ' :: (parameter.type.text ++ parameter.toTypedParameter.defaultText)) ++
        parameter.after := by
    simp [tailText]
  rw [shape, trim_append_right _ parameter.spaced.2]
  apply trim_eq_self
  · intro c first
    cases first
    decide
  intro c last
  unfold TypedParameter.defaultText at last
  cases present : parameter.default with
  | none =>
      obtain ⟨first, rest, same, -⟩ := type_started parameter.type
      apply parameter.type.text_last_solid c
      simpa [present, same] using last
  | some value =>
      have ends : ∀ c ∈ value.text.getLast?, isBlank c = false :=
        value.trimmed ▸ getLast_trim value.text
      have shape : ':' :: ' ' :: (parameter.type.text ++ (" = " ++ value.text)) =
          (':' :: ' ' :: (parameter.type.text ++ " = ")) ++ value.text := by
        simp
      rw [present] at last
      dsimp only at last
      rw [shape, List.getLast?_append_of_ne_nil _ value.nonempty] at last
      exact ends c last

theorem brace_notMem (parameter : DeclaredParameter) : '{' ∉ parameter.text :=
  parameter.notMem (by decide) (by decide) (by decide) (by decide) (by decide)
    fun value present => parameter.token value present '{' (by decide)

theorem writtenList_property {parameter : DeclaredParameter} (readable : parameter.Readable) :
    writtenList parameter.text = parameter.shownText := by
  have unbraced : '{' ∉ parameter.text := parameter.brace_notMem
  rw [text_eq, List.mem_append, List.mem_cons, List.mem_cons, List.mem_append] at unbraced
  unfold shownText
  rcases parameter.writtenList_text with
    ⟨absent, whole⟩ | ⟨x, c, t, same, -, comma, filled, solid, cut⟩
  · rw [if_neg absent, whole, text_eq, written_lead readable (by simp; tauto), trim_typed]
    simp [TypedParameter.text]
  · have present : ',' ∈ parameter.type.text := by simp [same]
    have absent : ',' ∉ x := fun member => (solid ',' member).2 rfl
    have brace : '{' ∉ ' ' :: x := by
      simp [same] at unbraced ⊢
      tauto
    have trimmed : Text.trim (':' :: ' ' :: x) = ':' :: ' ' :: x := by
      apply trim_eq_self
      · intro d first
        cases first
        decide
      · intro d last
        have own : d ∈ x.getLast? := by
          simpa [List.getLast?_cons_of_ne_nil filled] using last
        exact (solid d (List.mem_of_mem_getLast? own)).1
    rw [if_pos present, cut, written_lead readable brace, trimmed, same, widen_append,
      widen_of_notMem absent, widen_comma, widen_cons (by decide), widen_cons comma]
    simp

theorem looseTail_notMem (parameter : DeclaredParameter) {c : Char} (solid : isBlank c = false)
    (mark : c ∈ ("()[]<>,=:" : Text)) : c ∉ parameter.looseTail := by
  have space : c ≠ ' ' := by
    rintro rfl
    cases solid
  have blanks : c ∉ parameter.after := notMem_of_blanks parameter.spaced.2 solid
  unfold looseTail
  cases parameter.default with
  | none => exact blanks
  | some value => simp [space, value.plain c mark, blanks]

theorem colon_notMem_writtenList {parameter : DeclaredParameter}
    (unreadable : ¬ parameter.Readable) : ':' ∉ writtenList parameter.text := by
  rcases parameter.writtenList_text with ⟨-, whole⟩ | ⟨x, c, t, same, -, -, -, -, cut⟩
  · rw [whole]
    apply colon_notMem_written
    rw [text_eq]
    exact parse?_lead unreadable _
  · have typed : ':' ∉ parameter.type.text :=
      parameter.type.notMem_text (by decide) (by decide)
    have later : ':' ∉ c :: widen t := by
      intro member
      have within : ':' ∈ c :: t := by
        rcases List.mem_cons.mp member with here | wide
        · exact here ▸ List.mem_cons_self
        · exact (mem_widen wide).elim (List.mem_cons_of_mem _) nofun
      exact typed (by rw [same]; simp at within ⊢; tauto)
    rw [cut, List.mem_append, not_or]
    refine ⟨colon_notMem_written (parse?_lead unreadable _), ?_⟩
    have tail : ':' ∉ parameter.looseTail := parameter.looseTail_notMem (by decide) (by decide)
    simp [tail] at later ⊢
    tauto

end DeclaredParameter

end KotlinDoc.Proofs
