import Mathlib.Algebra.Order.BigOperators.Group.List
import Mathlib.Algebra.Order.Group.Nat
import Mathlib.Algebra.Ring.Nat
import Mathlib.Data.Nat.Cast.Basic
import KotlinDoc.Proofs.Domain.CallableRoundTrip
import KotlinDoc.Proofs.Domain.ParameterSlices
import KotlinDoc.Proofs.Index.Constructors

namespace KotlinDoc.Proofs

open Domain

/-! ## What a signature shows -/

def shownParameter : SignatureNode → Option (Text × Text)
  | .element .parameter label (.text _ :: .reference type _ _ :: _) => some (label, type)
  | _ => none

def shownParameters (nodes : List SignatureNode) : List (Text × Text) :=
  nodes.flatMap fun
    | .element .parameterList _ children => children.filterMap shownParameter
    | _ => []

def shownAs (parameter : Parameter) : Text × Text :=
  (parameter.name ++ ": ", parameter.type)

def DeclaredParameter.shown (parameter : DeclaredParameter) : Text × Text :=
  (parameter.name.text ++ ": ", parameter.type.text)

/-- The signature can be read as that of a constructor, and shows the parameters. -/
def Recovers (owner : Option Text) (signature : Text) (parameters : List DeclaredParameter) : Prop :=
  ∃ result, Signature.read .constructor owner signature = .ok result ∧
    shownParameters result.nodes = parameters.map (·.shown)

theorem shownParameter_parameterNode (parameter : Parameter) :
    shownParameter (Signature.parameterNode parameter) = some (shownAs parameter) := by
  have label : parameter.name ++ (": " : Text) ≠ [] := by simp
  unfold Signature.parameterNode
  dsimp only
  rw [textOf_eq label]
  rfl

theorem shownParameters_assembled (type : ObjectType) (owner : Option Text)
    (name typeParameters : Text) (parameters : List Parameter) (returns : Option Text) :
    shownParameters (assembled type owner name typeParameters parameters returns).nodes =
      parameters.map shownAs := by
  have words : shownParameters (Signature.leadingWords type) = [] := by
    cases type <;> rfl
  have additions : shownParameters (if typeParameters.isEmpty then []
      else [.labelled .addition typeParameters typeParameters]) = [] := by
    split <;> rfl
  have annotation : shownParameters (returns.map SignatureNode.typeAnnotation).toList = [] := by
    cases returns <;> rfl
  unfold shownParameters at words additions annotation ⊢
  simp only [assembled, List.flatMap_append, words, additions, annotation]
  simp [SignatureNode.labelled, List.filterMap_map, shownParameter_parameterNode]

theorem recovers_iff (owner : Option Text) (s : Text) (parameters : List DeclaredParameter) :
    Recovers owner ("constructor" ++ '(' :: s) parameters ↔
      ∃ read, parametersOf? (Signature.cutParameters ('(' :: s)).1 = some read ∧
        read.map shownAs = parameters.map (·.shown) := by
  have cut : Signature.cutCallable ("constructor" ++ '(' :: s) = ⟨"constructor", [], '(' :: s⟩ :=
    cutCallable_append (by decide) (by decide) s
  have reading : Signature.read .constructor owner ("constructor" ++ '(' :: s) = _ :=
    ofCallable_eq (by decide) owner _
  unfold Recovers
  rw [reading, cut]
  dsimp only
  cases parametersOf? (Signature.cutParameters ('(' :: s)).1 with
  | none => simp
  | some read => simp [shownParameters_assembled]

/-! ## Colons -/

theorem sum_count_onto (c : Char) (s : Text) (pieces : List Text) :
    ((onto s pieces).map (List.count c)).sum = s.count c + (pieces.map (List.count c)).sum := by
  cases pieces <;> simp [onto, Nat.add_assoc]

theorem sum_count_piecesFrom {c : Char} (other : c ≠ ',') (b : Brackets) (s : Text) :
    ((Parameter.piecesFrom b s).map (List.count c)).sum = s.count c := by
  induction s generalizing b with
  | nil => simp [Parameter.piecesFrom]
  | cons d s ih =>
      rw [piecesFrom_cons]
      split
      · rename_i comma
        obtain ⟨rfl, -⟩ := comma
        simp [ih, List.count_cons_of_ne other.symm]
      · rw [sum_count_onto, ih, ← List.count_append, List.singleton_append]

theorem length_le_of_mapM {pieces : List Text} {parameters : List Parameter}
    (read : pieces.mapM Parameter.ofPiece? = some parameters) :
    parameters.length ≤ (pieces.map (List.count ':')).sum := by
  induction mapM_eq_some_iff.mp read with
  | nil => rfl
  | @cons piece _ _ _ here later ih =>
      have colon : 0 < piece.count ':' := List.count_pos_iff.mpr (colon_mem_of_ofPiece? here)
      have more := ih (mapM_eq_some_iff.mpr later)
      simp only [List.length_cons, List.map_cons, List.sum_cons]
      omega

theorem length_le_count_colon {s : Text} {parameters : List Parameter}
    (read : parametersOf? (Signature.cutParameters s).1 = some parameters) :
    parameters.length ≤ s.count ':' := by
  have part : (Signature.cutParameters s).1.Sublist s := by
    unfold Signature.cutParameters
    split
    · exact (List.drop_sublist _ _).trans (List.take_sublist _ _)
    · exact List.nil_sublist s
  unfold parametersOf? at read
  split at read
  · cases read
    exact Nat.zero_le _
  · calc
      parameters.length
          ≤ ((Parameter.pieces (Signature.cutParameters s).1).map (List.count ':')).sum :=
        length_le_of_mapM read
      _ = (Signature.cutParameters s).1.count ':' := sum_count_piecesFrom (by decide) _ _
      _ ≤ s.count ':' := part.count_le _

theorem count_joined {c : Char} (other : c ∉ (", " : Text)) (texts : List Text) :
    (Text.joined ", " texts).count c = (texts.map (List.count c)).sum := by
  cases texts with
  | nil => rfl
  | cons first texts =>
      have separator : (", " : Text).count c = 0 := List.count_eq_zero.mpr other
      rw [joined_cons, List.count_append, List.count_flatMap]
      simp only [Function.comp_def, List.count_append, separator, Nat.zero_add, List.map_cons,
        List.sum_cons]

/-! ## Primary constructors -/

namespace DeclaredParameter

def readBack (parameter : DeclaredParameter) : Parameter :=
  if ',' ∈ parameter.type.text then
    ⟨parameter.name.text, Text.trim (widen parameter.type.text ++ parameter.looseTail), none⟩
  else parameter.toTypedParameter.parameter

theorem nested_looseTail (parameter : DeclaredParameter) : Nested false parameter.looseTail := by
  have blanks : Nested false parameter.after := nested_of_blanks parameter.spaced.2
  unfold looseTail
  cases parameter.default with
  | none => exact blanks
  | some value => exact .plain rfl (.plain rfl (value.nested.append blanks))

theorem nested_shownText (parameter : DeclaredParameter) : Nested false parameter.shownText := by
  unfold shownText
  split
  · exact parameter.name.nested.append
      (.plain rfl (.plain rfl ((nested_widen parameter.type.text_nested).append
        parameter.nested_looseTail)))
  · exact parameter.toTypedParameter.text_nested

theorem equals_notMem_loose (parameter : DeclaredParameter) :
    '=' ∉ ' ' :: (widen parameter.type.text ++ parameter.looseTail) := by
  have typed : '=' ∉ widen parameter.type.text := by
    intro member
    rcases mem_widen member with inside | space
    · exact parameter.type.notMem_text (by decide) (by decide) inside
    · cases space
  have tail : '=' ∉ parameter.looseTail := parameter.looseTail_notMem (by decide) (by decide)
  simp [typed, tail]

theorem ofPiece?_shownText (parameter : DeclaredParameter) {blanks : Text} (blank : Blanks blanks) :
    Parameter.ofPiece? (blanks ++ parameter.shownText) = some parameter.readBack := by
  unfold shownText readBack
  split
  · have noColon : ':' ∉ blanks ++ parameter.name.text := by
      rw [List.mem_append, not_or]
      exact ⟨notMem_of_blanks blank (by decide), parameter.name.notMem (by decide)⟩
    have space : Blanks [' '] := by decide
    have named : Text.trim (blanks ++ parameter.name.text) = parameter.name.text := by
      rw [trim_append_left blank, parameter.name.trim_text]
    have typed := trim_append_left space (widen parameter.type.text ++ parameter.looseTail)
    unfold Parameter.ofPiece?
    rw [← List.append_assoc, cutFirst_append noColon]
    simp only [cutLast_of_notMem parameter.equals_notMem_loose, named]
    rw [← List.singleton_append, typed]
    rfl
  · exact parameter.toTypedParameter.ofPiece?_text blank

theorem readBack_type_iff (parameter : DeclaredParameter) :
    parameter.readBack.type = parameter.type.text ↔ ',' ∉ parameter.type.text := by
  unfold readBack
  rcases (type_started parameter.type).cases with
    solid | ⟨x, c, t, same, filled, solid, blank, comma, -⟩
  · have absent : ',' ∉ parameter.type.text := fun member => (solid ',' member).2 rfl
    simp [absent, TypedParameter.parameter]
  · have present : ',' ∈ parameter.type.text := by simp [same]
    have absent : ',' ∉ x := fun member => (solid ',' member).2 rfl
    have wide : widen parameter.type.text = x ++ ',' :: ' ' :: ' ' :: c :: widen t := by
      rw [same, widen_append, widen_of_notMem absent, widen_comma, widen_cons (by decide),
        widen_cons comma]
    rw [if_pos present]
    refine iff_of_false (fun unchanged => ?_) (not_not_intro present)
    -- The declared type would begin the text that is read, but the second blank stands in its way.
    have starts : ∀ d ∈ (widen parameter.type.text ++ parameter.looseTail).head?,
        isBlank d = false := by
      intro d first
      obtain ⟨e, y, rfl⟩ := List.exists_cons_of_ne_nil filled
      rw [wide] at first
      obtain rfl : e = d := by simpa using first
      exact (solid e List.mem_cons_self).1
    have begins := trim_prefix starts
    dsimp only at unchanged
    rw [unchanged, wide, same, List.append_assoc, List.prefix_append_right_inj] at begins
    simp only [List.cons_append, List.cons_prefix_cons, true_and] at begins
    obtain ⟨rfl, -⟩ := begins
    cases blank

theorem count_shownText (parameter : DeclaredParameter) : parameter.shownText.count ':' = 1 := by
  have name : parameter.name.text.count ':' = 0 :=
    List.count_eq_zero.mpr (parameter.name.notMem (by decide))
  have typed : ':' ∉ parameter.type.text := parameter.type.notMem_text (by decide) (by decide)
  unfold shownText
  split
  · have wide : (widen parameter.type.text).count ':' = 0 :=
      List.count_eq_zero.mpr fun member => (mem_widen member).elim typed nofun
    have tail : parameter.looseTail.count ':' = 0 :=
      List.count_eq_zero.mpr (parameter.looseTail_notMem (by decide) (by decide))
    simp [name, wide, tail]
  · have value : ':' ∉ parameter.toTypedParameter.defaultText :=
      parameter.toTypedParameter.defaultText_notMem (by decide) (by decide)
        fun value _ => value.plain ':' (by decide)
    simp [TypedParameter.text, name, List.count_eq_zero.mpr typed,
      List.count_eq_zero.mpr value]

end DeclaredParameter

def primarySignature (parameters : List DeclaredParameter) : Text :=
  "constructor" ++ '(' :: (writtenList (listText parameters) ++ [')'])

theorem writtenList_listText (parameters : List DeclaredParameter) :
    writtenList (listText parameters) =
      Text.joined ", " (parameters.map fun parameter => writtenList parameter.text) := by
  cases parameters with
  | nil => decide
  | cons first parameters =>
      rw [listText, List.map_cons, writtenList_joined]
      simp [Function.comp_def]

theorem parametersOf?_shown (parameters : List DeclaredParameter) :
    parametersOf? (Text.joined ", " (parameters.map (·.shownText))) =
      some (parameters.map (·.readBack)) := by
  cases parameters with
  | nil => rfl
  | cons first parameters =>
      exact parametersOf?_of_list? (list?_joined (fun one _ => one.nested_shownText)
        fun one _ _ blank => one.ofPiece?_shownText blank)

theorem recovers_readable {owner : Option Text} {parameters : List DeclaredParameter}
    (readable : ∀ parameter ∈ parameters, parameter.Readable) :
    Recovers owner (primarySignature parameters) parameters ↔
      ∀ parameter ∈ parameters, ',' ∉ parameter.type.text := by
  have written : writtenList (listText parameters) =
      Text.joined ", " (parameters.map (·.shownText)) := by
    rw [writtenList_listText, List.map_congr_left fun one member =>
      DeclaredParameter.writtenList_property (readable one member)]
  have nested : Nested true (writtenList (listText parameters)) := by
    rw [written]
    refine .joined fun s member => ?_
    obtain ⟨one, -, rfl⟩ := List.mem_map.mp member
    exact one.nested_shownText.within
  have name (one : DeclaredParameter) : one.readBack.name = one.name.text := by
    unfold DeclaredParameter.readBack
    split <;> rfl
  unfold primarySignature
  rw [recovers_iff, cutParameters_nested nested]
  dsimp only
  rw [written, parametersOf?_shown]
  simp only [Option.some.injEq, exists_eq_left', List.map_map, List.map_inj_left]
  refine forall₂_congr fun one _ => ?_
  simp [DeclaredParameter.shown, shownAs, name, one.readBack_type_iff]

theorem recovers_written_iff (owner : Option Text) (parameters : List DeclaredParameter) :
    Recovers owner (primarySignature parameters) parameters ↔
      ∀ parameter ∈ parameters, parameter.Readable ∧ ',' ∉ parameter.type.text := by
  by_cases readable : ∀ parameter ∈ parameters, parameter.Readable
  · rw [recovers_readable readable]
    exact forall₂_congr fun one member => ⟨fun plain => ⟨readable one member, plain⟩, And.right⟩
  · refine iff_of_false (fun recovers => ?_) fun all => readable fun one member => (all one member).1
    -- Each parameter has at most one colon, and one of them has none.
    push Not at readable
    obtain ⟨lost, member, unreadable⟩ := readable
    have atMostOne (one : DeclaredParameter) : (writtenList one.text).count ':' ≤ 1 := by
      by_cases here : one.Readable
      · rw [DeclaredParameter.writtenList_property here, one.count_shownText]
      · rw [List.count_eq_zero.mpr (DeclaredParameter.colon_notMem_writtenList here)]
        exact Nat.zero_le 1
    have none : (writtenList lost.text).count ':' = 0 :=
      List.count_eq_zero.mpr (DeclaredParameter.colon_notMem_writtenList unreadable)
    have fewer : (writtenList (listText parameters)).count ':' < parameters.length := by
      rw [writtenList_listText, count_joined (by decide), List.map_map]
      have missing : (writtenList lost.text).count ':' < 1 := by omega
      have less := List.sum_lt_sum (fun one : DeclaredParameter => (writtenList one.text).count ':')
        (fun _ => 1) (l := parameters) (fun one _ => atMostOne one) ⟨lost, member, missing⟩
      simpa [Function.comp_def, Nat.cast_id] using less
    obtain ⟨read, reads, same⟩ := (recovers_iff owner _ parameters).mp recovers
    have atMost := length_le_count_colon reads
    have length : read.length = parameters.length := by
      simpa using congrArg List.length same
    simp at atMost
    omega

/-! ## Secondary constructors -/

def secondarySignature (parameters : List DeclaredParameter) (tail : Text) : Text :=
  "constructor" ++ Member.throughParen ('(' :: (listText parameters ++ ')' :: tail))

theorem closing?_open {s : Text} (unclosed : ')' ∉ s) {depth : Int} (positive : 0 < depth)
    (deeper : depth + s.count '(' ≠ 1) : Signature.closing? depth (s ++ [')']) = none := by
  induction s generalizing depth with
  | nil =>
      have nonzero : depth - 1 ≠ 0 := by
        simp at deeper
        omega
      simp [Signature.closing?, nonzero]
  | cons c s ih =>
      obtain ⟨other, later⟩ := List.ne_and_not_mem_of_not_mem_cons unclosed
      by_cases opening : c = '('
      · subst opening
        have nonzero : depth + 1 ≠ 0 := by omega
        have rest : Signature.closing? (depth + 1) (s ++ [')']) = none := by
          apply ih later (by omega)
          simp at deeper ⊢
          omega
        simp [Signature.closing?, nonzero, rest]
      · rw [List.cons_append, closing?_other opening (Ne.symm other) positive]
        rw [List.count_cons_of_ne opening] at deeper
        rw [ih later positive deeper]
        rfl

theorem opening_mem {inside : Bool} {s t : Text} (nested : Nested inside (s ++ ')' :: t))
    (unclosed : ')' ∉ s) : '(' ∈ s := by
  by_contra closed
  have found : Signature.closing? 1 (s ++ ')' :: t) = some s.length := by
    clear nested
    induction s with
    | nil => simp [Signature.closing?]
    | cons c s ih =>
        obtain ⟨notOpening, opening⟩ := List.ne_and_not_mem_of_not_mem_cons closed
        obtain ⟨notClosing, closing⟩ := List.ne_and_not_mem_of_not_mem_cons unclosed
        rw [List.cons_append, closing?_other (Ne.symm notOpening) (Ne.symm notClosing) Int.one_pos,
          ih closing opening]
        rfl
  have passed := closing?_nested nested Int.one_pos []
  rw [List.append_nil, found] at passed
  cases passed

theorem paren_mem_text (parameter : DeclaredParameter) :
    ')' ∈ parameter.text ↔ ')' ∈ parameter.type.text := by
  have keyword : ')' ∉ parameter.keywordText := parameter.keywordText_notMem (by decide) (by decide)
  have value : ')' ∉ parameter.toTypedParameter.defaultText :=
    parameter.toTypedParameter.defaultText_notMem (by decide) (by decide)
      fun value _ => value.plain ')' (by decide)
  have before : ')' ∉ parameter.before := notMem_of_blanks parameter.spaced.1 (by decide)
  have after : ')' ∉ parameter.after := notMem_of_blanks parameter.spaced.2 (by decide)
  have name : ')' ∉ parameter.name.text := parameter.name.notMem (by decide)
  simp [DeclaredParameter.text, TypedParameter.text, keyword, value, before, after, name]

theorem paren_mem_listText (parameters : List DeclaredParameter) :
    ')' ∈ listText parameters ↔ ∃ parameter ∈ parameters, ')' ∈ parameter.type.text := by
  unfold listText
  cases parameters with
  | nil => simp [Text.joined]
  | cons first parameters => simp [joined_cons, List.mem_flatMap, paren_mem_text]

theorem parametersOf?_listText {parameters : List DeclaredParameter}
    (plain : ∀ parameter ∈ parameters, parameter.keyword = none) :
    parametersOf? (listText parameters) =
      some (parameters.map (·.toTypedParameter.parameter)) := by
  unfold listText
  cases parameters with
  | nil => rfl
  | cons first parameters =>
      apply parametersOf?_of_list?
      apply list?_commas fun one _ => one.text_nested
      intro one member
      unfold DeclaredParameter.text DeclaredParameter.keywordText
      rw [plain one member]
      exact one.toTypedParameter.ofPiece?_spaced one.spaced.1 one.spaced.2

theorem recovers_cut_iff (owner : Option Text) {parameters : List DeclaredParameter}
    (plain : ∀ parameter ∈ parameters, parameter.keyword = none) (tail : Text) :
    Recovers owner (secondarySignature parameters tail) parameters ↔
      ∀ parameter ∈ parameters, ')' ∉ parameter.type.text := by
  unfold secondarySignature
  by_cases closed : ')' ∈ listText parameters
  · obtain ⟨one, member, paren⟩ := (paren_mem_listText parameters).mp closed
    refine iff_of_false (fun recovers => ?_) fun none => none one member paren
    -- The signature ends within the list, so that the list is taken for empty.
    obtain ⟨s, t, same, unclosed⟩ := List.eq_append_cons_of_mem closed
    have opened : 0 < s.count '(' := by
      have nested := listText_nested parameters
      rw [same] at nested
      exact List.count_pos_iff.mpr (opening_mem nested unclosed)
    have cut : Member.throughParen ('(' :: (listText parameters ++ ')' :: tail)) =
        '(' :: (s ++ [')']) := by
      have shape : '(' :: (listText parameters ++ ')' :: tail) =
          ('(' :: s) ++ ')' :: (t ++ ')' :: tail) := by
        simp [same]
      rw [shape]
      exact throughParen_append (by simp [unclosed]) _
    have missing : Signature.closing? 0 ('(' :: (s ++ [')'])) = none := by
      simp [Signature.closing?, closing?_open unclosed Int.one_pos (by omega)]
    rw [cut, recovers_iff] at recovers
    obtain ⟨read, reads, shown⟩ := recovers
    simp only [Signature.cutParameters, missing] at reads
    obtain rfl : [] = read := Option.some.inj reads
    have empty : parameters = [] := List.map_eq_nil_iff.mp shown.symm
    rw [empty] at member
    cases member
  · have cut : Member.throughParen ('(' :: (listText parameters ++ ')' :: tail)) =
        '(' :: (listText parameters ++ [')']) :=
      throughParen_append (s := '(' :: listText parameters) (by simp [closed]) tail
    rw [cut, recovers_iff, cutParameters_nested (listText_nested parameters)]
    dsimp only
    rw [parametersOf?_listText plain]
    refine iff_of_true ⟨_, rfl, ?_⟩ fun one member paren =>
      closed ((paren_mem_listText parameters).mpr ⟨one, member, paren⟩)
    rw [List.map_map]
    rfl

end KotlinDoc.Proofs
