import KotlinDoc.Proofs.Index.Rewording

namespace KotlinDoc.Proofs

theorem pair_infix_joined {a b : Char} (first : a ≠ ' ') (second : b ≠ ' ') {s t : Text}
    (inside : [a, b] <:+: s ++ ' ' :: t) : [a, b] <:+: s ∨ [a, b] <:+: t := by
  induction s with
  | nil =>
      rcases List.infix_cons_iff.mp inside with here | later
      · exact absurd (List.cons_prefix_cons.mp here).1 first
      · exact .inr later
  | cons c s ih =>
      rcases List.infix_cons_iff.mp inside with here | later
      · obtain ⟨rfl, next⟩ := List.cons_prefix_cons.mp here
        cases s with
        | nil => exact absurd (List.cons_prefix_cons.mp next).1 second
        | cons d s =>
            obtain ⟨rfl, -⟩ := List.cons_prefix_cons.mp next
            exact .inl (List.prefix_append [a, b] s).isInfix
      · exact (ih later).imp_left List.infix_cons

theorem PlainCode.joined {s t : Text} (first : PlainCode s) (second : PlainCode t) :
    PlainCode (s ++ ' ' :: t) where
  noQuote member := by
    rcases List.mem_append.mp member with before | after
    · exact first.noQuote before
    · rcases List.mem_cons.mp after with blank | after
      · exact absurd blank (by decide)
      · exact second.noQuote after
  noBlock inside :=
    (pair_infix_joined (by decide) (by decide) inside).elim first.noBlock second.noBlock
  noSlashes inside :=
    (pair_infix_joined (by decide) (by decide) inside).elim first.noSlashes second.noSlashes

theorem passed_unbalanced {text : Text} (plain : PlainCode text)
    (unbalanced : Source.parenExcess text ≠ 0) {lines : List Text}
    (flat : ∀ line ∈ lines, PlainCode line ∧ '(' ∉ line ∧ ')' ∉ line) {budget : Nat}
    (short : lines.length ≤ budget) :
    (Lines.joinOnto text budget lines).2 = lines.length + 1 := by
  induction lines generalizing text budget with
  | nil =>
      unfold Lines.joinOnto
      simp [unbalanced]
  | cons line lines ih =>
      obtain ⟨⟨own, noOpening, noClosing⟩, later⟩ := List.forall_mem_cons.mp flat
      have inside := isInfix_trim line
      have joined : PlainCode (text ++ ' ' :: Text.trim line) := plain.joined (own.of_isInfix inside)
      have still : Source.parenExcess (text ++ ' ' :: Text.trim line) ≠ 0 := by
        have none (c : Char) (absent : c ∉ line) : (Text.trim line).count c = 0 :=
          List.count_eq_zero.mpr fun member => absent (inside.subset member)
        rw [plain.parenExcess_eq] at unbalanced
        rw [joined.parenExcess_eq]
        simpa [List.count_append, none '(' noOpening, none ')' noClosing] using unbalanced
      have text_eq : text ++ " " ++ Text.trim line = text ++ ' ' :: Text.trim line := by
        rw [List.append_assoc]
        rfl
      cases budget with
      | zero => simp at short
      | succ budget =>
          have next := ih joined still later (Nat.le_of_succ_le_succ short)
          simp only [Lines.joinOnto, beq_iff_eq, unbalanced, if_false, text_eq, next,
            List.length_cons]

theorem scan_skipped (inEnum : Bool) (nesting : Member.Nesting) (position : Int) {skip : Nat}
    {sites : List Site} (all : sites.length ≤ skip) :
    Member.scan inEnum nesting position skip sites = [] := by
  induction sites generalizing position skip with
  | nil => rw [Member.scan]
  | cons site sites ih =>
      cases skip with
      | zero => simp at all
      | succ skip =>
          rw [Member.scan]
          exact ih _ (Nat.le_of_succ_le_succ all)

theorem scan_deeper {inEnum : Bool} {lines : List Text}
    (level : ∀ line ∈ lines, Level inEnum (Text.trimRight line)) {nesting : Member.Nesting}
    (deeper : 1 < nesting.braces) (position : Int) (above : List Text) :
    Member.scan inEnum nesting position 0 (Site.listBelow above lines) = [] := by
  induction lines generalizing nesting position above with
  | nil => rw [Site.listBelow, Member.scan]
  | cons line lines ih =>
      obtain ⟨here, later⟩ := List.forall_mem_cons.mp level
      have braces : (nesting.after (Text.trimRight line)).braces = nesting.braces :=
        here.braces_after
      have passed : addedMembers inEnum nesting ⟨line, above⟩ (position + (0 : Nat))
          (Text.trimRight line) = [] := by
        simp [addedMembers, braces, deeper]
      rw [scan_line, join_balanced here.parens]
      dsimp only
      rw [braces, if_neg (by omega), passed, ih later (by omega)]
      rfl

theorem label_ne_val (word : MemberWord) (other : word ≠ .val) :
    (MemberKind.plain word).label ≠ "val".toList ∧
      (MemberKind.companion word).label ≠ "val".toList := by
  cases word with
  | initial word => cases word <;> decide
  | val => exact absurd rfl other
  | _ => decide

theorem label_ofHeader_ne_val (static : Bool) (docstring : List Text) (position : Int) (raw : Text)
    {header : MemberHeader}
    (other : (∃ function, header = .function function) ∨ ∃ initial, header = .initial initial) :
    ∃ member rest, Member.ofHeader static docstring position raw header = member :: rest ∧
      member.kind.label ≠ "val".toList := by
  rcases other with ⟨function, rfl⟩ | ⟨⟨scope, word, written⟩, rfl⟩
  · have label := label_ne_val .function nofun
    cases static with
    | false => exact ⟨_, _, rfl, label.1⟩
    | true => exact ⟨_, _, rfl, label.2⟩
  · cases static with
    | false => cases word <;> exact ⟨_, _, rfl, (label_ne_val (.initial _) nofun).1⟩
    | true => cases word <;> exact ⟨_, _, rfl, (label_ne_val (.initial _) nofun).2⟩

theorem ofHeader_property (static : Bool) (docstring : List Text) (position : Int) (raw : Text)
    (header : PropertyHeader) :
    ∃ member, Member.ofHeader static docstring position raw (.property header) = [member] := by
  rcases ofHeader_cases static docstring position raw (.property header) with
    made | ⟨-, made⟩ | ⟨-, made⟩ | ⟨-, own, initial, -⟩
  · exact ⟨_, made⟩
  · exact ⟨_, made⟩
  · exact ⟨_, made⟩
  · cases initial

theorem api_ofLine_ne {inEnum : Bool} {first second : MemberEntry}
    (kind : inEnum = false → first.kind = "val".toList) (nesting : Member.Nesting) (site : Site)
    (position : Int) (text : Text) :
    api (Member.ofLine inEnum nesting site position text) ≠ [first, second] := by
  intro same
  unfold Member.ofLine at same
  dsimp only at same
  split at same
  · cases same
  · cases inEnum with
    | true =>
        unfold MemberHeader.ofLine at same
        cases parsed : EntryHeader.parse? text <;> rw [parsed] at same <;> cases same
    | false =>
        have start (header : MemberHeader) {headers : List MemberHeader}
            (headed : MemberHeader.ofLine false text = header :: headers)
            (other : (∃ function, header = .function function) ∨
              ∃ initial, header = .initial initial) : False := by
          obtain ⟨member, rest, made, label⟩ := label_ofHeader_ne_val nesting.inCompanion
            (Member.docstringAt false site text) position text other
          rw [headed, List.flatMap_cons, made, api, List.cons_append, List.map_cons] at same
          exact label ((congrArg (·.kind) (List.cons.inj same).1).trans (kind rfl))
        -- A property is the last header to be compared.
        cases function : FunctionHeader.parse? text with
        | some header =>
            exact start (.function header.1) (by simp only [MemberHeader.ofLine, function]; rfl)
              (.inl ⟨_, rfl⟩)
        | none =>
            cases initial : InitialHeader.parse? text with
            | some header =>
                exact start (.initial header.1)
                  (by simp only [MemberHeader.ofLine, function, initial]; rfl) (.inr ⟨_, rfl⟩)
            | none =>
                cases property : PropertyHeader.parse? text with
                | some header =>
                    obtain ⟨member, made⟩ := ofHeader_property nesting.inCompanion
                      (Member.docstringAt false site text) position text header.1
                    simp [MemberHeader.ofLine, function, initial, property, made, api] at same
                | none => simp [MemberHeader.ofLine, function, initial, property, api] at same

theorem api_addedMembers_ne {inEnum : Bool} {first second : MemberEntry}
    (kind : inEnum = false → first.kind = "val".toList) (nesting : Member.Nesting) (site : Site)
    (position : Int) (text : Text) :
    api (addedMembers inEnum nesting site position text) ≠ [first, second] := by
  unfold addedMembers
  split
  · nofun
  · exact api_ofLine_ne kind _ site position text

structure Lists (inEnum : Bool) (line : Text) (entry : Bool → MemberEntry) : Prop where
  level : Level inEnum (Text.trimRight line)
  undocumented : Member.inlineDoc? (Text.trimRight line) = none
  listed : ∀ static docstring position,
    api ((MemberHeader.ofLine inEnum (Text.trimRight line)).flatMap
      (Member.ofHeader static docstring position (Text.trimRight line))) = [entry static]

theorem Lists.api_scan {inEnum : Bool} {line : Text} {entry : Bool → MemberEntry}
    (lists : Lists inEnum line entry) {nesting : Member.Nesting} (within : Within nesting)
    (outermost : nesting.braces = 1) (position : Int) (above lines : List Text) :
    api (Member.scan inEnum nesting position 0 (Site.listBelow above (line :: lines))) =
      entry nesting.inCompanion ::
        api (Member.scan inEnum nesting (position + 1) 0 (Site.listBelow (line :: above) lines)) := by
  have braces : (nesting.after (Text.trimRight line)).braces = 1 :=
    lists.level.braces_after.trans outermost
  have here : api (addedMembers inEnum nesting ⟨line, above⟩ (position + (0 : Nat))
      (Text.trimRight line)) = [entry nesting.inCompanion] := by
    unfold addedMembers
    rw [braces, lists.level.ofLine_after within, ofLine_undocumented lists.undocumented]
    exact lists.listed _ _ _
  rw [scan_line, join_balanced lists.level.parens]
  dsimp only
  rw [braces, if_neg (by decide), api_append, here, lists.level.scan_after within]
  rfl

/-- A silent line and two lines that list a member each, all without parentheses. Members of a class
are properties that differ in a companion object. -/
structure Frame (inEnum : Bool) (closing first second : Text) (one two : Bool → MemberEntry) :
    Prop where
  silent : Silent inEnum (Text.trimRight closing)
  firstLists : Lists inEnum first one
  secondLists : Lists inEnum second two
  flat : ∀ line ∈ [closing, first, second], PlainCode line ∧ '(' ∉ line ∧ ')' ∉ line
  kind : inEnum = false → (one false).kind = "val".toList
  placed : inEnum = false → one true ≠ one false

namespace Frame

variable {inEnum : Bool} {closing first second : Text} {one two : Bool → MemberEntry}
  (frame : Frame inEnum closing first second one two)

include frame

theorem api_scan {nesting : Member.Nesting} (within : Within nesting)
    (outermost : nesting.braces = 1) (position : Int) (above : List Text) :
    api (Member.scan inEnum nesting position 0 (Site.listBelow above [closing, first, second])) =
      [one nesting.inCompanion, two nesting.inCompanion] := by
  rw [scan_silent frame.silent within, frame.firstLists.api_scan within outermost,
    frame.secondLists.api_scan within outermost, Site.listBelow, Member.scan]
  rfl

theorem api_silent {line : Text} (silent : Silent inEnum (Text.trimRight line)) (position : Int)
    (above : List Text) :
    api (Member.scan inEnum .start position 0 (Site.listBelow above [line, closing, first, second])) =
      [one false, two false] := by
  rw [scan_silent silent within_start, frame.api_scan within_start rfl]
  rfl

theorem api_level {line : Text} (plain : PlainCode line) {position next : Int} {above : List Text}
    (level : (Member.Nesting.start.after (Text.trimRight line)).braces = 1)
    (same : api (addedMembers inEnum .start ⟨line, above⟩ position (Text.trimRight line) ++
      Member.scan inEnum (Member.Nesting.start.after (Text.trimRight line)) next 0
        (Site.listBelow (line :: above) [closing, first, second])) = [one false, two false]) :
    MemberHeader.ofLine inEnum (Text.trimRight line) = [] ∧
      (inEnum = false → Outside (Text.trimRight line)) := by
  have within : Within (Member.Nesting.start.after (Text.trimRight line)) := .after (by omega)
  rw [api_append, frame.api_scan within level] at same
  obtain ⟨nothing, below⟩ := List.append_inj' (show _ ++ _ = [] ++ _ from same) rfl
  constructor
  · unfold addedMembers at nothing
    rw [level, if_neg (by simp), ofLine_undocumented plain.trimRight.inlineDoc?_eq_none] at nothing
    have empty := List.flatMap_eq_nil_iff.mp (List.map_eq_nil_iff.mp nothing)
    refine List.eq_nil_iff_forall_not_mem.mpr fun header member => ?_
    exact ofHeader_ne_nil _ _ _ _ header (empty header member)
  · intro inClass
    by_contra mention
    have static : (Member.Nesting.start.after (Text.trimRight line)).inCompanion = true := by
      unfold Member.Nesting.inCompanion
      rw [companion_after_mention mention, level]
      rfl
    rw [static] at below
    exact frame.placed inClass (List.cons.inj below).1

theorem api_loud {line : Text} (plain : PlainCode line)
    (loud : ¬ Silent inEnum (Text.trimRight line)) (position : Int) (above : List Text) :
    api (Member.scan inEnum .start position 0 (Site.listBelow above [line, closing, first, second])) ≠
      [one false, two false] := by
  have alone (nesting : Member.Nesting) (position : Int) (text : Text) :
      api (addedMembers inEnum nesting ⟨line, above⟩ position text) ≠ [one false, two false] :=
    api_addedMembers_ne frame.kind nesting _ position text
  rw [scan_line]
  by_cases balanced : Source.parenExcess (Text.trimRight line) = 0
  · rw [join_balanced balanced]
    dsimp only
    have braces : (Member.Nesting.start.after (Text.trimRight line)).braces =
        1 + Source.braceExcess (Text.trimRight line) := rfl
    split
    · nofun
    · rename_i inside
      by_cases level : (Member.Nesting.start.after (Text.trimRight line)).braces = 1
      · intro same
        obtain ⟨headerless, outside⟩ := frame.api_level plain level same
        exact loud ⟨⟨balanced, by omega, outside⟩, headerless⟩
      · -- The lines below lie deeper.
        have below : ∀ line ∈ [closing, first, second], Level inEnum (Text.trimRight line) := by
          simp only [List.forall_mem_cons]
          exact ⟨frame.silent.toLevel, frame.firstLists.level, frame.secondLists.level, nofun⟩
        rw [scan_deeper below (by omega), List.append_nil]
        exact alone _ _ _
  · -- All lines are joined to this one.
    have passed : (Lines.join line [closing, first, second]).2 = 4 :=
      passed_unbalanced plain.trimRight balanced frame.flat (by simp [Lines.maxJoined])
    split
    · nofun
    · rw [passed, scan_skipped _ _ _ (by simp [Site.listBelow]), List.append_nil]
      exact alone _ _ _

end Frame

end KotlinDoc.Proofs
