import KotlinDoc.Proofs.Index.Forest
import KotlinDoc.Proofs.Index.Inventory
import KotlinDoc.Proofs.Source.HeaderParts

namespace KotlinDoc.Proofs

def Unbroken (s : Text) : Prop :=
  '\n' ∉ s

instance (s : Text) : Decidable (Unbroken s) :=
  inferInstanceAs (Decidable (¬ _))

def Ended (line : Text) : Prop :=
  Unbroken (Text.trimRight line)

/-! ## Texts -/

theorem Unbroken.of_subset {s t : Text} (unbroken : Unbroken t) (inside : s ⊆ t) : Unbroken s :=
  fun member => unbroken (inside member)

theorem Unbroken.append {s t : Text} (first : Unbroken s) (second : Unbroken t) :
    Unbroken (s ++ t) := by
  unfold Unbroken
  rw [List.mem_append, not_or]
  exact ⟨first, second⟩

theorem Unbroken.trim {s : Text} (unbroken : Unbroken s) : Unbroken (Text.trim s) :=
  unbroken.of_subset (isInfix_trim s).subset

theorem Unbroken.ended {s : Text} (unbroken : Unbroken s) : Ended s :=
  unbroken.of_subset (isPrefix_trimRight s).subset

theorem Ended.trim {line : Text} (ended : Ended line) : Unbroken (Text.trim line) := by
  rw [← trim_trimRight]
  exact Unbroken.trim ended

theorem trimRight_subset {s line : Text} (piece : s <:+: line) :
    Text.trimRight s ⊆ Text.trimRight line := by
  obtain ⟨before, after, rfl⟩ := piece
  intro c member
  rcases List.eq_nil_or_concat' (Text.trimRight s) with empty | ⟨first, last, filled⟩
  · rw [empty] at member
    cases member
  · have solid : isBlank last = false := by
      have ends := List.rdropWhile_last_not isBlank s
      have same : List.rdropWhile isBlank s = first ++ [last] := filled
      simpa [same] using ends
    obtain ⟨blanks, whole⟩ := isPrefix_trimRight s
    have kept : before ++ (first ++ [last]) <+: Text.trimRight (before ++ s ++ after) := by
      apply isPrefix_trimRight_of_solid
      · simpa using solid
      · exact ⟨blanks ++ after, by rw [← whole, filled]; simp⟩
    rw [filled] at member
    exact kept.subset (List.mem_append_right before member)

theorem Ended.trim_piece {s line : Text} (ended : Ended line) (piece : s <:+: line) :
    Unbroken (Text.trim s) := by
  have inner : Text.trim s = Text.trimRight (Text.trimLeft s) := rfl
  rw [inner]
  exact Unbroken.of_subset ended (trimRight_subset
    ((trimLeft_suffix s).isInfix.trans piece))

theorem Unbroken.ended_append {s line : Text} (unbroken : Unbroken s) (ended : Ended line) :
    Ended (s ++ line) := by
  have split : Text.trimRight line ++ List.rtakeWhile isBlank line = line :=
    List.rdropWhile_append_rtakeWhile
  have blank : Blanks (List.rtakeWhile isBlank line) := fun _ => List.mem_rtakeWhile_imp
  unfold Ended
  rw [← split, ← List.append_assoc, trimRight_append _ blank]
  exact (unbroken.append ended).ended

theorem unbroken_of_words {s : Text} (words : ∀ c ∈ s, isAsciiWord c = true ∨ c = '.') :
    Unbroken s := by
  intro member
  have plain : ¬ (isAsciiWord '\n' = true ∨ '\n' = '.') := by decide
  exact plain (words _ member)

theorem Named.unbroken {dots : Bool} {name : Text} (named : Named dots name) : Unbroken name :=
  unbroken_of_words fun c member => (named.written c member).imp id And.right

theorem trimmed?_unbroken {s : Text} (unbroken : Unbroken (Text.trim s)) :
    ∀ t ∈ trimmed? s, Unbroken t := by
  intro t made
  unfold trimmed? at made
  split at made
  · cases made
  · cases made
    exact unbroken

/-! ## Lines -/

theorem ended_of_mem_ofText {s line : Text} (member : line ∈ Lines.ofText s) : Ended line := by
  have shape : ∃ t, Unbroken t ∧ (line = t ∨ line = t ++ ['\n']) := by
    induction s generalizing line with
    | nil => cases member
    | cons c s ih =>
        rw [Lines.ofText] at member
        split at member
        · rename_i newline
          obtain rfl := eq_of_beq newline
          rcases List.mem_cons.mp member with rfl | later
          · exact ⟨[], List.not_mem_nil, .inr rfl⟩
          · exact ih later
        · rename_i other
          have apart : '\n' ≠ c := fun same => other (by simp [← same])
          split at member
          · rw [List.mem_singleton.mp member]
            exact ⟨[c], by simpa [Unbroken] using apart, .inl rfl⟩
          · rename_i first lines found
            rcases List.mem_cons.mp member with rfl | later
            · obtain ⟨t, unbroken, written⟩ := ih (found ▸ List.mem_cons_self)
              refine ⟨c :: t, ?_, written.imp (congrArg _) (congrArg _)⟩
              exact List.not_mem_cons_of_ne_of_not_mem apart unbroken
            · exact ih (found ▸ List.mem_cons_of_mem _ later)
  obtain ⟨t, unbroken, rfl | rfl⟩ := shape
  · exact unbroken.ended
  · unfold Ended
    rw [trimRight_append t (by decide)]
    exact unbroken.ended

theorem unbroken_joinOnto {text : Text} (unbroken : Unbroken text) (budget : Nat)
    {lines : List Text} (ended : ∀ line ∈ lines, Ended line) :
    Unbroken (Lines.joinOnto text budget lines).1 := by
  induction lines generalizing text budget with
  | nil =>
      unfold Lines.joinOnto
      split <;> exact unbroken
  | cons line lines ih =>
      obtain ⟨first, later⟩ := List.forall_mem_cons.mp ended
      unfold Lines.joinOnto
      split
      · exact unbroken
      · cases budget with
        | zero => exact unbroken
        | succ budget =>
            have space : Unbroken " ".toList := by decide
            exact ih ((unbroken.append space).append first.trim) budget later

structure EndedSite (site : Site) : Prop where
  line : Ended site.line
  above : ∀ line ∈ site.above, Ended line

theorem endedSite_listBelow {above lines : List Text} (higher : ∀ line ∈ above, Ended line)
    (ended : ∀ line ∈ lines, Ended line) : ∀ site ∈ Site.listBelow above lines, EndedSite site := by
  induction lines generalizing above with
  | nil => exact nofun
  | cons line lines ih =>
      obtain ⟨here, later⟩ := List.forall_mem_cons.mp ended
      exact List.forall_mem_cons.mpr ⟨⟨here, higher⟩, ih (List.forall_mem_cons.mpr ⟨here, higher⟩) later⟩

theorem endedSite_list {lines : List Text} (ended : ∀ line ∈ lines, Ended line) :
    ∀ site ∈ Site.list lines, EndedSite site :=
  endedSite_listBelow nofun ended

/-! ## Documentation -/

theorem strip?_unbroken {line : Text} (ended : Ended line) {stripped : DocComment.Stripped}
    (made : DocComment.strip? line = some stripped) : Unbroken stripped.text := by
  unfold DocComment.strip? at made
  dsimp only at made
  generalize cut : (if Text.endsWith DocComment.closing (Text.trimRight line) then _ else _) = t
    at made
  have kept : Unbroken t := by
    rw [← cut]
    split
    · exact Unbroken.of_subset ended (List.take_subset _ _)
    · exact ended
  split at made
  · rename_i text opened
    cases made
    exact kept.trim.of_subset (suffix_of_after? opened).subset
  · split at made
    · cases made
    · cases made
      exact kept

theorem unbroken_collect {inside : Bool} {found lines : List Text}
    (unbroken : ∀ line ∈ found, Unbroken line) (ended : ∀ line ∈ lines, Ended line) :
    ∀ line ∈ DocComment.collect inside found lines, Unbroken line := by
  induction lines generalizing inside found with
  | nil => exact unbroken
  | cons first lines ih =>
      obtain ⟨here, later⟩ := List.forall_mem_cons.mp ended
      rw [DocComment.collect]
      split
      · exact nofun
      · rename_i stripped made
        have added : ∀ line ∈ stripped.text :: found, Unbroken line :=
          List.forall_mem_cons.mpr ⟨strip?_unbroken here made, unbroken⟩
        dsimp only
        split
        · exact ih unbroken later
        · split
          · exact unbroken
          · split
            · split
              · exact unbroken
              · exact added
            · exact ih added later

theorem unbroken_above {lines : List Text} (ended : ∀ line ∈ lines, Ended line) :
    ∀ line ∈ DocComment.above lines, Unbroken line :=
  unbroken_collect nofun ended

theorem unbroken_describe {tag name : Text} {started : Bool} {docstring : List Text}
    (unbroken : ∀ line ∈ docstring, Unbroken line) :
    ∀ line ∈ DocComment.describe tag name started docstring, Unbroken line := by
  induction docstring generalizing started with
  | nil => exact nofun
  | cons first docstring ih =>
      obtain ⟨here, later⟩ := List.forall_mem_cons.mp unbroken
      intro line member
      rw [DocComment.describe] at member
      have cut : ∀ named : Bool, ∀ line ∈ (if named = true then
          [(Text.trim first).drop (2 + tag.length + name.length)] else []), Unbroken line := by
        intro named line made
        split at made
        · rw [List.mem_singleton.mp made]
          exact here.trim.of_subset (List.drop_subset _ _)
        · cases made
      split at member
      · split at member
        · exact cut _ line member
        · rcases List.mem_append.mp member with tagged | rest
          · exact cut _ line tagged
          · rcases List.mem_cons.mp rest with rfl | more
            · exact here
            · exact ih later line more
      · exact ih later line member

theorem unbroken_inlineDoc? {line doc : Text} (unbroken : Unbroken line)
    (found : Member.inlineDoc? line = some doc) : Unbroken doc := by
  obtain ⟨start, -, rfl⟩ := Option.map_eq_some_iff.mp found
  apply Unbroken.trim
  exact unbroken.of_subset (List.Subset.trans (List.drop_subset _ _) (List.take_subset _ _))

theorem unbroken_docstringAt (inEnum : Bool) {site : Site} {line : Text}
    (unbroken : Unbroken line) (higher : ∀ line ∈ site.above, Ended line) :
    ∀ doc ∈ Member.docstringAt inEnum site line, Unbroken doc := by
  unfold Member.docstringAt
  cases found : Member.inlineDoc? line with
  | some doc => exact List.forall_mem_singleton.mpr (unbroken_inlineDoc? unbroken found)
  | none =>
      cases inEnum with
      | true => exact nofun
      | false => exact unbroken_above higher

/-! ## Constructor parameters -/

def UnbrokenParameter : ConstructorParameter → Prop
  | .property header _ => Unbroken header.name ∧ Unbroken header.rest
  | .plain name parts => Unbroken name ∧ ∀ part ∈ parts, Unbroken part

theorem unbrokenParameter_ofText {s : Text} (unbroken : Unbroken s) :
    UnbrokenParameter (ConstructorParameter.ofText s) := by
  have pieces : ∀ piece ∈ Text.piecesAt (fun c => c == ':' || c == '=' || c == '|') s,
      Unbroken piece := fun piece member =>
    unbroken.of_subset fun _ inside => (mem_of_mem_piecesAt member inside).1
  unfold ConstructorParameter.ofText
  split
  · rename_i header after parsed
    have parts := infix_of_property parsed
    exact ⟨unbroken.of_subset parts.1.subset, unbroken.of_subset parts.2.subset⟩
  · split
    · exact ⟨List.not_mem_nil, nofun⟩
    · rename_i name parts cut
      rw [cut] at pieces
      exact List.forall_mem_cons.mp pieces

theorem unbrokenParameter_list {rest : Text} (unbroken : Unbroken rest) :
    ∀ parameter ∈ ConstructorParameter.list rest, UnbrokenParameter parameter := by
  intro parameter member
  obtain ⟨piece, cut, rfl⟩ := List.mem_map.mp member
  apply unbrokenParameter_ofText
  refine unbroken.trim.of_subset fun c inside => ?_
  exact List.drop_subset _ _ (List.dropLast_subset _ (mem_of_mem_piecesAt cut inside).1)

section

variable {parameter : ConstructorParameter} (unbroken : UnbrokenParameter parameter)
  {docstring : List Text} (documented : ∀ line ∈ docstring, Unbroken line)

include unbroken in
theorem unbroken_written : Unbroken parameter.written := by
  cases parameter with
  | property header raw => exact unbroken.1.append unbroken.2.trim
  | plain name parts =>
      refine unbroken.1.append ?_
      cases parts with
      | nil => exact List.not_mem_nil
      | cons part parts => exact unbroken.2 part List.mem_cons_self

omit parameter in
include documented in
theorem unbroken_description (parameter : ConstructorParameter) :
    ∀ line ∈ parameter.description docstring, Unbroken line := by
  cases parameter <;> exact unbroken_describe documented

include unbroken documented in
theorem unbroken_docLine : ∀ line ∈ parameter.docLine docstring, Unbroken line := by
  intro line member
  unfold ConstructorParameter.docLine at member
  dsimp only at member
  split at member
  · cases member
  · rw [List.mem_singleton.mp member]
    have tag : Unbroken "@param ".toList := by decide
    have space : Unbroken " ".toList := by decide
    refine Unbroken.append (Unbroken.append (tag.append ?_) space) ?_
    · cases parameter <;> exact unbroken.1
    · intro inside
      obtain ⟨part, described, here⟩ := List.mem_flatten.mp inside
      exact unbroken_description documented _ part described here

end

/-! ## Members -/

theorem unbroken_constructor : Unbroken "constructor".toList := by
  decide

structure UnbrokenMember (member : Member) : Prop where
  name : Unbroken member.name
  rest : ∀ rest ∈ member.rest, Unbroken rest
  docstring : ∀ line ∈ member.docstring, Unbroken line

section

variable {docstring : List Text} (documented : ∀ line ∈ docstring, Unbroken line)

include documented

theorem unbroken_primaryDocstring {parameters : List ConstructorParameter}
    (unbroken : ∀ parameter ∈ parameters, UnbrokenParameter parameter) :
    ∀ line ∈ Member.primaryDocstring docstring parameters, Unbroken line := by
  have lines : ∀ kept : ConstructorParameter → Bool,
      ∀ line ∈ (parameters.filter kept).flatMap (·.docLine docstring), Unbroken line := by
    intro kept line member
    obtain ⟨parameter, found, made⟩ := List.mem_flatMap.mp member
    exact unbroken_docLine (unbroken parameter (List.mem_of_mem_filter found)) documented line made
  have title : ∀ line ∈ ["Main constructor".toList, "".toList], Unbroken line := by decide
  intro line member
  rcases List.mem_append.mp member with front | properties
  · rcases List.mem_append.mp front with heading | plain
    · exact title line heading
    · exact lines _ line plain
  · exact lines _ line properties

theorem unbroken_ofPrimary {header : InitialHeader} (unbroken : Unbroken header.rest)
    (line : Int) (raw : Text) :
    ∀ member ∈ Member.ofPrimary header docstring line raw, UnbrokenMember member := by
  intro member found
  unfold Member.ofPrimary at found
  generalize listed : (if header.rest.isEmpty then [] else _) = parameters at found
  have parts : ∀ parameter ∈ parameters, UnbrokenParameter parameter := by
    rw [← listed]
    split
    · exact nofun
    · exact unbrokenParameter_list unbroken
  rcases List.mem_cons.mp found with rfl | property
  · refine ⟨unbroken_constructor, trimmed?_unbroken (Unbroken.trim ?_),
      unbroken_primaryDocstring documented parts⟩
    split
    · exact List.not_mem_nil
    · have opening : Unbroken "(".toList := by decide
      have closing : Unbroken ")".toList := by decide
      refine Unbroken.append (opening.append ?_) closing
      intro inside
      rcases mem_joined inside with between | ⟨text, written, here⟩
      · exact absurd between (by decide)
      · obtain ⟨parameter, member, rfl⟩ := List.mem_map.mp written
        exact unbroken_written (parts parameter member) here
  · obtain ⟨parameter, listed, made⟩ := List.mem_filterMap.mp property
    have own := parts parameter listed
    cases parameter with
    | property header raw =>
        cases made
        exact ⟨own.1, trimmed?_unbroken own.2.trim,
          unbroken_description documented (.property header raw)⟩
    | plain name parts => cases made

theorem unbroken_ofHeader {header : MemberHeader} (name : Unbroken header.name)
    (rest : Unbroken header.rest) (static : Bool) (line : Int) (raw : Text) :
    ∀ member ∈ Member.ofHeader static docstring line raw header, UnbrokenMember member := by
  intro member found
  rcases ofHeader_cases static docstring line raw header with
    made | ⟨-, made⟩ | ⟨-, made⟩ | ⟨-, own, rfl, made⟩ <;> rw [made] at found
  · rw [List.mem_singleton.mp found]
    exact ⟨name, trimmed?_unbroken rest.trim, documented⟩
  · rw [List.mem_singleton.mp found]
    have name : Unbroken "init".toList := by decide
    exact ⟨name, trimmed?_unbroken rest.trim, documented⟩
  · rw [List.mem_singleton.mp found]
    refine ⟨unbroken_constructor, trimmed?_unbroken (Unbroken.trim ?_), documented⟩
    unfold Member.throughParen
    split
    · exact rest.of_subset (List.take_subset _ _)
    · exact rest
  · exact unbroken_ofPrimary documented rest line raw member found

end

theorem unbroken_header {inEnum : Bool} {line : Text} (unbroken : Unbroken line)
    {header : MemberHeader} (member : header ∈ MemberHeader.ofLine inEnum line) :
    Unbroken header.name ∧ Unbroken header.rest := by
  unfold MemberHeader.ofLine at member
  split at member
  · obtain ⟨found, parsed, rfl⟩ := Option.map_eq_some_iff.mp (Option.mem_toList.mp member)
    exact ⟨unbroken.of_subset (infix_of_entry parsed).subset, List.not_mem_nil⟩
  · simp only [List.mem_append, Option.mem_toList, Option.map_eq_some_iff] at member
    rcases member with (⟨found, parsed, rfl⟩ | ⟨found, parsed, rfl⟩) | ⟨found, parsed, rfl⟩
    · have parts := infix_of_function parsed
      exact ⟨unbroken.of_subset parts.1.subset, unbroken.of_subset parts.2.subset⟩
    · exact ⟨List.not_mem_nil, unbroken.of_subset (infix_of_initial parsed).subset⟩
    · have parts := infix_of_property parsed
      exact ⟨unbroken.of_subset parts.1.subset, unbroken.of_subset parts.2.subset⟩

theorem unbroken_ofLine {inEnum : Bool} {nesting : Member.Nesting} {site : Site} {position : Int}
    {line : Text} (unbroken : Unbroken line) (higher : ∀ line ∈ site.above, Ended line) :
    ∀ member ∈ Member.ofLine inEnum nesting site position line, UnbrokenMember member := by
  intro member found
  obtain ⟨header, own, made⟩ := mem_ofLine found
  obtain ⟨name, rest⟩ := unbroken_header unbroken own
  exact unbroken_ofHeader (unbroken_docstringAt inEnum unbroken higher) name rest _ _ _ member made

theorem unbroken_of_mem_scan {inEnum : Bool} {nesting : Member.Nesting} {position : Int}
    {skip : Nat} {sites : List Site} (ended : ∀ site ∈ sites, EndedSite site) :
    ∀ member ∈ Member.scan inEnum nesting position skip sites, UnbrokenMember member := by
  intro member found
  obtain ⟨above, site, below, nesting, position, rfl, declared⟩ := mem_scan found
  obtain ⟨here, later⟩ := List.forall_mem_cons.mp (List.forall_mem_append.mp ended).2
  have joined : Unbroken (Lines.join site.line (below.map (·.line))).1 := by
    refine unbroken_joinOnto here.line _ ?_
    exact List.forall_mem_map.mpr fun site member => (later site member).line
  exact unbroken_ofLine joined here.above member declared

/-! ## Class headers -/

theorem unbroken_read {r : ClassHeader.Reading} (unbroken : Unbroken r.constructor) {c : Char}
    (other : c ≠ '\n') : Unbroken (r.read c).constructor := by
  have added : Unbroken (r.constructor ++ [c]) :=
    unbroken.append fun inside => other (List.mem_singleton.mp inside).symm
  unfold ClassHeader.Reading.read ClassHeader.Reading.addInner ClassHeader.Reading.addOuter
  dsimp only
  split_ifs <;> first | exact added | exact unbroken

theorem unbroken_readLine {r : ClassHeader.Reading} (unbroken : Unbroken r.constructor)
    {line : Text} (whole : Unbroken line) : Unbroken (r.readLine line).1.constructor := by
  unfold ClassHeader.Reading.readLine
  have part : Unbroken (line.takeWhile (· != '\x7b')) :=
    whole.of_subset (List.takeWhile_subset _)
  dsimp only
  generalize line.takeWhile (· != '\x7b') = s at part ⊢
  induction s generalizing r with
  | nil => exact unbroken
  | cons c s ih =>
      obtain ⟨other, rest⟩ := not_or.mp (mt List.mem_cons.mpr part)
      exact ih (unbroken_read unbroken (Ne.symm other)) rest

theorem unbroken_readLines {r : ClassHeader.Reading} (unbroken : Unbroken r.constructor)
    (seen number : Nat) {lines : List Text} (ended : ∀ line ∈ lines, Ended line) :
    Unbroken (ClassHeader.readLines r seen number lines).constructor := by
  induction lines generalizing r seen number with
  | nil => exact unbroken
  | cons line lines ih =>
      obtain ⟨here, later⟩ := List.forall_mem_cons.mp ended
      have read := unbroken_readLine unbroken here.trim
      rw [ClassHeader.readLines]
      generalize (if (r.depth == 0 && Source.startsDeclaration (Text.trim line)) = true then seen + 1
        else seen) = count
      split
      · exact unbroken
      · split
        · rename_i r' found
          rw [found] at read
          exact read
        · rename_i r' found
          rw [found] at read
          exact ih read _ _ later

/-! ## Declarations -/

theorem ended_markFrom {comments : Int} {ended : Bool} {lines : List Text}
    (each : ∀ line ∈ lines, Ended line) :
    ∀ line ∈ EnumBody.markFrom comments ended lines, Ended line := by
  induction lines generalizing comments ended with
  | nil => exact nofun
  | cons first lines ih =>
      obtain ⟨here, later⟩ := List.forall_mem_cons.mp each
      rw [EnumBody.markFrom]
      refine List.forall_mem_cons.mpr ⟨?_, ih later⟩
      split
      · exact here
      · have marking : Unbroken "case: ".toList := by decide
        exact marking.ended_append here

section

variable {docstring : List Text} (documented : ∀ line ∈ docstring, Unbroken line)

include documented

theorem ended_constructorLines {constructor : Text} (unbroken : Unbroken constructor) :
    ∀ line ∈ KotlinDoc.Declaration.constructorLines docstring constructor, Ended line := by
  have opening : Unbroken DocComment.opening := by decide
  have closing : Unbroken DocComment.closing := by decide
  have word : Unbroken InitialWord.primary.text := by decide
  intro line member
  rcases List.mem_cons.mp member with rfl | later
  · exact opening.ended
  · rcases List.mem_append.mp later with inner | last
    · exact (documented line inner).ended
    · rcases List.mem_cons.mp last with rfl | own
      · exact closing.ended
      · rw [List.mem_singleton.mp own]
        exact (word.append unbroken).ended

theorem unbroken_membersAt {kind : SymbolKind} {line : Nat} {site : Site} {below : List Site}
    (ended : ∀ other ∈ site :: below, EndedSite other) {members : List Member}
    (read : KotlinDoc.Declaration.membersAt kind docstring line site below = some members) :
    ∀ member ∈ members, UnbrokenMember member := by
  obtain ⟨here, later⟩ := List.forall_mem_cons.mp ended
  have lines : ∀ line ∈ below.map (·.line), Ended line :=
    List.forall_mem_map.mpr fun site member => (later site member).line
  have constructor : Unbroken
      (ClassHeader.ofLines (site.line :: below.map (·.line))).constructor :=
    unbroken_readLines (r := {}) List.not_mem_nil 0 0 (List.forall_mem_cons.mpr ⟨here.line, lines⟩)
  have withConstructor : ∀ rest : List Text, (∀ line ∈ rest, Ended line) →
      ∀ member ∈ Member.ofSites (kind == .enumClass) 0 (Site.list
        (KotlinDoc.Declaration.constructorLines docstring
          (ClassHeader.ofLines (site.line :: below.map (·.line))).constructor ++ rest)),
      UnbrokenMember member := by
    intro rest ended
    refine unbroken_of_mem_scan (endedSite_list fun line member => ?_)
    rcases List.mem_append.mp member with first | second
    · exact ended_constructorLines documented constructor line first
    · exact ended line second
  unfold KotlinDoc.Declaration.membersAt at read
  dsimp only at read
  split at read
  · split at read
    · cases read
      exact unbroken_of_mem_scan (endedSite_list (ended_markFrom lines))
    · split at read
      · cases read
        exact unbroken_of_mem_scan fun site member => later site (List.mem_of_mem_drop member)
      · cases read
        apply withConstructor
        exact List.forall_mem_map.mpr fun site member =>
          (later site (List.mem_of_mem_drop member)).line
  · split at read
    · cases read
    · cases read
      exact withConstructor [[]] (List.forall_mem_singleton.mpr List.not_mem_nil)

end

structure UnbrokenDeclaration (declaration : KotlinDoc.Declaration) : Prop where
  name : declaration.kind ≠ .function → Unbroken declaration.name
  type : ∀ type ∈ declaration.type, Unbroken type
  docstring : ∀ line ∈ declaration.docstring, Unbroken line
  members : ∀ members ∈ declaration.members, ∀ member ∈ members, UnbrokenMember member

theorem unbroken_declarationAt? {file : Text} {braces : Int} {line : Nat} {site : Site}
    {below : List Site} (ended : ∀ other ∈ site :: below, EndedSite other)
    {declaration : KotlinDoc.Declaration}
    (made : declarationAt? file braces line site below = some declaration) :
    UnbrokenDeclaration declaration := by
  have here := ended site List.mem_cons_self
  obtain ⟨header, read, rfl⟩ := Option.map_eq_some_iff.mp made
  obtain ⟨form, rest, parsed⟩ := parse?_of_header? read
  obtain ⟨named, typed⟩ := parts_of_symbol parsed
  have documented := unbroken_above here.above
  constructor
  · intro other
    have notFunction : (header.kind == .function) = false := beq_eq_false_iff_ne.mpr other
    unfold KotlinDoc.Declaration.ofHeader
    rw [notFunction]
    exact named.unbroken
  · intro type shown
    obtain ⟨written, own, trimmed⟩ := Option.bind_eq_some_iff.mp shown
    exact trimmed?_unbroken (here.line.trim_piece (typed written own)) type trimmed
  · exact documented
  · intro members has
    unfold KotlinDoc.Declaration.ofHeader at has
    dsimp only at has
    split at has
    · cases has
    · exact unbroken_membersAt documented ended has

theorem unbroken_index {file : Text} {s : Text} {declaration : KotlinDoc.Declaration}
    (member : declaration ∈ flat (Symbol.index file (Lines.ofText s))) :
    UnbrokenDeclaration declaration := by
  rw [flat_index] at member
  obtain ⟨number, site, below, braces, located, made⟩ := exists_site_of_mem_declared member
  refine unbroken_declarationAt? (fun other inside => ?_) made
  have sites := endedSite_list fun line (member : line ∈ Lines.ofText s) =>
    ended_of_mem_ofText member
  exact sites other (List.mem_of_mem_drop (located ▸ inside))

end KotlinDoc.Proofs
