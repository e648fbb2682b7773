import KotlinDoc.Index.Symbol

namespace KotlinDoc.Proofs

def headerMember (static : Bool) (docstring : List Text) (line : Int) (raw : Text)
    (header : MemberHeader) (name rest : Text) : Member where
  visibility := .ofScope header.scope
  line := line
  kind := header.kind static
  name := name
  docstring := docstring
  rest := trimmed? rest
  origin := .body (header.rawValue.bind trimmed?)
  raw := raw

theorem ofHeader_cases (static : Bool) (docstring : List Text) (line : Int) (raw : Text)
    (header : MemberHeader) :
    let one := headerMember static docstring line raw header
    let all := Member.ofHeader static docstring line raw header
    all = [one header.name header.rest] ∨
      header.kind static = .plain (.initial .init) ∧ all = [one "init" header.rest] ∨
      header.kind static = .plain (.initial .constructor) ∧
        all = [one "constructor" (Member.throughParen header.rest)] ∨
      header.kind static = .plain (.initial .primary) ∧
        ∃ own, header = .initial own ∧ all = Member.ofPrimary own docstring line raw := by
  unfold Member.ofHeader
  dsimp only
  split
  · rename_i kind
    exact .inr (.inl ⟨kind, rfl⟩)
  · rename_i kind
    exact .inr (.inr (.inl ⟨kind, rfl⟩))
  · rename_i own kind
    exact .inr (.inr (.inr ⟨kind, own, rfl, rfl⟩))
  · exact .inl rfl

theorem mem_ofHeader {static : Bool} {docstring : List Text} {line : Int} {raw : Text}
    {header : MemberHeader} {member : Member}
    (found : member ∈ Member.ofHeader static docstring line raw header) :
    (∃ name rest, member = headerMember static docstring line raw header name rest) ∨
      header.kind static = .plain (.initial .primary) ∧
        ∃ own, header = .initial own ∧ member ∈ Member.ofPrimary own docstring line raw := by
  rcases ofHeader_cases static docstring line raw header with
    made | ⟨-, made⟩ | ⟨-, made⟩ | ⟨kind, own, initial, made⟩
  · exact .inl ⟨_, _, List.mem_singleton.mp (made ▸ found)⟩
  · exact .inl ⟨_, _, List.mem_singleton.mp (made ▸ found)⟩
  · exact .inl ⟨_, _, List.mem_singleton.mp (made ▸ found)⟩
  · exact .inr ⟨kind, own, initial, made ▸ found⟩

theorem mem_ofPrimary {header : InitialHeader} {docstring : List Text} {line : Int} {raw : Text}
    {member : Member} (found : member ∈ Member.ofPrimary header docstring line raw) :
    (member.kind = .plain (.initial .constructor) ∧ member.origin = .body none) ∨
      ∃ own text, .property own text ∈ ConstructorParameter.list header.rest ∧
        (ConstructorParameter.property own text).member? docstring (line + 1) = some member := by
  rcases List.mem_cons.mp found with rfl | property
  · exact .inl ⟨rfl, rfl⟩
  · obtain ⟨parameter, listed, made⟩ := List.mem_filterMap.mp property
    split at listed
    · cases listed
    · cases parameter with
      | property own text => exact .inr ⟨own, text, listed, made⟩
      | plain name parts => cases made

theorem mem_ofLine {inEnum : Bool} {nesting : Member.Nesting} {site : Site} {position : Int}
    {line : Text} {member : Member}
    (found : member ∈ Member.ofLine inEnum nesting site position line) :
    ∃ header ∈ MemberHeader.ofLine inEnum line,
      member ∈ Member.ofHeader nesting.inCompanion (Member.docstringAt inEnum site line) position
        line header := by
  unfold Member.ofLine at found
  dsimp only at found
  split at found
  · cases found
  · exact List.mem_flatMap.mp found

theorem mem_scan {inEnum : Bool} {nesting : Member.Nesting} {position : Int} {skip : Nat}
    {sites : List Site} {member : Member}
    (found : member ∈ Member.scan inEnum nesting position skip sites) :
    ∃ above site below nesting position, sites = above ++ site :: below ∧
      member ∈ Member.ofLine inEnum nesting site position
        (Lines.join site.line (below.map (·.line))).1 := by
  induction sites generalizing nesting position skip with
  | nil =>
      rw [Member.scan] at found
      cases found
  | cons site sites ih =>
      have later {nesting : Member.Nesting} {position : Int} {skip : Nat}
          (found : member ∈ Member.scan inEnum nesting position skip sites) :
          ∃ above other below nesting position, site :: sites = above ++ other :: below ∧
            member ∈ Member.ofLine inEnum nesting other position
              (Lines.join other.line (below.map (·.line))).1 := by
        obtain ⟨above, other, below, nesting, position, rfl, declared⟩ := ih found
        exact ⟨site :: above, other, below, nesting, position, rfl, declared⟩
      cases skip with
      | succ skip =>
          rw [Member.scan] at found
          exact later found
      | zero =>
          rw [Member.scan] at found
          dsimp only at found
          split at found
          · cases found
          · rcases List.mem_append.mp found with here | below
            · split at here
              · cases here
              · exact ⟨[], site, sites, _, _, rfl, here⟩
            · exact later below

theorem exists_header_of_mem_index? {inEnum : Bool} {lines : List Text} {position : Int}
    {members : List Member} (read : Member.index? inEnum lines position = some members)
    {member : Member} (found : member ∈ members) :
    ∃ line, ∃ header ∈ MemberHeader.ofLine inEnum line, ∃ static docstring position raw,
      member ∈ Member.ofHeader static docstring position raw header := by
  obtain ⟨sites, -, rfl⟩ := Option.map_eq_some_iff.mp read
  obtain ⟨-, site, below, nesting, position, -, declared⟩ := mem_scan found
  obtain ⟨header, listed, made⟩ := mem_ofLine declared
  exact ⟨_, header, listed, _, _, _, _, made⟩

def Valued (member : Member) : Prop :=
  member.kind = .entry → ∃ value, member.origin = .body value

theorem valued_of_mem_index? {inEnum : Bool} {lines : List Text} {position : Int}
    {members : List Member} (read : Member.index? inEnum lines position = some members)
    {member : Member} (found : member ∈ members) : Valued member := by
  obtain ⟨line, header, -, static, docstring, position, raw, made⟩ :=
    exists_header_of_mem_index? read found
  rcases mem_ofHeader made with ⟨name, rest, rfl⟩ | ⟨-, own, -, primary⟩
  · exact fun _ => ⟨_, rfl⟩
  · rcases mem_ofPrimary primary with ⟨-, origin⟩ | ⟨own, text, -, property⟩
    · exact fun _ => ⟨none, origin⟩
    · cases property
      intro entry
      cases entry

theorem index?_natCast (inEnum : Bool) (lines : List Text) (position : Nat) :
    Member.index? inEnum lines position =
      some (Member.ofSites inEnum position ((Site.list lines).drop position)) := by
  unfold Member.index? Lines.scanFrom?
  rw [if_pos (Int.natCast_nonneg position), Int.toNat_natCast]
  rfl

theorem membersAt_eq_index? {lines : List Text} {kind : SymbolKind} {docstring : List Text}
    {line : Nat} {site : Site} {below : List Site} {members : List Member}
    (here : (Site.list lines).drop line = site :: below)
    (declared : KotlinDoc.Declaration.membersAt kind docstring line site below = some members) :
    ∃ body position, Member.index? (kind == .enumClass) body position = some members := by
  have fromStart : ∀ body, Member.index? (kind == .enumClass) body 0 =
      some (Member.ofSites (kind == .enumClass) 0 (Site.list body)) :=
    fun body => index?_natCast _ body 0
  have fromBelow : ∀ lastLine : Nat,
      Member.index? (kind == .enumClass) lines (line + lastLine + 1) =
        some (Member.ofSites (kind == .enumClass) (line + lastLine + 1) (below.drop lastLine)) := by
    intro lastLine
    have body := index?_natCast (kind == .enumClass) lines (line + (lastLine + 1))
    rw [← List.drop_drop, here, List.drop_succ_cons] at body
    push_cast at body
    rwa [← Int.add_assoc] at body
  unfold KotlinDoc.Declaration.membersAt at declared
  dsimp only at declared
  split at declared
  · split at declared
    · exact ⟨_, 0, (fromStart _).trans declared⟩
    · split at declared
      · exact ⟨lines, _, (fromBelow _).trans declared⟩
      · exact ⟨_, 0, (fromStart _).trans declared⟩
  · split at declared
    · cases declared
    · exact ⟨_, 0, (fromStart _).trans declared⟩

def DeclaredIn (lines : List Text) (declaration : KotlinDoc.Declaration) : Prop :=
  ∃ braces line site below header, (Site.list lines).drop line = site :: below ∧
    declaration = .ofHeader declaration.file braces line site below header

def OnDeclarations (P : KotlinDoc.Declaration → Prop) (symbols : List Symbol) : Prop :=
  ∀ symbol ∈ symbols, ∀ declaration ∈ symbol.declaration :: symbol.children, P declaration

section

variable {P : KotlinDoc.Declaration → Prop} {symbols : List Symbol}

theorem onDeclarations_cons_single {declaration : KotlinDoc.Declaration} (new : P declaration)
    (old : OnDeclarations P symbols) : OnDeclarations P (⟨declaration, []⟩ :: symbols) := by
  intro symbol member other inside
  rcases List.mem_cons.mp member with rfl | earlier
  · rw [List.mem_singleton.mp inside]
    exact new
  · exact old symbol earlier other inside

theorem onDeclarations_place {declaration : KotlinDoc.Declaration} (new : P declaration)
    (old : OnDeclarations P symbols) (braces : Int) :
    OnDeclarations P (Symbol.place braces declaration symbols) := by
  cases symbols with
  | nil => exact onDeclarations_cons_single new old
  | cons latest earlier =>
      rw [Symbol.place]
      split
      · intro symbol member other inside
        rcases List.mem_cons.mp member with rfl | before
        · rcases List.mem_cons.mp inside with own | child
          · exact old latest List.mem_cons_self other (own ▸ List.mem_cons_self)
          · rcases List.mem_append.mp child with known | last
            · exact old latest List.mem_cons_self other (List.mem_cons_of_mem _ known)
            · rw [List.mem_singleton.mp last]
              exact new
        · exact old symbol (List.mem_cons_of_mem _ before) other inside
      · exact onDeclarations_cons_single new old

theorem onDeclarations_add {declaration : KotlinDoc.Declaration} (new : P declaration)
    (old : OnDeclarations P symbols) (braces : Int) :
    OnDeclarations P (Symbol.add braces declaration symbols) := by
  unfold Symbol.add
  split
  · split
    · exact onDeclarations_cons_single new old
    · exact old
  · exact onDeclarations_place new old braces

theorem onDeclarations_foldl {declarations : List KotlinDoc.Declaration}
    (new : ∀ declaration ∈ declarations, P declaration) (old : OnDeclarations P symbols)
    (braces : Int) :
    OnDeclarations P (declarations.foldl
      (fun symbols declaration => Symbol.add braces declaration symbols) symbols) := by
  induction declarations generalizing symbols with
  | nil => exact old
  | cons declaration declarations ih =>
      exact ih (fun other member => new other (List.mem_cons_of_mem _ member))
        (onDeclarations_add (new declaration List.mem_cons_self) old braces)

theorem onDeclarations_scan {file : Text} {braces : Int} {line : Nat} {sites : List Site}
    (made : ∀ offset braces site below header, sites.drop offset = site :: below →
      P (.ofHeader file braces (line + offset) site below header))
    (old : OnDeclarations P symbols) :
    OnDeclarations P (Symbol.scan file symbols braces line sites) := by
  induction sites generalizing symbols braces line with
  | nil => exact old
  | cons site below ih =>
      unfold Symbol.scan
      apply ih
      · intro offset braces other rest header later
        rw [Nat.add_assoc, Nat.add_comm 1]
        exact made (offset + 1) braces other rest header later
      · refine onDeclarations_foldl ?_ old _
        intro declaration member
        obtain ⟨form, -, parsed⟩ := List.mem_filterMap.mp member
        obtain ⟨header, -, rfl⟩ := Option.map_eq_some_iff.mp parsed
        exact made 0 _ site below header.1 rfl

end

theorem declaredIn_of_mem_index {file : Text} {lines : List Text} {symbol : Symbol}
    (member : symbol ∈ Symbol.index file lines) :
    ∀ declaration ∈ symbol.declaration :: symbol.children, DeclaredIn lines declaration := by
  have all : OnDeclarations (DeclaredIn lines) (Symbol.scan file [] 0 0 (Site.list lines)) := by
    apply onDeclarations_scan
    · intro line braces site below header here
      exact ⟨braces, 0 + line, site, below, header, by rwa [Nat.zero_add], rfl⟩
    · exact fun _ impossible => absurd impossible List.not_mem_nil
  exact all symbol (List.mem_reverse.mp member)

theorem DeclaredIn.members_eq_index? {lines : List Text} {declaration : KotlinDoc.Declaration}
    (declared : DeclaredIn lines declaration) {members : List Member}
    (has : declaration.members = some members) :
    ∃ body position,
      Member.index? (declaration.kind == .enumClass) body position = some members := by
  obtain ⟨braces, line, site, below, header, here, made⟩ := declared
  rw [made] at has ⊢
  unfold KotlinDoc.Declaration.ofHeader at has ⊢
  dsimp only at has ⊢
  split at has
  · cases has
  · exact membersAt_eq_index? here has

def ValuedMembers (declaration : KotlinDoc.Declaration) : Prop :=
  ∀ members, declaration.members = some members → ∀ member ∈ members, Valued member

theorem DeclaredIn.valuedMembers {lines : List Text} {declaration : KotlinDoc.Declaration}
    (declared : DeclaredIn lines declaration) : ValuedMembers declaration := by
  intro members has member found
  obtain ⟨body, position, read⟩ := declared.members_eq_index? has
  exact valued_of_mem_index? read found

end KotlinDoc.Proofs
