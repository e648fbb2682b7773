import KotlinDoc.Proofs.Index.Forest
import KotlinDoc.Proofs.Source.PlainCode
import Mathlib.Data.List.Chain
import Mathlib.Data.List.Nodup

/-!
# Nesting in a file and in its index

The index takes the braces that are open after a line for those around its declaration, and it puts
a class below the latest symbol whatever that one's braces hold. So the index follows the nesting of
the file exactly if every function within braces leaves some of them open, and every class within
braces opens one more and lies in the body of the last declaration outside of braces
(`nesting_followed_iff`).
-/

namespace KotlinDoc.Proofs

/-! ## Files -/

/-- The lines of a file without literals and comments and with at most one brace on each line, in
which no brace is closed that is not open. -/
structure BracedFile where
  lines : List Text
  plain : ∀ line ∈ lines, PlainCode line
  single : ∀ line ∈ lines, line.count '{' + line.count '}' ≤ 1
  inside : ∀ number ≤ lines.length, 0 ≤ depthBefore lines number

def Declares (lines : List Text) (number : Nat) (header : SymbolHeader) : Prop :=
  ∃ line form rest, lines[number]? = some line ∧
    SymbolHeader.parse? form line = some (header, rest)

theorem declares_unique {lines : List Text} {number : Nat} {header header' : SymbolHeader}
    (declares : Declares lines number header) (too : Declares lines number header') :
    header = header' := by
  obtain ⟨line, form, rest, here, parsed⟩ := declares
  obtain ⟨line', form', rest', here', parsed'⟩ := too
  obtain rfl : line = line' := Option.some.inj (here.symm.trans here')
  exact Option.some.inj ((header?_of_parse? parsed).symm.trans (header?_of_parse? parsed'))

def Encloses (lines : List Text) (outer number : Nat) : Prop :=
  (ClassHeader.ofLines (lines.drop outer)).hasBody = true ∧
  let brace := outer + (ClassHeader.ofLines (lines.drop outer)).lastLine
  brace < number ∧
  ∀ between, brace < between → between ≤ number →
    depthBefore lines outer < depthBefore lines between

def TopLevel (symbols : List Symbol) (number : Nat) : Prop :=
  ∃ symbol ∈ symbols, symbol.declaration.line = number

def ChildOf (symbols : List Symbol) (outer number : Nat) : Prop :=
  ∃ symbol ∈ symbols, symbol.declaration.line = outer ∧
    ∃ child ∈ symbol.children, child.line = number

/-! ## Depths -/

def shownDepth (braces : Int) : Int :=
  if braces = 0 then 1 else braces

theorem shownDepth_pos {braces : Int} (nonneg : 0 ≤ braces) : 1 ≤ shownDepth braces := by
  unfold shownDepth
  split <;> omega

theorem depth_of_declarationAt? {file : Text} {braces : Int} {line : Nat} {site : Site}
    {below : List Site} {declaration : KotlinDoc.Declaration}
    (made : declarationAt? file braces line site below = some declaration) :
    declaration.depth = shownDepth braces ∧ declaration.raw = site.line ∧
      ∃ header, header? site.line = some header ∧ declaration.kind = header.kind := by
  obtain ⟨header, read, rfl⟩ := Option.map_eq_some_iff.mp made
  refine ⟨?_, rfl, header, read, rfl⟩
  unfold shownDepth KotlinDoc.Declaration.ofHeader
  simp only [beq_iff_eq]

theorem mem_declared_iff {file : Text} {line : Nat} {sites : List Site}
    (plain : ∀ site ∈ sites, PlainCode site.line) (braces : Int)
    (declaration : KotlinDoc.Declaration) :
    declaration ∈ declared file braces line sites ↔
      ∃ offset site below, sites.drop offset = site :: below ∧
        let open' := braces + depthBefore (sites.map (·.line)) (offset + 1)
        declarationAt? file open' (line + offset) site below = some declaration ∧
          listed open' declaration = true := by
  induction sites generalizing braces line with
  | nil =>
      refine iff_of_false List.not_mem_nil ?_
      rintro ⟨offset, site, below, here, -⟩
      simp at here
  | cons first rest ih =>
      obtain ⟨here, later⟩ := List.forall_mem_cons.mp plain
      rw [declared, List.mem_append, ih later, Option.mem_toList, Option.filter_eq_some_iff,
        here.braceExcess_eq]
      constructor
      · rintro (⟨made, shown⟩ | ⟨offset, site, below, there, made, shown⟩)
        · refine ⟨0, first, rest, rfl, ?_⟩
          rw [List.map_cons, depthBefore_cons, depthBefore_zero, Int.add_zero]
          exact ⟨made, shown⟩
        · refine ⟨offset + 1, site, below, there, ?_⟩
          rw [List.map_cons, depthBefore_cons, ← Int.add_assoc, ← Nat.add_assoc, Nat.add_right_comm]
          exact ⟨made, shown⟩
      · rintro ⟨offset, site, below, there, made, shown⟩
        rw [List.map_cons, depthBefore_cons] at made shown
        cases offset with
        | zero =>
            cases there
            rw [depthBefore_zero, Int.add_zero] at made shown
            exact .inl ⟨made, shown⟩
        | succ offset =>
            rw [← Int.add_assoc] at made shown
            rw [← Nat.add_assoc, Nat.add_right_comm] at made
            exact .inr ⟨offset, site, below, there, made, shown⟩

/-! ## The declarations of a file -/

namespace BracedFile

variable (file : BracedFile)

theorem isTopFunction_iff {number : Nat} {line : Text} (here : file.lines[number]? = some line) :
    Symbol.isTopFunction (depthBefore file.lines (number + 1)) line = true ↔
      depthBefore file.lines number = 0 ∨ depthBefore file.lines (number + 1) = 0 := by
  obtain ⟨bound, own⟩ := List.getElem?_eq_some_iff.mp here
  have single := file.single line (own ▸ List.getElem_mem bound)
  have next := depthBefore_succ here
  have before := file.inside number (Nat.le_of_lt bound)
  have after := file.inside (number + 1) bound
  have closing : line.contains '}' = false ↔ line.count '}' = 0 := by
    rw [List.count_eq_zero, ← List.contains_iff_mem, Bool.not_eq_true]
  have opening : line.contains '{' = true ↔ 0 < line.count '{' := by
    rw [List.count_pos_iff, List.contains_iff_mem]
  simp only [Symbol.isTopFunction, Bool.or_eq_true, Bool.and_eq_true, beq_iff_eq,
    Bool.not_eq_true', closing, opening]
  omega

variable (name : Text)

theorem sites_plain : ∀ site ∈ Site.list file.lines, PlainCode site.line := by
  intro site member
  apply file.plain
  rw [← line_listBelow [] file.lines]
  exact List.mem_map_of_mem member

theorem mem_flat_iff (declaration : KotlinDoc.Declaration) :
    declaration ∈ flat (Symbol.index name file.lines) ↔
      ∃ number site below, (Site.list file.lines).drop number = site :: below ∧
        declarationAt? name (depthBefore file.lines (number + 1)) number site below =
            some declaration ∧
          listed (depthBefore file.lines (number + 1)) declaration = true := by
  have lined : (Site.list file.lines).map (·.line) = file.lines := line_listBelow [] file.lines
  rw [flat_index, mem_declared_iff file.sites_plain, lined]
  simp only [Int.zero_add, Nat.zero_add]

theorem declares_of_mem_flat {declaration : KotlinDoc.Declaration}
    (member : declaration ∈ flat (Symbol.index name file.lines)) :
    ∃ header, Declares file.lines declaration.line header ∧ declaration.kind = header.kind ∧
      declaration.depth = shownDepth (depthBefore file.lines (declaration.line + 1)) ∧
      (declaration.kind = .function → depthBefore file.lines declaration.line = 0 ∨
        depthBefore file.lines (declaration.line + 1) = 0) := by
  obtain ⟨number, site, below, there, made, shown⟩ := (file.mem_flat_iff name declaration).mp member
  have here := getElem?_of_site there
  obtain ⟨depth, raw, header, read, kind⟩ := depth_of_declarationAt? made
  obtain ⟨form, rest, parsed⟩ := parse?_of_header? read
  obtain rfl := line_of_declarationAt? made
  refine ⟨header, ⟨site.line, form, rest, here, parsed⟩, kind, depth, fun function => ?_⟩
  unfold listed at shown
  rw [function, raw] at shown
  exact (file.isTopFunction_iff here).mp (by simpa using shown)

theorem mem_flat_of_declares {number : Nat} {header : SymbolHeader}
    (declares : Declares file.lines number header)
    (shown : header.kind = .function → depthBefore file.lines number = 0 ∨
      depthBefore file.lines (number + 1) = 0) :
    ∃ declaration ∈ flat (Symbol.index name file.lines), declaration.line = number ∧
      declaration.kind = header.kind := by
  obtain ⟨line, form, rest, here, parsed⟩ := declares
  obtain ⟨site, below, there, rfl⟩ := site_of_getElem? here
  have made : declarationAt? name (depthBefore file.lines (number + 1)) number site below =
      some (.ofHeader name (depthBefore file.lines (number + 1)) number site below header) := by
    rw [declarationAt?, header?_of_parse? parsed]
    rfl
  refine ⟨_, (file.mem_flat_iff name _).mpr ⟨number, site, below, there, made, ?_⟩, rfl, rfl⟩
  unfold listed
  rw [Bool.or_eq_true, bne_iff_ne]
  by_cases function : header.kind = .function
  · exact .inr ((file.isTopFunction_iff here).mpr (shown function))
  · exact .inl function

end BracedFile

/-! ## The order of symbols -/

section

variable {symbols : List Symbol} (increase : ((flat symbols).map (·.line)).Pairwise (· < ·))

theorem mem_flat_cases {declaration : KotlinDoc.Declaration} (member : declaration ∈ flat symbols) :
    (∃ symbol ∈ symbols, symbol.declaration = declaration) ∨
      ∃ symbol ∈ symbols, declaration ∈ symbol.children := by
  obtain ⟨symbol, own, here⟩ := List.mem_flatMap.mp member
  rcases List.mem_cons.mp here with rfl | child
  · exact .inl ⟨symbol, own, rfl⟩
  · exact .inr ⟨symbol, own, child⟩

theorem mem_flat_of_mem {symbol : Symbol} (member : symbol ∈ symbols) :
    symbol.declaration ∈ flat symbols :=
  List.mem_flatMap.mpr ⟨symbol, member, List.mem_cons_self⟩

theorem mem_flat_of_mem_children {symbol : Symbol} (member : symbol ∈ symbols)
    {child : KotlinDoc.Declaration} (own : child ∈ symbol.children) : child ∈ flat symbols :=
  List.mem_flatMap.mpr ⟨symbol, member, List.mem_cons_of_mem _ own⟩

include increase

theorem tops_increase :
    symbols.Pairwise fun first second => first.declaration.line < second.declaration.line := by
  unfold flat at increase
  rw [List.pairwise_map, List.pairwise_flatMap] at increase
  exact increase.2.imp fun before => before _ List.mem_cons_self _ List.mem_cons_self

omit increase in
theorem before_or_after {Before : Symbol → Symbol → Prop} (ordered : symbols.Pairwise Before)
    {first second : Symbol} (member : first ∈ symbols) (too : second ∈ symbols) :
    first = second ∨ Before first second ∨ Before second first :=
  List.Pairwise.forall_of_forall_of_flip (R := fun a b => a = b ∨ Before a b ∨ Before b a)
    (fun _ _ => .inl rfl) (ordered.imp fun before => .inr (.inl before))
    (ordered.imp fun before => .inr (.inr before)) member too

theorem line_of_childOf {outer number : Nat} (child : ChildOf symbols outer number) :
    outer < number ∧ ∀ other, TopLevel symbols other → other ≤ outer ∨ number < other := by
  unfold flat at increase
  rw [List.pairwise_map, List.pairwise_flatMap] at increase
  obtain ⟨own, apart⟩ := increase
  obtain ⟨symbol, member, rfl, declaration, among, rfl⟩ := child
  refine ⟨(List.pairwise_cons.mp (own symbol member)).1 declaration among, ?_⟩
  rintro other ⟨top, listed, rfl⟩
  rcases before_or_after apart member listed with rfl | before | after
  · exact .inl (Nat.le_refl _)
  · exact .inr (before declaration (List.mem_cons_of_mem _ among) _ List.mem_cons_self)
  · exact .inl (Nat.le_of_lt (after _ List.mem_cons_self _ List.mem_cons_self))

end

/-! ## The depth of symbols -/

structure Stepped (symbols : List Symbol) : Prop where
  positive : ∀ symbol ∈ symbols, 1 ≤ symbol.declaration.depth
  chain : (symbols.map (·.declaration)).IsChain fun later earlier =>
    later.kind ≠ .function → later.depth ≤ earlier.depth

theorem stepped_nil : Stepped [] :=
  ⟨nofun, .nil⟩

section

variable {symbols : List Symbol} (stepped : Stepped symbols) {braces : Int}
  {declaration : KotlinDoc.Declaration}

include stepped

theorem stepped_cons (positive : 1 ≤ declaration.depth)
    (next : ∀ latest ∈ symbols.head?, declaration.kind ≠ .function →
      declaration.depth ≤ latest.declaration.depth) : Stepped (⟨declaration, []⟩ :: symbols) := by
  refine ⟨List.forall_mem_cons.mpr ⟨positive, stepped.positive⟩, ?_⟩
  rw [List.map_cons, List.isChain_cons, List.head?_map]
  refine ⟨fun earlier first => ?_, stepped.chain⟩
  obtain ⟨latest, own, rfl⟩ := Option.map_eq_some_iff.mp first
  exact next latest own

theorem stepped_add (nonneg : 0 ≤ braces) (depth : declaration.depth = shownDepth braces) :
    Stepped (Symbol.add braces declaration symbols) := by
  have positive : 1 ≤ declaration.depth := depth ▸ shownDepth_pos nonneg
  unfold Symbol.add
  split
  · rename_i function
    split
    · exact stepped_cons stepped positive fun _ _ other => absurd (eq_of_beq function) other
    · exact stepped
  · cases symbols with
    | nil => exact stepped_cons stepped positive nofun
    | cons latest earlier =>
        rw [Symbol.place]
        split
        · -- The declarations of the symbols stay as they are.
          refine ⟨?_, stepped.chain⟩
          obtain ⟨own, others⟩ := List.forall_mem_cons.mp stepped.positive
          exact List.forall_mem_cons.mpr ⟨own, others⟩
        · rename_i shallow
          refine stepped_cons stepped positive fun other same _ => ?_
          cases same
          have own := stepped.positive latest List.mem_cons_self
          rw [depth, shownDepth]
          split <;> omega

theorem stepped_scan {file : Text} {line : Nat} {sites : List Site}
    (plain : ∀ site ∈ sites, PlainCode site.line)
    (inside : ∀ number ≤ sites.length, 0 ≤ braces + depthBefore (sites.map (·.line)) number) :
    Stepped (Symbol.scan file symbols braces line sites) := by
  induction sites generalizing symbols braces line with
  | nil => exact stepped
  | cons site below ih =>
      obtain ⟨here, later⟩ := List.forall_mem_cons.mp plain
      have next : ∀ number ≤ below.length, 0 ≤ braces + Source.braceExcess site.line +
          depthBefore (below.map (·.line)) number := by
        intro number bound
        have known := inside (number + 1) (Nat.succ_le_succ bound)
        rwa [List.map_cons, depthBefore_cons, ← here.braceExcess_eq, ← Int.add_assoc] at known
      rw [scan_cons]
      refine ih ?_ later next
      split
      · rename_i declaration made
        have open' := next 0 (Nat.zero_le _)
        rw [depthBefore_zero, Int.add_zero] at open'
        exact stepped_add stepped open' (depth_of_declarationAt? made).1
      · exact stepped

end

namespace BracedFile

variable (file : BracedFile) (name : Text)

theorem stepped : Stepped (Symbol.scan name [] 0 0 (Site.list file.lines)) := by
  have lined : (Site.list file.lines).map (·.line) = file.lines := line_listBelow [] file.lines
  refine stepped_scan stepped_nil file.sites_plain ?_
  rw [lined]
  intro number bound
  rw [Int.zero_add]
  exact file.inside number ((length_listBelow [] file.lines) ▸ bound)

theorem increase : ((flat (Symbol.index name file.lines)).map (·.line)).Pairwise (· < ·) := by
  rw [flat_index]
  exact lines_declared_increase name 0 0 _

theorem latest_of_mem {symbol : Symbol} (member : symbol ∈ Symbol.index name file.lines)
    (other : symbol.declaration.kind ≠ .function) :
    (∀ earlier, TopLevel (Symbol.index name file.lines) earlier →
      symbol.declaration.line ≤ earlier) ∨
    ∃ latest ∈ Symbol.index name file.lines, latest.declaration.line < symbol.declaration.line ∧
      symbol.declaration.depth ≤ latest.declaration.depth := by
  have chain := (file.stepped name).chain
  have lines := tops_increase (file.increase name)
  unfold Symbol.index TopLevel at *
  rw [List.pairwise_reverse] at lines
  simp only [List.mem_reverse] at member ⊢
  obtain ⟨later, earlier, cut⟩ := List.append_of_mem member
  rw [cut] at chain lines ⊢
  have below := (List.pairwise_append.mp lines).2.2
  cases earlier with
  | nil =>
      refine .inl ?_
      rintro number ⟨top, found, rfl⟩
      rcases List.mem_append.mp found with after | own
      · exact Nat.le_of_lt (below top after symbol List.mem_cons_self)
      · rw [List.mem_singleton.mp own]
  | cons latest rest =>
      refine .inr ⟨latest, by simp, ?_, ?_⟩
      · have tail := (List.pairwise_append.mp lines).2.1
        exact (List.pairwise_cons.mp tail).1 latest List.mem_cons_self
      · rw [List.map_append, List.isChain_append] at chain
        exact (List.isChain_cons_cons.mp chain.2.1).1 other

/-! ## Where declarations go -/

theorem topLevel_or_childOf {number : Nat} {header : SymbolHeader}
    (declares : Declares file.lines number header) (other : header.kind ≠ .function) :
    TopLevel (Symbol.index name file.lines) number ∨
      ∃ outer, ChildOf (Symbol.index name file.lines) outer number := by
  obtain ⟨declaration, member, rfl, -⟩ :=
    file.mem_flat_of_declares name declares fun function => absurd function other
  rcases mem_flat_cases member with ⟨symbol, own, rfl⟩ | ⟨symbol, own, child⟩
  · exact .inl ⟨symbol, own, rfl⟩
  · exact .inr ⟨_, symbol, own, rfl, declaration, child, rfl⟩

theorem declares_of_childOf {outer number : Nat}
    (child : ChildOf (Symbol.index name file.lines) outer number) :
    ∃ header, Declares file.lines number header ∧ header.kind ≠ .function ∧
      2 ≤ depthBefore file.lines (number + 1) := by
  obtain ⟨symbol, member, rfl, declaration, own, rfl⟩ := child
  obtain ⟨other, deeper⟩ := deeper_index name _ symbol member declaration own
  obtain ⟨header, declares, kind, depth, -⟩ :=
    file.declares_of_mem_flat name (mem_flat_of_mem_children member own)
  refine ⟨header, declares, kind ▸ other, ?_⟩
  have positive := (file.stepped name).positive symbol (List.mem_reverse.mp member)
  rw [depth, shownDepth] at deeper
  split at deeper <;> omega

theorem not_childOf_function {outer number : Nat} {header : SymbolHeader}
    (declares : Declares file.lines number header) (function : header.kind = .function) :
    ¬ ChildOf (Symbol.index name file.lines) outer number := by
  intro child
  obtain ⟨header', declares', other, -⟩ := file.declares_of_childOf name child
  exact other (declares_unique declares declares' ▸ function)

theorem topLevel_of_outside {number : Nat} {header : SymbolHeader}
    (declares : Declares file.lines number header) (outside : depthBefore file.lines number = 0) :
    TopLevel (Symbol.index name file.lines) number := by
  obtain ⟨declaration, member, rfl, kind⟩ :=
    file.mem_flat_of_declares name declares fun _ => .inl outside
  rcases mem_flat_cases member with ⟨symbol, own, rfl⟩ | ⟨symbol, own, child⟩
  · exact ⟨symbol, own, rfl⟩
  · -- One line opens at most one brace.
    obtain ⟨header', -, -, deep⟩ := file.declares_of_childOf name
      ⟨symbol, own, rfl, declaration, child, rfl⟩
    obtain ⟨line, form, rest, here, -⟩ := declares
    have single := file.single line (List.mem_of_getElem? here)
    have next := depthBefore_succ here
    omega

theorem topLevel_function_iff {number : Nat} {header : SymbolHeader}
    (declares : Declares file.lines number header) (function : header.kind = .function) :
    TopLevel (Symbol.index name file.lines) number ↔
      depthBefore file.lines number = 0 ∨ depthBefore file.lines (number + 1) = 0 := by
  constructor
  · rintro ⟨symbol, own, rfl⟩
    obtain ⟨header', declares', kind, -, shown⟩ :=
      file.declares_of_mem_flat name (mem_flat_of_mem own)
    exact shown (kind.trans (declares_unique declares' declares ▸ function))
  · intro shown
    obtain ⟨declaration, member, rfl, kind⟩ :=
      file.mem_flat_of_declares name declares fun _ => shown
    rcases mem_flat_cases member with ⟨symbol, own, rfl⟩ | ⟨symbol, own, child⟩
    · exact ⟨symbol, own, rfl⟩
    · have other := (deeper_index name _ symbol own declaration child).1
      exact absurd (kind.trans function) other

end BracedFile

/-! ## Nesting -/

/-- The symbols are the declarations outside of braces. Classes and the like within braces are
children of the symbol in whose body they lie, and functions there are left out. -/
structure FollowsNesting (lines : List Text) (symbols : List Symbol) : Prop where
  top : ∀ number header, Declares lines number header →
    (TopLevel symbols number ↔ depthBefore lines number = 0)
  child : ∀ number header, Declares lines number header → header.kind ≠ .function →
    1 ≤ depthBefore lines number →
    ∃ outer, Encloses lines outer number ∧ ChildOf symbols outer number
  function : ∀ number header, Declares lines number header → header.kind = .function →
    1 ≤ depthBefore lines number →
    ¬ TopLevel symbols number ∧ ∀ outer, ¬ ChildOf symbols outer number

structure LastOutside (lines : List Text) (outer number : Nat) : Prop where
  above : outer < number
  declares : ∃ header, Declares lines outer header
  outside : depthBefore lines outer = 0
  last : ∀ between header, outer < between → between < number → Declares lines between header →
    depthBefore lines between ≠ 0

/-- Functions within braces leave some open; classes and the like within braces open one more, in
the body of the last declaration outside of braces. -/
def KeepsNesting (lines : List Text) : Prop :=
  ∀ number header, Declares lines number header → 1 ≤ depthBefore lines number →
    (header.kind = .function → depthBefore lines (number + 1) ≠ 0) ∧
    (header.kind ≠ .function → 2 ≤ depthBefore lines (number + 1) ∧
      ∃ outer, LastOutside lines outer number ∧ Encloses lines outer number)

namespace BracedFile

variable (file : BracedFile) (name : Text)

theorem declares_of_topLevel {number : Nat}
    (top : TopLevel (Symbol.index name file.lines) number) :
    ∃ header, Declares file.lines number header ∧ 0 ≤ depthBefore file.lines number ∧
      0 ≤ depthBefore file.lines (number + 1) := by
  obtain ⟨symbol, own, rfl⟩ := top
  obtain ⟨header, declares, -⟩ := file.declares_of_mem_flat name (mem_flat_of_mem own)
  obtain ⟨line, form, rest, here, -⟩ := id declares
  have bound := (List.getElem?_eq_some_iff.mp here).1
  exact ⟨header, declares, file.inside _ (Nat.le_of_lt bound), file.inside _ bound⟩

theorem keepsNesting_of_follows
    (follows : FollowsNesting file.lines (Symbol.index name file.lines)) :
    KeepsNesting file.lines := by
  intro number header declares within
  have notTop : ¬ TopLevel (Symbol.index name file.lines) number := fun top => by
    have := (follows.top number header declares).mp top
    omega
  refine ⟨fun function closed => ?_, fun other => ?_⟩
  · exact notTop ((file.topLevel_function_iff name declares function).mpr (.inr closed))
  · obtain ⟨outer, encloses, child⟩ := follows.child number header declares other within
    obtain ⟨-, -, -, deep⟩ := file.declares_of_childOf name child
    obtain ⟨above, between⟩ := line_of_childOf (file.increase name) child
    have top : TopLevel (Symbol.index name file.lines) outer := by
      obtain ⟨symbol, own, line, -⟩ := child
      exact ⟨symbol, own, line⟩
    obtain ⟨outerHeader, outerDeclares, -⟩ := file.declares_of_topLevel name top
    refine ⟨deep, outer, ⟨above, ⟨_, outerDeclares⟩, ?_, ?_⟩, encloses⟩
    · exact (follows.top outer outerHeader outerDeclares).mp top
    · intro other header after before declared outside
      have := between other (file.topLevel_of_outside name declared outside)
      omega

theorem outside_of_topLevel (keeps : KeepsNesting file.lines) {number : Nat}
    (top : TopLevel (Symbol.index name file.lines) number) : depthBefore file.lines number = 0 := by
  -- The symbol before this one is outside of braces, so its depth is one.
  induction number using Nat.strong_induction_on with
  | _ number ih =>
      obtain ⟨header, declares, nonneg, -⟩ := file.declares_of_topLevel name top
      by_contra within
      obtain ⟨functions, classes⟩ := keeps number header declares (by omega)
      by_cases function : header.kind = .function
      · rcases (file.topLevel_function_iff name declares function).mp top with outside | closed
        · exact within outside
        · exact functions function closed
      · obtain ⟨deep, outer, last, -⟩ := classes function
        obtain ⟨outerHeader, outerDeclares⟩ := last.declares
        obtain ⟨symbol, own, rfl⟩ := top
        obtain ⟨header', declares', kind, depth, -⟩ :=
          file.declares_of_mem_flat name (mem_flat_of_mem own)
        have other : symbol.declaration.kind ≠ .function :=
          kind ▸ declares_unique declares declares' ▸ function
        rcases file.latest_of_mem name own other with first | ⟨latest, found, before, shallow⟩
        · have := first outer (file.topLevel_of_outside name outerDeclares last.outside)
          have := last.above
          omega
        · obtain ⟨latestHeader, ⟨line, form, rest, here, -⟩, -, latestDepth, -⟩ :=
            file.declares_of_mem_flat name (mem_flat_of_mem found)
          have outside := ih _ before ⟨latest, found, rfl⟩
          have single := file.single line (List.mem_of_getElem? here)
          have next := depthBefore_succ here
          rw [depth, latestDepth, shownDepth, shownDepth] at shallow
          split at shallow <;> split at shallow <;> omega

theorem follows_of_keepsNesting (keeps : KeepsNesting file.lines) :
    FollowsNesting file.lines (Symbol.index name file.lines) where
  top number header declares :=
    ⟨file.outside_of_topLevel name keeps, file.topLevel_of_outside name declares⟩
  child number header declares other within := by
    obtain ⟨-, outer, last, encloses⟩ := (keeps number header declares within).2 other
    obtain ⟨outerHeader, outerDeclares⟩ := last.declares
    have top := file.topLevel_of_outside name outerDeclares last.outside
    rcases file.topLevel_or_childOf name declares other with own | ⟨parent, child⟩
    · have := file.outside_of_topLevel name keeps own
      omega
    · obtain ⟨above, between⟩ := line_of_childOf (file.increase name) child
      have parentTop : TopLevel (Symbol.index name file.lines) parent := by
        obtain ⟨symbol, own, line, -⟩ := child
        exact ⟨symbol, own, line⟩
      obtain ⟨parentHeader, parentDeclares, -⟩ := file.declares_of_topLevel name parentTop
      have outside := file.outside_of_topLevel name keeps parentTop
      have notAfter : ¬ outer < parent := fun after =>
        last.last parent parentHeader after above parentDeclares outside
      have notBefore := between outer top
      have := last.above
      obtain rfl : outer = parent := by omega
      exact ⟨outer, encloses, child⟩
  function number header declares function within := by
    refine ⟨fun top => ?_, fun outer => file.not_childOf_function name declares function⟩
    have := file.outside_of_topLevel name keeps top
    omega

end BracedFile

/-- Declarations outside of braces are symbols and functions are no children, in any case. -/
theorem nesting_followed_iff (file : BracedFile) (name : Text) :
    (∀ number header, Declares file.lines number header → depthBefore file.lines number = 0 →
      TopLevel (Symbol.index name file.lines) number) ∧
    (∀ outer number header, Declares file.lines number header → header.kind = .function →
      ¬ ChildOf (Symbol.index name file.lines) outer number) ∧
    (FollowsNesting file.lines (Symbol.index name file.lines) ↔ KeepsNesting file.lines) := by
  refine ⟨fun _ _ => file.topLevel_of_outside name, fun _ _ _ => file.not_childOf_function name, ?_⟩
  exact ⟨file.keepsNesting_of_follows name, file.follows_of_keepsNesting name⟩

/-- A class within a class becomes its child with a body, and a symbol of its own without one. -/
theorem nesting_followed_iff_inner :
    (∃ file : BracedFile, file.lines =
        ["class A \x7b\n".toList, "class B \x7b\n".toList, "\x7d\n".toList, "\x7d\n".toList] ∧
      TopLevel (Symbol.index "A.kt" file.lines) 0 ∧
      FollowsNesting file.lines (Symbol.index "A.kt" file.lines)) ∧
    ∃ file : BracedFile, file.lines =
        ["class A \x7b\n".toList, "class B\n".toList, "\x7d\n".toList] ∧
      ¬ FollowsNesting file.lines (Symbol.index "A.kt" file.lines) := by
  constructor
  · let file : BracedFile := ⟨["class A \x7b\n".toList, "class B \x7b\n".toList, "\x7d\n".toList,
      "\x7d\n".toList], by decide, by decide, by decide⟩
    obtain ⟨outside, -, follows⟩ := nesting_followed_iff file "A.kt"
    have first : ∃ header, Declares file.lines 0 header := ⟨_, _, .plainClass, _, rfl, rfl⟩
    refine ⟨file, rfl, ?_, follows.mpr ?_⟩
    · obtain ⟨header, declares⟩ := first
      exact outside 0 header declares (by decide)
    · rintro number header ⟨line, form, rest, here, parsed⟩ within
      have read := header?_of_parse? parsed
      obtain ⟨bound, own⟩ := List.getElem?_eq_some_iff.mp here
      have few : number < 4 := bound
      have closing : header? "\x7d\n".toList = none := by decide
      rcases (by omega : number = 0 ∨ number = 1 ∨ number = 2 ∨ number = 3) with
        rfl | rfl | rfl | rfl
      · exact absurd within (by decide)
      · refine ⟨fun _ => by decide, fun _ => ⟨by decide, 0, ⟨by decide, first, rfl, ?_⟩, ?_⟩⟩
        · intro between _ after before
          omega
        · refine ⟨by decide, by decide, fun between after before => ?_⟩
          have only : between = 1 := Nat.le_antisymm before (Nat.lt_of_le_of_lt (Nat.zero_le _) after)
          rw [only]
          decide
      · rw [← own] at read
        exact absurd (closing.symm.trans read) nofun
      · rw [← own] at read
        exact absurd (closing.symm.trans read) nofun
  · let file : BracedFile := ⟨["class A \x7b\n".toList, "class B\n".toList, "\x7d\n".toList],
      by decide, by decide, by decide⟩
    have second : ∃ header, Declares file.lines 1 header ∧ header.kind ≠ .function :=
      ⟨_, ⟨_, .plainClass, _, rfl, rfl⟩, by decide⟩
    refine ⟨file, rfl, fun nested => ?_⟩
    obtain ⟨header, declares, other⟩ := second
    have keeps := (nesting_followed_iff file "A.kt").2.2.mp nested
    have deep := ((keeps 1 header declares (by decide)).2 other).1
    exact absurd deep (by decide)

end KotlinDoc.Proofs
