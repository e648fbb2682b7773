import KotlinDoc.Page.Entry
import KotlinDoc.Proofs.Source.LogicalLine
import KotlinDoc.Proofs.Source.SymbolForms

namespace KotlinDoc.Proofs

def flat (symbols : List Symbol) : List KotlinDoc.Declaration :=
  symbols.flatMap fun symbol => symbol.declaration :: symbol.children

def listed (braces : Int) (declaration : KotlinDoc.Declaration) : Bool :=
  declaration.kind != .function || Symbol.isTopFunction braces declaration.raw

theorem flat_place (braces : Int) (declaration : KotlinDoc.Declaration) (symbols : List Symbol) :
    flat (Symbol.place braces declaration symbols).reverse = flat symbols.reverse ++ [declaration] := by
  cases symbols with
  | nil => rfl
  | cons latest earlier =>
      rw [Symbol.place]
      split <;> simp [flat]

theorem flat_add (braces : Int) (declaration : KotlinDoc.Declaration) (symbols : List Symbol) :
    flat (Symbol.add braces declaration symbols).reverse =
      flat symbols.reverse ++ if listed braces declaration then [declaration] else [] := by
  unfold Symbol.add listed
  cases function : declaration.kind == .function with
  | true =>
      cases top : Symbol.isTopFunction braces declaration.raw <;>
        simp_all [flat]
  | false => simp_all [flat_place]

def declarationAt? (file : Text) (braces : Int) (line : Nat) (site : Site) (below : List Site) :
    Option KotlinDoc.Declaration :=
  (header? site.line).map (KotlinDoc.Declaration.ofHeader file braces line site below)

theorem declarationsAt_eq (file : Text) (braces : Int) (line : Nat) (site : Site)
    (below : List Site) :
    Symbol.declarationsAt file braces line site below =
      (declarationAt? file braces line site below).toList := by
  have made := congrArg (List.map (KotlinDoc.Declaration.ofHeader file braces line site below))
    (headers_eq_header? site.line)
  simp only [List.map_filterMap, Option.map_map, Function.comp_def] at made
  unfold Symbol.declarationsAt declarationAt?
  rw [made]
  cases header? site.line <;> rfl

theorem scan_cons (file : Text) (symbols : List Symbol) (braces : Int) (line : Nat) (site : Site)
    (below : List Site) :
    Symbol.scan file symbols braces line (site :: below) =
      let braces := braces + Source.braceExcess site.line
      Symbol.scan file (match declarationAt? file braces line site below with
        | some declaration => Symbol.add braces declaration symbols
        | none => symbols) braces (line + 1) below := by
  conv_lhs => unfold Symbol.scan
  dsimp only
  rw [declarationsAt_eq]
  cases declarationAt? file (braces + Source.braceExcess site.line) line site below <;> rfl

/-- The declarations of sites, in order, of which functions only if no brace is open around them. -/
def declared (file : Text) (braces : Int) (line : Nat) : List Site → List KotlinDoc.Declaration
  | [] => []
  | site :: below =>
      let braces := braces + Source.braceExcess site.line
      ((declarationAt? file braces line site below).filter (listed braces)).toList ++
        declared file braces (line + 1) below

theorem flat_scan (file : Text) (symbols : List Symbol) (braces : Int) (line : Nat)
    (sites : List Site) :
    flat (Symbol.scan file symbols braces line sites).reverse =
      flat symbols.reverse ++ declared file braces line sites := by
  induction sites generalizing symbols braces line with
  | nil => exact (List.append_nil _).symm
  | cons site below ih =>
      rw [scan_cons, declared]
      dsimp only
      rw [ih]
      cases declarationAt? file (braces + Source.braceExcess site.line) line site below with
      | none => rfl
      | some declaration =>
          rw [flat_add, List.append_assoc, Option.filter_some]
          split <;> rfl

theorem flat_index (file : Text) (lines : List Text) :
    flat (Symbol.index file lines) = declared file 0 0 (Site.list lines) :=
  flat_scan file [] 0 0 (Site.list lines)

theorem exists_site_of_mem_declared {file : Text} {braces : Int} {line : Nat} {sites : List Site}
    {declaration : KotlinDoc.Declaration}
    (member : declaration ∈ declared file braces line sites) :
    ∃ offset site below braces, sites.drop offset = site :: below ∧
      declarationAt? file braces (line + offset) site below = some declaration := by
  induction sites generalizing braces line with
  | nil => cases member
  | cons site below ih =>
      rcases List.mem_append.mp member with here | later
      · have made := (Option.filter_eq_some_iff.mp (Option.mem_toList.mp here)).1
        exact ⟨0, site, below, _, rfl, made⟩
      · obtain ⟨offset, other, rest, braces, there, made⟩ := ih later
        refine ⟨offset + 1, other, rest, braces, there, ?_⟩
        rwa [← Nat.add_assoc, Nat.add_right_comm]

theorem line_of_declarationAt? {file : Text} {braces : Int} {line : Nat} {site : Site}
    {below : List Site} {declaration : KotlinDoc.Declaration}
    (made : declarationAt? file braces line site below = some declaration) :
    declaration.line = line := by
  obtain ⟨header, -, rfl⟩ := Option.map_eq_some_iff.mp made
  rfl

theorem line_le_of_mem_declared {file : Text} {braces : Int} {line : Nat} {sites : List Site}
    {declaration : KotlinDoc.Declaration}
    (member : declaration ∈ declared file braces line sites) : line ≤ declaration.line := by
  obtain ⟨offset, site, below, braces, -, made⟩ := exists_site_of_mem_declared member
  rw [line_of_declarationAt? made]
  exact Nat.le_add_right line offset

theorem line_of_mem_filter {file : Text} {braces : Int} {line : Nat} {site : Site}
    {below : List Site} {declaration : KotlinDoc.Declaration}
    (member : declaration ∈
      ((declarationAt? file braces line site below).filter (listed braces)).toList) :
    declaration.line = line :=
  line_of_declarationAt? (Option.filter_eq_some_iff.mp (Option.mem_toList.mp member)).1

theorem lines_declared_increase (file : Text) (braces : Int) (line : Nat) (sites : List Site) :
    ((declared file braces line sites).map (·.line)).Pairwise (· < ·) := by
  induction sites generalizing braces line with
  | nil => exact .nil
  | cons site below ih =>
      rw [declared, List.map_append, List.pairwise_append]
      refine ⟨?_, ih _ _, ?_⟩
      · cases Option.filter _ _ <;> simp
      · intro first here later there
        obtain ⟨declaration, member, rfl⟩ := List.mem_map.mp here
        obtain ⟨other, after, rfl⟩ := List.mem_map.mp there
        rw [line_of_mem_filter member]
        exact line_le_of_mem_declared after

theorem filter_declared {file : Text} {sites : List Site} {offset : Nat} {site : Site}
    {below : List Site} (here : sites.drop offset = site :: below) (braces : Int) (line : Nat) :
    ∃ braces', (declared file braces line sites).filter (·.line == line + offset) =
      ((declarationAt? file braces' (line + offset) site below).filter (listed braces')).toList := by
  induction sites generalizing braces line offset with
  | nil => simp at here
  | cons first rest ih =>
      rw [declared, List.filter_append]
      cases offset with
      | zero =>
          cases here
          have own : ∀ declaration ∈ ((declarationAt? file (braces + Source.braceExcess site.line) line
              site below).filter (listed (braces + Source.braceExcess site.line))).toList,
              (declaration.line == line) = true := by
            intro declaration member
            simp [line_of_mem_filter member]
          have later : ∀ declaration ∈ declared file (braces + Source.braceExcess site.line) (line + 1)
              below, ¬ (declaration.line == line) = true := by
            intro declaration member
            have := line_le_of_mem_declared member
            simp
            omega
          refine ⟨braces + Source.braceExcess site.line, ?_⟩
          rw [Nat.add_zero, List.filter_eq_self.mpr own, List.filter_eq_nil_iff.mpr later,
            List.append_nil]
      | succ offset =>
          obtain ⟨braces', found⟩ := ih here (braces + Source.braceExcess first.line) (line + 1)
          rw [Nat.add_right_comm, Nat.add_assoc] at found
          refine ⟨braces', ?_⟩
          rw [found, List.filter_eq_nil_iff.mpr, List.nil_append]
          intro declaration member
          simp [line_of_mem_filter member]

def Deeper (symbol : Symbol) : Prop :=
  ∀ child ∈ symbol.children, child.kind ≠ .function ∧ symbol.declaration.depth < child.depth

theorem deeper_single (declaration : KotlinDoc.Declaration) : Deeper ⟨declaration, []⟩ :=
  fun _ member => absurd member List.not_mem_nil

section

variable {symbols : List Symbol} (old : ∀ symbol ∈ symbols, Deeper symbol) {braces : Int}
  {declaration : KotlinDoc.Declaration}

include old

theorem deeper_place (other : declaration.kind ≠ .function)
    (depth : ∀ outer < braces, outer < declaration.depth) :
    ∀ symbol ∈ Symbol.place braces declaration symbols, Deeper symbol := by
  cases symbols with
  | nil => exact List.forall_mem_singleton.mpr (deeper_single declaration)
  | cons latest earlier =>
      obtain ⟨own, others⟩ := List.forall_mem_cons.mp old
      rw [Symbol.place]
      split
      · rename_i inside
        refine List.forall_mem_cons.mpr ⟨?_, others⟩
        intro child member
        rcases List.mem_append.mp member with known | last
        · exact own child known
        · rw [List.mem_singleton.mp last]
          exact ⟨other, depth _ inside⟩
      · exact List.forall_mem_cons.mpr ⟨deeper_single declaration, old⟩

theorem deeper_add (depth : ∀ outer < braces, outer < declaration.depth) :
    ∀ symbol ∈ Symbol.add braces declaration symbols, Deeper symbol := by
  unfold Symbol.add
  split
  · split
    · exact List.forall_mem_cons.mpr ⟨deeper_single declaration, old⟩
    · exact old
  · rename_i other
    exact deeper_place old (by simpa using other) depth

theorem deeper_scan (file : Text) (line : Nat) (sites : List Site) :
    ∀ symbol ∈ Symbol.scan file symbols braces line sites, Deeper symbol := by
  induction sites generalizing symbols braces line with
  | nil => exact old
  | cons site below ih =>
      rw [scan_cons]
      apply ih
      split
      · rename_i declaration made
        obtain ⟨header, -, rfl⟩ := Option.map_eq_some_iff.mp made
        apply deeper_add old
        -- The depth is that of the braces, or one if no brace is open.
        intro outer inside
        show outer < if braces + Source.braceExcess site.line == 0 then 1 else _
        split
        · rename_i closed
          have := eq_of_beq closed
          omega
        · exact inside
      · exact old

end

theorem deeper_index (file : Text) (lines : List Text) :
    ∀ symbol ∈ Symbol.index file lines, Deeper symbol := by
  intro symbol member
  exact deeper_scan (fun _ none => absurd none List.not_mem_nil) file 0 _ symbol
    (List.mem_reverse.mp member)

theorem site_of_getElem? {lines : List Text} {number : Nat} {line : Text}
    (here : lines[number]? = some line) :
    ∃ site below, (Site.list lines).drop number = site :: below ∧ site.line = line := by
  have lined := line_listBelow [] lines
  have located : ((Site.list lines)[number]?).map (·.line) = some line := by
    rw [← List.getElem?_map]
    exact (congrArg (·[number]?) lined).trans here
  obtain ⟨site, found, rfl⟩ := Option.map_eq_some_iff.mp located
  obtain ⟨bound, rfl⟩ := List.getElem?_eq_some_iff.mp found
  exact ⟨_, _, List.drop_eq_getElem_cons bound, rfl⟩

theorem getElem?_of_site {lines : List Text} {number : Nat} {site : Site} {below : List Site}
    (here : (Site.list lines).drop number = site :: below) : lines[number]? = some site.line := by
  have lined := line_listBelow [] lines
  have found : (Site.list lines)[number]? = some site := by
    rw [← List.head?_drop, here]
    rfl
  rw [← lined, List.getElem?_map]
  exact congrArg (Option.map (·.line)) found

theorem filter_index {lines : List Text} {number : Nat} {site : Site} {below : List Site}
    (file : Text) (here : (Site.list lines).drop number = site :: below) {form : SymbolForm}
    {header : SymbolHeader} {rest : Text} (other : form ≠ .function)
    (parsed : SymbolHeader.parse? form site.line = some (header, rest)) :
    ∃ braces, (flat (Symbol.index file lines)).filter (·.line == number) =
      [.ofHeader file braces number site below header] := by
  obtain ⟨braces, found⟩ := filter_declared here 0 0
  have kind : header.kind ≠ .function := fun function => other ((kind_of_parse? parsed).mp function)
  have shown : listed braces (.ofHeader file braces number site below header) = true := by
    simp [listed, KotlinDoc.Declaration.ofHeader, kind]
  rw [Nat.zero_add] at found
  refine ⟨braces, ?_⟩
  rw [flat_index, found, declarationAt?, header?_of_parse? parsed, Option.map_some,
    Option.filter_some, if_pos shown]
  rfl

theorem declaration_of_classLike (file : Text) {lines : List Text} {number : Nat}
    {line rest : Text} {form : SymbolForm} {header : SymbolHeader}
    (here : lines[number]? = some line) (other : form ≠ .function)
    (parsed : SymbolHeader.parse? form line = some (header, rest)) :
    ∃ declaration, (flat (Symbol.index file lines)).filter (·.line == number) = [declaration] ∧
      declaration.kind = header.kind ∧ declaration.kind ≠ .function := by
  obtain ⟨site, below, located, rfl⟩ := site_of_getElem? here
  obtain ⟨braces, found⟩ := filter_index file located other parsed
  exact ⟨_, found, rfl, fun function => other ((kind_of_parse? parsed).mp function)⟩

theorem form_of_mem_flat {file : Text} {lines : List Text} {declaration : KotlinDoc.Declaration}
    (member : declaration ∈ flat (Symbol.index file lines)) :
    ∃ line form found, lines[declaration.line]? = some line ∧
      SymbolHeader.parse? form line = some found ∧
      (declaration.kind = .function ↔ form = .function) := by
  rw [flat_index] at member
  obtain ⟨number, site, below, braces, located, made⟩ := exists_site_of_mem_declared member
  rw [line_of_declarationAt? made, Nat.zero_add]
  obtain ⟨header, read, rfl⟩ := Option.map_eq_some_iff.mp made
  obtain ⟨form, rest, parsed⟩ := parse?_of_header? read
  exact ⟨site.line, form, _, getElem?_of_site located, parsed, kind_of_parse? parsed⟩

theorem children_entry {symbol : Symbol} {child : SymbolEntry}
    (member : child ∈ symbol.entry.children) : child.children = [] := by
  obtain ⟨declaration, -, rfl⟩ := List.mem_map.mp member
  rfl

/-- The lines of the declarations increase. A line with the header of a class, an enum class, a data
class, an extension or an interface adds one declaration, and the declarations of other lines are
functions. Children have no children, are no functions, and lie deeper than their parents. -/
theorem shape_of_index (file : Text) (lines : List Text) :
    ((flat (Symbol.index file lines)).map (·.line)).Pairwise (· < ·) ∧
    (∀ number line form header rest, lines[number]? = some line → form ≠ .function →
      SymbolHeader.parse? form line = some (header, rest) →
      ∃ declaration, (flat (Symbol.index file lines)).filter (·.line == number) = [declaration] ∧
        declaration.kind = header.kind ∧ declaration.kind ≠ .function) ∧
    (∀ declaration ∈ flat (Symbol.index file lines),
      ∃ line form found, lines[declaration.line]? = some line ∧
        SymbolHeader.parse? form line = some found ∧
        (declaration.kind = .function ↔ form = .function)) ∧
    ∀ symbol ∈ Symbol.index file lines,
      (∀ child ∈ symbol.children,
        child.kind ≠ .function ∧ symbol.declaration.depth < child.depth) ∧
      ∀ child ∈ symbol.entry.children, child.children = [] := by
  refine ⟨?_, ?_, fun declaration => form_of_mem_flat, ?_⟩
  · rw [flat_index]
    exact lines_declared_increase file 0 0 _
  · intro number line form header rest here other parsed
    exact declaration_of_classLike file here other parsed
  · intro symbol member
    exact ⟨deeper_index file lines symbol member, fun child => children_entry⟩

def unbalancedLines : List Text :=
  ["\x7d", "\x7d", "open class Outer", "\x7b", "enum class Inner", "\x7d"]

theorem shape_of_index_unbalanced :
    ((flat (Symbol.index "U.kt" unbalancedLines)).map (·.line)).Pairwise (· < ·) ∧
      (∃ declaration,
        (flat (Symbol.index "U.kt" unbalancedLines)).filter (·.line == 4) = [declaration] ∧
          declaration.kind = .enumClass ∧ declaration.kind ≠ .function) ∧
      (Symbol.index "U.kt" unbalancedLines).map (·.declaration.depth) = [-2] ∧
      ∀ symbol ∈ Symbol.index "U.kt" unbalancedLines, ∀ child ∈ symbol.children,
        child.kind ≠ .function ∧ symbol.declaration.depth < child.depth := by
  obtain ⟨increase, single, -, deeper⟩ := shape_of_index "U.kt" unbalancedLines
  have parsed : SymbolHeader.parse? .enumClass "enum class Inner" =
      some (⟨none, "enum class", .enumClass, "Inner", none, []⟩, []) := by
    decide +kernel
  refine ⟨increase, single 4 _ .enumClass _ _ rfl (by decide) parsed, by decide +kernel, ?_⟩
  exact fun symbol member => (deeper symbol member).1

end KotlinDoc.Proofs
