import KotlinDoc.Proofs.Index.Scanning

namespace KotlinDoc.Proofs

/-- A member as it is written. The lines of its body lead back to the depth of the class; blank
lines after it belong to it. -/
structure CanonicalMember where
  doc : Option DocBlock
  header : LogicalLine
  declaration : Declaration
  body : List Text
  balanced : ∀ block ∈ doc, Leads (fun _ _ => True) 1 block.lines 1
  written : header.text = declaration.text
  noInlineDoc : Text.find? "/**<" header.text = none
  outside : Outside header.text
  opened : 0 ≤ Source.braceExcess header.text
  closed : Leads PassedOver (1 + Source.braceExcess header.text) body 1

namespace CanonicalMember

def docLines (member : CanonicalMember) : List Text :=
  (member.doc.map DocBlock.lines).getD []

def docstring (member : CanonicalMember) : List Text :=
  (member.doc.map DocBlock.docstring).getD []

def lines (member : CanonicalMember) : List Text :=
  member.docLines ++ (member.header.lines ++ member.body)

/-- An undocumented member has no comment and no annotation right above it. -/
def Placed (above : List Text) : List CanonicalMember → Prop
  | [] => True
  | member :: members =>
    (member.doc = none → Detached above) ∧ Placed (member.lines.reverse ++ above) members

/-- The members that are expected, where the lines start at a position. The number of a member is
that of the last line of its header. -/
def membersFrom (position : Int) : List CanonicalMember → List Member
  | [] => []
  | member :: members =>
    member.declaration.member member.docstring
        (position + member.docLines.length + member.header.more.length) ::
      membersFrom (position + member.lines.length) members

theorem docLines_lead (member : CanonicalMember) : Leads PassedOver 1 member.docLines 1 := by
  unfold docLines
  cases present : member.doc with
  | none => exact .nil 1
  | some block => exact leads_block block (member.balanced block present)

theorem above_docLines (member : CanonicalMember) {above : List Text}
    (placed : member.doc = none → Detached above) :
    DocComment.above (member.docLines.reverse ++ above) = member.docstring := by
  unfold docLines docstring
  cases present : member.doc with
  | none => exact above_detached (placed present)
  | some block => exact above_block block above

theorem suppression_notMem (member : CanonicalMember) :
    Member.suppression ∉ member.docstring := by
  unfold docstring
  cases member.doc with
  | none => exact List.not_mem_nil
  | some block =>
      show Member.suppression ∉ block.docstring
      rw [← above_block block []]
      exact suppression_notMem_above _

theorem ofLine_header (member : CanonicalMember) {above : List Text}
    (placed : member.doc = none → Detached above) (braces line : Int) :
    Member.ofLine false ⟨braces, 0⟩ ⟨member.header.first, member.docLines.reverse ++ above⟩ line
        member.header.text = [member.declaration.member member.docstring line] := by
  have docstring : Member.docstringAt false
      ⟨member.header.first, member.docLines.reverse ++ above⟩ member.header.text =
      member.docstring := by
    simp only [Member.docstringAt, Member.inlineDoc?, member.noInlineDoc, Option.map_none]
    exact member.above_docLines placed
  have shown : member.docstring.contains Member.suppression = false := by
    simpa using member.suppression_notMem
  unfold Member.ofLine
  simp only [docstring, shown, Bool.false_eq_true, if_false]
  rw [member.written]
  exact member.declaration.ofLine_declaration member.docstring line

theorem scan_member (member : CanonicalMember) {above : List Text}
    (placed : member.doc = none → Detached above) (rest : List Text) (position : Int) :
    Member.scan false ⟨1, 0⟩ position 0 (Site.listBelow above (member.lines ++ rest)) =
      member.declaration.member member.docstring
          (position + member.docLines.length + member.header.more.length) ::
        Member.scan false ⟨1, 0⟩ (position + member.lines.length) 0
          (Site.listBelow (member.lines.reverse ++ above) rest) := by
  have inside : 0 < 1 + Source.braceExcess member.header.text := by
    have := member.opened
    omega
  -- A header at the depth of the class is never passed over: it goes deeper or stays there.
  have declared : ¬ (1 < 1 + Source.braceExcess member.header.text ∧
      Source.braceExcess member.header.text = 0) := by
    omega
  rw [lines, List.append_assoc, List.append_assoc, scan_leads member.docLines_lead,
    scan_logicalLine member.header _ _ _ inside member.outside, if_neg declared,
    member.ofLine_header placed, scan_leads member.closed]
  simp [Int.add_assoc]

theorem scan_members (members : List CanonicalMember) {above : List Text}
    (placed : Placed above members) {closing : Text} (closes : Text.trim closing = ['}'])
    (after : List Text) (position : Int) :
    Member.scan false ⟨1, 0⟩ position 0
        (Site.listBelow above (members.flatMap lines ++ closing :: after)) =
      membersFrom position members := by
  induction members generalizing above position with
  | nil => exact scan_closing closes above after position
  | cons member members ih =>
      obtain ⟨here, below⟩ := placed
      rw [List.flatMap_cons, List.append_assoc, member.scan_member here, ih below, membersFrom]

end CanonicalMember

/-- Reading a canonical body gives its members, in order, and nothing else. -/
theorem index?_canonicalBody (front : List Text) (members : List CanonicalMember)
    (placed : CanonicalMember.Placed front.reverse members) {closing : Text}
    (closes : Text.trim closing = ['}']) (after : List Text) :
    Member.index? false
        (front ++ (members.flatMap CanonicalMember.lines ++ closing :: after)) front.length =
      some (CanonicalMember.membersFrom front.length members) := by
  have sites : (Site.list (front ++ (members.flatMap CanonicalMember.lines ++ closing :: after))).drop
      front.length = Site.listBelow front.reverse
        (members.flatMap CanonicalMember.lines ++ closing :: after) := by
    rw [Site.list, drop_listBelow, List.take_left, List.drop_left, List.append_nil]
  have read := CanonicalMember.scan_members members placed closes after front.length
  simp [Member.index?, Lines.scanFrom?, Member.ofSites, sites, Member.Nesting.start, read]

def addFunction : CanonicalMember where
  doc := some {
    opening := "    /**"
    stars := ["     * Adds two numbers."]
    closing := "     */"
    before := "     "
    opens := by decide
    starred := by decide
    closes := by decide
    margin := .inl (by decide) }
  header := {
    first := "    private fun add("
    more := ["        a: Int,", "        b: Int", "    ): Int \x7b"]
    continues := by decide +kernel }
  declaration := {
    indent := "    "
    scope := some ⟨.private_, " ", by decide, by decide⟩
    word := .function
    gap := " "
    name := "add"
    rest := "( a: Int, b: Int ): Int "
    tail := "\x7b"
    indented := by decide
    allowed := by decide
    separated := by decide
    named := ⟨⟨'a', rfl, rfl⟩, by simp [isAsciiWord], by simp [isAsciiWord]⟩
    unnamed := by decide +kernel
    unbraced := by decide
    braced := by simp }
  body := ["        return a + b", "    \x7d", ""]
  balanced := by
    intro block present
    obtain rfl := Option.some.inj present
    exact .line 1 (by decide +kernel) (.line 1 (by decide +kernel)
      (.line 1 (by decide +kernel) (.nil 1)))
  written := by decide +kernel
  noInlineDoc := by decide +kernel
  outside := by decide +kernel
  opened := by decide +kernel
  closed := .line 2 (by decide +kernel) (.line 1 (by decide +kernel)
    (.line 1 (by decide +kernel) (.nil 1)))

def totalProperty : CanonicalMember where
  doc := none
  header := {
    first := "    var total = 0"
    more := []
    continues := by decide +kernel }
  declaration := {
    indent := "    "
    scope := none
    word := .var
    gap := " "
    name := "total"
    rest := " = 0"
    tail := ""
    indented := by decide
    allowed := by decide
    separated := by decide
    named := ⟨⟨'t', rfl, rfl⟩, by simp [isAsciiWord], by simp [isAsciiWord]⟩
    unnamed := by decide +kernel
    unbraced := by decide
    braced := by simp }
  body := []
  balanced := by simp
  written := by decide +kernel
  noInlineDoc := by decide +kernel
  outside := by decide +kernel
  opened := by decide +kernel
  closed := .nil 1

theorem index?_canonicalBody_sum :
    CanonicalMember.Placed [("class Sum \x7b" : Text)].reverse [addFunction, totalProperty] ∧
      Text.trim ['}'] = ['}'] ∧
        Member.index? false ([("class Sum \x7b" : Text)] ++
          ([addFunction, totalProperty].flatMap CanonicalMember.lines ++
            ['}'] :: ["val later = 1"])) 1 =
          some (CanonicalMember.membersFrom 1 [addFunction, totalProperty]) := by
  have placed :
      CanonicalMember.Placed [("class Sum \x7b" : Text)].reverse [addFunction, totalProperty] :=
    ⟨nofun, fun _ => by decide +kernel, trivial⟩
  have closes : Text.trim ['}'] = ['}'] := by decide
  exact ⟨placed, closes, index?_canonicalBody [("class Sum \x7b" : Text)]
    [addFunction, totalProperty] placed closes ["val later = 1"]⟩

def documented (lines : List Text) : Option (List (Text × List Text)) :=
  (Member.index? false lines 0).map fun members =>
    members.map fun member => (member.name, member.docstring)

/-- The conditions on canonical members are needed. -/
theorem documented_uncanonical :
    -- A comment on the line of the declaration takes the place of the block above it.
    documented ["/**", " * Kept.", " */", "val x = 1 /**< note */", "\x7d"] =
        some [(("x" : Text), [("note" : Text)])] ∧
      -- No property is external.
      documented ["external val x = 1", "\x7d"] = some [] ∧
      -- A name is written in ASCII.
      documented ["val größe = 1", "\x7d"] = some [] ∧
      -- Braces count in a comment that goes over several lines.
      documented ["/**", " * Opens \x7b", " */", "val a = 1", "val b = 2", "\x7d"] = some [] ∧
      -- The comment that ends above a declaration is taken for its own.
      documented ["val a = 1 /* one */", "val b = 2", "\x7d"] =
        some [(("a" : Text), []), (("b" : Text), [("val a = 1 /* one " : Text)])] ∧
      -- A line that opens a brace can declare a member at any depth.
      documented ["fun f() \x7b", "    val y = run \x7b", "    \x7d", "\x7d", "\x7d"] =
        some [(("f" : Text), []), (("y" : Text), [])] := by
  refine ⟨?_, ?_, ?_, ?_, ?_, ?_⟩ <;> decide +kernel

end KotlinDoc.Proofs
