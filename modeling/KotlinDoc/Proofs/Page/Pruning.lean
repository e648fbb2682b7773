import KotlinDoc.Proofs.Page.Documentable

namespace KotlinDoc.Proofs.Page

def isPublic (scope : Option Text) : Bool :=
  scope == some "public"

def scopeOf : SymbolRecord → Option Text
  | .mk _ scope _ _ _ _ _ => scope

def prunedMembers (members : List MemberRecord) : List MemberRecord :=
  members.filter fun member => isPublic member.scope

mutual

def pruned : SymbolRecord → SymbolRecord
  | .mk kind scope name type docstring members children =>
      .mk kind scope name type docstring (members.map prunedMembers) (prunedWithin children)

def prunedWithin : Option (List SymbolRecord) → Option (List SymbolRecord)
  | none => none
  | some children => some (prunedAll children)

def prunedAll : List SymbolRecord → List SymbolRecord
  | [] => []
  | record :: records =>
      if isPublic (scopeOf record) then pruned record :: prunedAll records else prunedAll records

end

def shownMembers (entries : List MemberEntry) : List MemberEntry :=
  entries.filter fun entry => isPublic (some entry.scope)

theorem complete_prunedMembers {records : List MemberRecord} {entries : List MemberEntry}
    (complete : List.Forall₂ Complete records entries) :
    List.Forall₂ Complete (prunedMembers records) (shownMembers entries) := by
  induction complete with
  | nil => exact .nil
  | @cons record entry records entries first _ ih =>
      unfold prunedMembers shownMembers
      rw [List.filter_cons, List.filter_cons, first.scope]
      split
      · exact .cons first ih
      · exact ih

theorem rel_prunedMembers {records : Option (List MemberRecord)}
    {entries : Option (List MemberEntry)}
    (own : Option.Rel (List.Forall₂ Complete) records entries) :
    Option.Rel (List.Forall₂ Complete) (records.map prunedMembers) (entries.map shownMembers) := by
  cases own with
  | none => exact .none
  | some complete => exact .some (complete_prunedMembers complete)

section

variable (selection : Selection) (indent : Text)

theorem showsScope_unhidden (scope : Text) :
    { selection with hidden := false }.showsScope scope = isPublic (some scope) := by
  simp [Selection.showsScope, isPublic]

theorem memberLines_shownMembers (entries : List MemberEntry) :
    Document.memberLines { selection with hidden := false } indent entries =
      Document.memberLines { selection with hidden := true } indent (shownMembers entries) := by
  have kept : entries.filter { selection with hidden := false }.showsMember =
      (shownMembers entries).filter { selection with hidden := true }.showsMember := by
    unfold shownMembers
    rw [List.filter_filter]
    congr 1
    funext entry
    simp only [Selection.showsMember, showsScope_unhidden]
    simp [Selection.showsScope]
  unfold Document.memberLines
  rw [kept]
  rfl

def shownEntry (entry : SymbolEntry) (children : List SymbolEntry) : SymbolEntry :=
  .mk entry.kind entry.scope entry.name entry.type entry.docstring
    (entry.members.map shownMembers) children

theorem items_pruned {entry : SymbolEntry} {members : Option (List MemberRecord)}
    {children records : List SymbolRecord} {kept entries : List SymbolEntry}
    (own : Option.Rel (List.Forall₂ Complete) members entry.members)
    (within : Items (prunedAll children) kept) (rest : Items records entries) :
    Items (pruned (fullRecord entry members children) :: records)
      (shownEntry entry kept :: entries) := by
  have own' : Option.Rel (List.Forall₂ Complete) (members.map prunedMembers)
      (shownEntry entry kept).members := rel_prunedMembers own
  exact .cons own' within rest

theorem showsSymbol_public {entry : SymbolEntry} (shown : isPublic (some entry.scope) = true)
    (children : List SymbolEntry) :
    { selection with hidden := false }.showsSymbol entry =
      { selection with hidden := true }.showsSymbol (shownEntry entry children) := by
  unfold Selection.showsSymbol
  rw [showsScope_unhidden, shown]
  rfl

section

variable {entry : SymbolEntry} {children : List SymbolEntry}
  (same : ∀ indent, Document.lines { selection with hidden := false } indent entry.children =
    Document.lines { selection with hidden := true } indent children)

include same

theorem inner_shownEntry :
    Document.inner { selection with hidden := false } indent entry =
      Document.inner { selection with hidden := true } indent (shownEntry entry children) := by
  show Document.within _ indent entry.members (Document.lines _ _ entry.children) =
    Document.within _ indent (entry.members.map shownMembers) (Document.lines _ _ children)
  rw [same]
  cases entry.members with
  | none => rfl
  | some members => simp only [Option.map_some, Document.within, memberLines_shownMembers]

theorem entryLines_public (shown : isPublic (some entry.scope) = true) :
    Document.entryLines { selection with hidden := false } indent entry =
      Document.entryLines { selection with hidden := true } indent (shownEntry entry children) := by
  rw [entryLines_eq, entryLines_eq, showsSymbol_public selection shown children,
    inner_shownEntry selection indent same]
  rfl

end

theorem entryLines_hidden {entry : SymbolEntry} (hidden : isPublic (some entry.scope) = false) :
    Document.entryLines { selection with hidden := false } indent entry = [] := by
  rw [entryLines_eq, Selection.showsSymbol, showsScope_unhidden, hidden]
  simp

/-- The pruned records have all fields of entries that give, with hidden ones shown, the lines of
the original entries. -/
theorem lines_pruned {records : List SymbolRecord} {entries : List SymbolEntry}
    (items : Items records entries) :
    ∃ kept, Items (prunedAll records) kept ∧
      ∀ indent, Document.lines { selection with hidden := false } indent entries =
        Document.lines { selection with hidden := true } indent kept := by
  induction items with
  | nil => exact ⟨[], .nil, fun _ => rfl⟩
  | @cons entry members children records entries own _ _ inside rest =>
      obtain ⟨keptWithin, within, sameWithin⟩ := inside
      obtain ⟨kept, others, same⟩ := rest
      rw [prunedAll]
      cases shown : isPublic (some entry.scope) with
      | true =>
          refine ⟨shownEntry entry keptWithin :: kept, ?_, fun indent => ?_⟩
          · exact (if_pos shown).symm ▸ items_pruned own within others
          · rw [Document.lines, Document.lines, same,
              entryLines_public selection indent sameWithin shown]
      | false =>
          refine ⟨kept, ?_, fun indent => ?_⟩
          · exact (if_neg (Bool.eq_false_iff.mp shown)).symm ▸ others
          · rw [Document.lines, entryLines_hidden selection indent shown, same, List.nil_append]

end

theorem document_prunedAll {records : List SymbolRecord} {entries : List SymbolEntry}
    (items : Items records entries) (selection : Selection) (indent : Text) :
    SymbolRecord.document { selection with hidden := true } indent (prunedAll records) =
      .ok (Document.lines { selection with hidden := false } indent entries) := by
  obtain ⟨kept, items, same⟩ := lines_pruned selection items
  rw [same]
  exact document_of_reads items.reads indent

/-- Without hidden entries, the document of complete records is that of the pruned records, and it
is the same for any two forests that agree after pruning. -/
theorem hidden_symbols_leave_no_trace {records : List SymbolRecord} {entries : List SymbolEntry}
    (items : Items records entries) (selection : Selection) (indent : Text) :
    SymbolRecord.document { selection with hidden := false } indent records =
      .ok (Document.lines { selection with hidden := false } indent entries) ∧
    SymbolRecord.document { selection with hidden := true } indent (prunedAll records) =
      .ok (Document.lines { selection with hidden := false } indent entries) ∧
    ∀ others otherEntries, Items others otherEntries → prunedAll others = prunedAll records →
      SymbolRecord.document { selection with hidden := false } indent others =
        SymbolRecord.document { selection with hidden := false } indent records := by
  have own := document_prunedAll items selection indent
  refine ⟨document_of_reads items.reads indent, own, ?_⟩
  intro others otherEntries too same
  have all := document_prunedAll too selection indent
  rw [same, own] at all
  rw [document_of_reads too.reads indent, document_of_reads items.reads indent, all]

def vault : SymbolEntry :=
  .mk "enum_class" "public" "Vault" none ["Doc."]
    (some [⟨"enum_case", "public", "A", none, some "1", []⟩,
      ⟨"val", "private", "key", some ": Int", none, ["Secret."]⟩])
    [.mk "class" "private" "Lock" none ["Secret."] (some [])
      [.mk "class" "public" "Pin" none ["Below."] none []]]

def vaultRecords : List SymbolRecord :=
  [.mk (some "enum_class") (some "public") (some "Vault") (some none) (some ["Doc."])
    (some [⟨some "enum_case", some "public", some "A", some none, some (some "1"), some []⟩,
      ⟨some "val", some "private", some "key", some (some ": Int"), none, some ["Secret."]⟩])
    (some [.mk (some "class") (some "private") (some "Lock") (some none) (some ["Secret."]) (some [])
      (some [.mk (some "class") (some "public") (some "Pin") (some none) (some ["Below."]) none
        (some [])])])]

theorem hidden_symbols_leave_no_trace_vault :
    Items vaultRecords [vault] ∧
      SymbolRecord.document {} "" vaultRecords = .ok (Document.lines {} "" [vault]) ∧
      SymbolRecord.document { hidden := true } "" (prunedAll vaultRecords) =
        .ok (Document.lines {} "" [vault]) := by
  have items : Items vaultRecords [vault] := by
    have case : Complete ⟨some "enum_case", some "public", some "A", some none, some (some "1"),
        some []⟩ ⟨"enum_case", "public", "A", none, some "1", []⟩ :=
      ⟨rfl, rfl, rfl, rfl, fun _ => rfl, rfl⟩
    have key : Complete ⟨some "val", some "private", some "key", some (some ": Int"), none,
        some ["Secret."]⟩ ⟨"val", "private", "key", some ": Int", none, ["Secret."]⟩ :=
      ⟨rfl, rfl, rfl, rfl, nofun, rfl⟩
    have pin : Items [.mk (some "class") (some "public") (some "Pin") (some none)
        (some ["Below."]) none (some [])] [.mk "class" "public" "Pin" none ["Below."] none []] :=
      @Items.cons (.mk "class" "public" "Pin" none ["Below."] none []) _ _ _ _ .none .nil .nil
    have lock := @Items.cons (.mk "class" "private" "Lock" none ["Secret."] (some [])
      [.mk "class" "public" "Pin" none ["Below."] none []]) _ _ _ _ (.some .nil) pin .nil
    exact @Items.cons vault _ _ _ _ (.some (.cons case (.cons key .nil))) lock .nil
  obtain ⟨document, kept, -⟩ := hidden_symbols_leave_no_trace items {} ""
  exact ⟨items, document, kept⟩

end KotlinDoc.Proofs.Page
