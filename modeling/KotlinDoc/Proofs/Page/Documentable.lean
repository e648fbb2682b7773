import KotlinDoc.Domain.ObjectType
import KotlinDoc.Page.Record
import KotlinDoc.Proofs.Command.Pages
import KotlinDoc.Proofs.Index.Inventory

namespace KotlinDoc.Proofs.Page

open Command

/-! ## Fields -/

theorem need_some {α : Type} (field : Field) (value : α) : field.need (some value) = .ok value :=
  rfl

theorem needIf_some {α : Type} (field : Field) (condition : Bool) (value : List α) :
    field.needIf condition (some value) = .ok (if condition then value else []) := by
  cases condition <;> rfl

/-! ## Members -/

structure Complete (record : MemberRecord) (entry : MemberEntry) : Prop where
  kind : record.kind = some entry.kind
  scope : record.scope = some entry.scope
  name : record.name = some entry.name
  rest : record.rest = some entry.rest
  rawValue : entry.isEnumCase = true → record.rawValue = some entry.rawValue
  docstring : record.docstring = some entry.docstring

theorem isEnumCase_entry (member : Member) :
    member.entry.isEnumCase = true ↔ member.kind = .entry := by
  show (member.kind.label == "enum_case".toList) = true ↔ _
  rw [beq_iff_eq]
  cases member.kind with
  | plain word => cases word with
    | initial word => cases word <;> decide
    | _ => decide
  | companion word => cases word with
    | initial word => cases word <;> decide
    | _ => decide
  | entry => decide

theorem complete_record {member : Member} (valued : Valued member) :
    Complete member.record member.entry where
  kind := rfl
  scope := rfl
  name := rfl
  rest := rfl
  rawValue case := by
    obtain ⟨value, origin⟩ := valued ((isEnumCase_entry member).mp case)
    unfold Member.record Member.entry
    rw [origin]
  docstring := rfl

def read (scope : Text) (docstring : List Text) (entry : MemberEntry) : MemberEntry :=
  { entry with
    scope := scope
    rawValue := if entry.isEnumCase then entry.rawValue else none
    docstring := docstring }

theorem directive_read (style : Directive.Style) (scope : Text) (entry : MemberEntry) :
    (read scope entry.docstring entry).directive style = entry.directive style := by
  unfold MemberEntry.directive
  rw [show (read scope entry.docstring entry).isEnumCase = entry.isEnumCase from rfl]
  split
  · rename_i case
    have same : (read scope entry.docstring entry).rawValue = entry.rawValue := if_pos case
    unfold MemberEntry.item
    rw [same]
    rfl
  · rfl

section

variable {record : MemberRecord} {entry : MemberEntry}

theorem Complete.forDirective_eq (complete : Complete record entry) (noDocstring : Bool) :
    record.forDirective noDocstring = .ok (read []
      (if entry.isEnumCase || !noDocstring then entry.docstring else []) entry) := by
  unfold MemberRecord.forDirective read
  rw [complete.kind, complete.name, complete.rest, complete.docstring]
  cases case : entry.isEnumCase with
  | true =>
      rw [complete.rawValue case]
      unfold MemberEntry.isEnumCase at case
      simp only [need_some, bind, Except.bind, case, if_true, pure, Except.pure, Bool.true_or]
  | false =>
      unfold MemberEntry.isEnumCase at case
      simp only [need_some, needIf_some, bind, Except.bind, case, pure, Except.pure, Bool.false_or]
      rfl

theorem showsMember_read (selection : Selection) (entry : MemberEntry) :
    let docstring := if !selection.undocumented then entry.docstring else []
    let kind := if !selection.undocumented && docstring.isEmpty then entry.kind else []
    let scope := if !selection.hidden then entry.scope else []
    selection.showsMember ⟨kind, scope, [], none, none, docstring⟩ = selection.showsMember entry := by
  obtain ⟨hidden, undocumented, members, noIndex, noIndexMembers⟩ := selection
  obtain ⟨kind, scope, name, rest, rawValue, docstring⟩ := entry
  cases undocumented <;> cases docstring <;> cases hidden <;> rfl

def scopeRead (selection : Selection) (scope : Text) : Text :=
  if !selection.hidden then scope else []

theorem Complete.select_eq (complete : Complete record entry) (selection : Selection) :
    record.select selection = .ok (if selection.showsMember entry then
      some (read (scopeRead selection entry.scope) entry.docstring entry) else none) := by
  have shows := showsMember_read selection entry
  have directive := complete.forDirective_eq false
  unfold MemberRecord.select
  rw [complete.kind, complete.scope, complete.docstring]
  simp only [needIf_some, bind, Except.bind] at shows ⊢
  rw [shows]
  split
  · rw [directive]
    simp only [Bool.not_false, Bool.or_true, if_true]
    rfl
  · rfl

theorem showsMember_scopeRead (selection : Selection) (entry : MemberEntry) :
    selection.showsMember (read (scopeRead selection entry.scope) entry.docstring entry) =
      selection.showsMember entry := by
  obtain ⟨hidden, undocumented, members, noIndex, noIndexMembers⟩ := selection
  cases hidden <;> rfl

end

def pick (selection : Selection) (entry : MemberEntry) : Option MemberEntry :=
  if selection.showsMember entry then
    some (read (scopeRead selection entry.scope) entry.docstring entry)
  else none

theorem mapM_select {records : List MemberRecord} {entries : List MemberEntry}
    (complete : List.Forall₂ Complete records entries) (selection : Selection) :
    records.mapM (·.select selection) = .ok (entries.map (pick selection)) := by
  induction complete with
  | nil => rfl
  | cons first _ ih =>
      rw [List.mapM_cons, first.select_eq selection, ih]
      rfl

theorem complete_records {members : List Member} (valued : ∀ member ∈ members, Valued member) :
    List.Forall₂ Complete (members.map Member.record) (members.map Member.entry) := by
  rw [List.forall₂_map_left_iff, List.forall₂_map_right_iff, List.forall₂_same]
  exact fun member found => complete_record (valued member found)

theorem memberLines_pick (selection : Selection) (indent : Text) (entries : List MemberEntry) :
    Document.memberLines selection indent ((entries.map (pick selection)).filterMap id) =
      Document.memberLines selection indent entries := by
  unfold Document.memberLines
  induction entries with
  | nil => rfl
  | cons entry entries ih =>
      rw [List.map_cons, List.filter_cons]
      cases shows : selection.showsMember entry with
      | false =>
          rw [show pick selection entry = none by simp [pick, shows], List.filterMap_cons_none rfl, ih]
          rfl
      | true =>
          have too := showsMember_scopeRead selection entry
          rw [shows] at too
          rw [show pick selection entry = some _ from if_pos shows, List.filterMap_cons_some (f := id) rfl,
            List.filter_cons, if_pos too, if_pos rfl, List.flatMap_cons, List.flatMap_cons, ih,
            directive_read]

/-! ## Symbols -/

def Reads (selection : Selection) (records : List SymbolRecord) (entries : List SymbolEntry) :
    Prop :=
  ∃ selected, SymbolRecord.selectAll selection records = .ok selected ∧
    ∀ indent, Document.lines selection indent selected = Document.lines selection indent entries

section

variable {selection : Selection}

theorem reads_nil : Reads selection [] [] :=
  ⟨[], rfl, fun _ => rfl⟩

theorem lines_append (indent : Text) (entries more : List SymbolEntry) :
    Document.lines selection indent (entries ++ more) =
      Document.lines selection indent entries ++ Document.lines selection indent more := by
  induction entries with
  | nil => rfl
  | cons entry entries ih =>
      rw [List.cons_append, Document.lines, Document.lines, ih, List.append_assoc]

theorem lines_single (indent : Text) (entry : SymbolEntry) :
    Document.lines selection indent [entry] = Document.entryLines selection indent entry := by
  rw [Document.lines, Document.lines, List.append_nil]

theorem reads_single {record : SymbolRecord} {entry : SymbolEntry} {selected : Option SymbolEntry}
    (ok : record.select selection = .ok selected)
    (same : ∀ indent, Document.lines selection indent selected.toList =
      Document.entryLines selection indent entry) : Reads selection [record] [entry] := by
  refine ⟨selected.toList, ?_, fun indent => (same indent).trans (lines_single indent entry).symm⟩
  rw [SymbolRecord.selectAll, ok, SymbolRecord.selectAll]
  exact congrArg Except.ok (List.append_nil _)

theorem reads_cons {record : SymbolRecord} {records : List SymbolRecord} {entry : SymbolEntry}
    {entries : List SymbolEntry} (first : Reads selection [record] [entry])
    (rest : Reads selection records entries) :
    Reads selection (record :: records) (entry :: entries) := by
  obtain ⟨selected, ok, same⟩ := first
  obtain ⟨more, fine, others⟩ := rest
  refine ⟨selected ++ more, ?_, ?_⟩
  · rw [SymbolRecord.selectAll] at ok ⊢
    cases here : record.select selection with
    | error field =>
        rw [here] at ok
        cases ok
    | ok found =>
        rw [here, SymbolRecord.selectAll] at ok
        rw [fine]
        cases ok
        exact congrArg (fun entries => Except.ok (entries ++ more)) (List.append_nil _).symm
  · intro indent
    rw [lines_append, same, others, lines_single, Document.lines]

def symbolRead (selection : Selection) (entry : SymbolEntry) :
    Option (List MemberEntry) → List SymbolEntry → SymbolEntry :=
  .mk entry.kind (scopeRead selection entry.scope) entry.name entry.type
    (if !selection.undocumented then entry.docstring else [])

theorem showsSymbol_read (selection : Selection) (entry : SymbolEntry) (kind name : Text)
    (type : Option Text) (members : Option (List MemberEntry)) (children : List SymbolEntry) :
    selection.showsSymbol (.mk kind (scopeRead selection entry.scope) name type
        (if !selection.undocumented then entry.docstring else []) members children) =
      selection.showsSymbol entry := by
  obtain ⟨hidden, undocumented, more, noIndex, noIndexMembers⟩ := selection
  cases undocumented <;> cases hidden <;> rfl

theorem directive_symbolRead (entry : SymbolEntry) (indent : Text)
    (members : Option (List MemberEntry)) (children : List SymbolEntry) :
    (symbolRead selection entry members children).directive (selection.symbolStyle indent) =
      entry.directive (selection.symbolStyle indent) := by
  obtain ⟨hidden, undocumented, more, noIndex, noIndexMembers⟩ := selection
  cases undocumented <;> rfl

def fullRecord (entry : SymbolEntry) (members : Option (List MemberRecord))
    (children : List SymbolRecord) : SymbolRecord :=
  .mk (some entry.kind) (some entry.scope) (some entry.name) (some entry.type)
    (some entry.docstring) members (some children)

theorem forDirective_fullRecord (entry : SymbolEntry) (members : Option (List MemberRecord))
    (children : List SymbolRecord) (noDocstring : Bool) :
    (fullRecord entry members children).forDirective noDocstring =
      .ok (.mk entry.kind [] entry.name entry.type
        (if !noDocstring then entry.docstring else []) none []) := by
  unfold fullRecord SymbolRecord.forDirective
  simp only [need_some, needIf_some, bind, Except.bind, pure, Except.pure]

def readWithin (selection : Selection) (members : Option (List MemberEntry))
    (children : List SymbolEntry) : Option (List MemberEntry) × List SymbolEntry :=
  match members with
  | some members => if selection.members then
      (some ((members.map (pick selection)).filterMap id), children)
    else (none, [])
  | none => (none, [])

theorem select_fullRecord {entry : SymbolEntry} {members : Option (List MemberRecord)}
    (own : Option.Rel (List.Forall₂ Complete) members entry.members)
    {records : List SymbolRecord} {children : List SymbolEntry}
    (ok : SymbolRecord.selectAll selection records = .ok children) :
    (fullRecord entry members records).select selection =
      .ok (if selection.showsSymbol entry then
        some (symbolRead selection entry (readWithin selection entry.members children).1
          (readWithin selection entry.members children).2) else none) := by
  have shows := showsSymbol_read selection entry [] [] none none []
  have directive := forDirective_fullRecord entry members records selection.undocumented
  unfold fullRecord at directive ⊢
  rw [SymbolRecord.select]
  unfold scopeRead at shows
  simp only [needIf_some, bind, Except.bind, directive, shows]
  split
  · generalize entry.members = shown at own
    cases own with
    | none => cases selection.members <;> rfl
    | some complete =>
        simp only [SymbolRecord.selectChildren, mapM_select complete, ok, readWithin]
        cases selection.members <;> rfl
  · rfl

theorem entryLines_eq (indent : Text) (entry : SymbolEntry) :
    Document.entryLines selection indent entry =
      if selection.showsSymbol entry then
        (entry.directive (selection.symbolStyle indent)).map (indent ++ ·) ++
        (if selection.members then Document.inner selection indent entry else []) ++ [[]]
      else [] := by
  cases entry
  rw [Document.entryLines]
  rfl

theorem inner_symbolRead {entry : SymbolEntry} {children : List SymbolEntry}
    (same : ∀ indent, Document.lines selection indent children =
      Document.lines selection indent entry.children) (shown : selection.members = true)
    (indent : Text) :
    Document.inner selection indent (symbolRead selection entry
        (readWithin selection entry.members children).1
        (readWithin selection entry.members children).2) =
      Document.inner selection indent entry := by
  unfold Document.inner symbolRead
  cases entry.members with
  | none => rfl
  | some members =>
      simp only [readWithin, shown, if_true, SymbolEntry.members, SymbolEntry.children,
        Document.within, memberLines_pick, same]

theorem entryLines_symbolRead {entry : SymbolEntry} {children : List SymbolEntry}
    (same : ∀ indent, Document.lines selection indent children =
      Document.lines selection indent entry.children) (indent : Text) :
    Document.entryLines selection indent (symbolRead selection entry
        (readWithin selection entry.members children).1
        (readWithin selection entry.members children).2) =
      Document.entryLines selection indent entry := by
  rw [entryLines_eq, entryLines_eq, directive_symbolRead]
  unfold symbolRead
  rw [showsSymbol_read]
  cases shown : selection.members with
  | true =>
      rw [← inner_symbolRead same shown]
      rfl
  | false => rfl

theorem reads_fullRecord {entry : SymbolEntry} {members : Option (List MemberRecord)}
    (own : Option.Rel (List.Forall₂ Complete) members entry.members)
    {records : List SymbolRecord} (children : Reads selection records entry.children) :
    Reads selection [fullRecord entry members records] [entry] := by
  obtain ⟨selected, ok, same⟩ := children
  refine reads_single (select_fullRecord own ok) fun indent => ?_
  cases shows : selection.showsSymbol entry with
  | true =>
      rw [if_pos rfl, Option.toList_some, lines_single]
      exact entryLines_symbolRead same indent
  | false =>
      rw [entryLines_eq, shows]
      rfl

inductive Items : List SymbolRecord → List SymbolEntry → Prop where
  | nil : Items [] []
  | cons {entry : SymbolEntry} {members : Option (List MemberRecord)}
      {children records : List SymbolRecord} {entries : List SymbolEntry}
      (own : Option.Rel (List.Forall₂ Complete) members entry.members)
      (within : Items children entry.children) (rest : Items records entries) :
      Items (fullRecord entry members children :: records) (entry :: entries)

theorem Items.reads {records : List SymbolRecord} {entries : List SymbolEntry}
    (items : Items records entries) : Reads selection records entries := by
  induction items with
  | nil => exact reads_nil
  | cons own _ _ children others => exact reads_cons (reads_fullRecord own children) others

end

theorem Items.cons_declaration {declaration : KotlinDoc.Declaration}
    (valued : ValuedMembers declaration) {records within : List SymbolRecord}
    {entries children : List SymbolEntry} (inside : Items within children)
    (rest : Items records entries) :
    Items (declaration.record within :: records) (declaration.entry children :: entries) := by
  have own : Option.Rel (List.Forall₂ Complete) (declaration.members.map (·.map Member.record))
      (declaration.entry children).members := by
    show Option.Rel _ _ (declaration.members.map (·.map Member.entry))
    cases has : declaration.members with
    | none => exact .none
    | some members => exact .some (complete_records (valued members has))
  exact .cons own inside rest

theorem items_children {declarations : List KotlinDoc.Declaration}
    (valued : ∀ declaration ∈ declarations, ValuedMembers declaration) :
    Items (declarations.map (·.record [])) (declarations.map (·.entry [])) := by
  induction declarations with
  | nil => exact .nil
  | cons declaration declarations ih =>
      exact .cons_declaration (valued declaration List.mem_cons_self) .nil
        (ih fun other member => valued other (List.mem_cons_of_mem _ member))

theorem items_symbols {symbols : List Symbol} (valued : OnDeclarations ValuedMembers symbols) :
    Items (symbols.map Symbol.record) (symbols.map Symbol.entry) := by
  induction symbols with
  | nil => exact .nil
  | cons symbol symbols ih =>
      have each := valued symbol List.mem_cons_self
      have children := items_children fun child inside => each child (List.mem_cons_of_mem _ inside)
      exact .cons_declaration (each _ List.mem_cons_self) children
        (ih fun other member => valued other (List.mem_cons_of_mem _ member))

theorem reads_symbols {selection : Selection} {symbols : List Symbol}
    (valued : OnDeclarations ValuedMembers symbols) :
    Reads selection (symbols.map Symbol.record) (symbols.map Symbol.entry) :=
  (items_symbols valued).reads

/-! ## Directives -/

def OpensDirective (lines : List Text) : Prop :=
  ∃ type ∈ kotlinDomain.types, ∃ signature,
    lines.head? = some (".. kotlin:" ++ type.name ++ ":: " ++ signature)

theorem exists_type_label (kind : SymbolKind) : ∃ type ∈ kotlinDomain.types, kind.label = type.name := by
  cases kind with
  | classKind => exact ⟨.classType, by decide, rfl⟩
  | objectKind => exact ⟨.objectType, by decide, rfl⟩
  | enumClass => exact ⟨.enumClass, by decide, rfl⟩
  | dataClass => exact ⟨.dataClass, by decide, rfl⟩
  | extension => exact ⟨.extension, by decide, rfl⟩
  | interface => exact ⟨.interface, by decide, rfl⟩
  | function => exact ⟨.topFunction, by decide, rfl⟩

theorem exists_type_directiveKind (entry : MemberEntry) :
    ∃ type ∈ kotlinDomain.types, entry.directiveKind = type.name := by
  unfold MemberEntry.directiveKind
  split
  · rename_i property
    rcases Bool.or_eq_true_iff.mp property with var | val
    · exact ⟨.var, by decide, eq_of_beq var⟩
    · exact ⟨.val, by decide, eq_of_beq val⟩
  · split
    · exact ⟨.initializer, by decide, rfl⟩
    · split
      · exact ⟨.constructor, by decide, rfl⟩
      · split
        · exact ⟨.staticFunction, by decide, rfl⟩
        · exact ⟨.topFunction, by decide, rfl⟩

theorem opensDirective_symbol (style : Directive.Style) {entry : SymbolEntry} {kind : SymbolKind}
    (same : entry.kind = kind.label) : OpensDirective (entry.directive style) := by
  obtain ⟨type, known, name⟩ := exists_type_label kind
  refine ⟨type, known, entry.signature, ?_⟩
  rw [← name, ← same]
  rfl

theorem opensDirective_member (style : Directive.Style) {entry : MemberEntry}
    (other : entry.isEnumCase = false) : OpensDirective (entry.directive style) := by
  obtain ⟨type, known, name⟩ := exists_type_directiveKind entry
  unfold MemberEntry.directive
  rw [other]
  refine ⟨type, known, entry.signature, ?_⟩
  rw [← name]
  rfl

/-! ## Indexes -/

theorem opensDirective_declaration (declaration : KotlinDoc.Declaration)
    (records : List SymbolRecord) (style : Directive.Style) :
    ∃ entry, (declaration.record records).forDirective style.noDocstring = .ok entry ∧
      OpensDirective (entry.directive style) :=
  ⟨_, forDirective_fullRecord (declaration.entry []) _ records style.noDocstring,
    opensDirective_symbol style rfl⟩

theorem opensDirective_of_valued {member : Member} (valued : Valued member)
    (style : Directive.Style) :
    ∃ entry, member.record.forDirective style.noDocstring = .ok entry ∧
      (member.kind ≠ .entry → OpensDirective (entry.directive style)) := by
  refine ⟨_, (complete_record valued).forDirective_eq style.noDocstring, fun other => ?_⟩
  apply opensDirective_member
  rw [Bool.eq_false_iff]
  exact fun case => other ((isEnumCase_entry member).mp case)

theorem document_of_reads {selection : Selection} {records : List SymbolRecord}
    {entries : List SymbolEntry} (reads : Reads selection records entries) (indent : Text) :
    SymbolRecord.document selection indent records =
      .ok (Document.lines selection indent entries) := by
  obtain ⟨selected, ok, same⟩ := reads
  unfold SymbolRecord.document
  rw [ok, ← same]
  rfl

/-- Readable files are indexed, and no field is missing from the records of their symbols, at
whatever line and depth: every page and every directive can be written, and each directive names an
object type of the domain. -/
theorem indexed_files_documentable (files : List SourceFile)
    (readable : ∀ file ∈ files, Readable file) :
    ∃ symbols, (SourceFile.indexAll files).2 = .ok symbols ∧
      (∀ selection indent, SymbolRecord.document selection indent (symbols.map Symbol.record) =
        .ok (Document.lines selection indent (symbols.map Symbol.entry))) ∧
      ∀ symbol ∈ symbols, ∀ declaration ∈ symbol.declaration :: symbol.children,
        (∀ (style : Directive.Style) (records : List SymbolRecord), ∃ entry,
          (declaration.record records).forDirective style.noDocstring = .ok entry ∧
            OpensDirective (entry.directive style)) ∧
        ∀ members, declaration.members = some members →
          (∃ body position,
            Member.index? (declaration.kind == .enumClass) body position = some members) ∧
          ∀ member ∈ members, ∀ style : Directive.Style, ∃ entry,
            member.record.forDirective style.noDocstring = .ok entry ∧
              (member.kind ≠ .entry → OpensDirective (entry.directive style)) := by
  have declared : OnDeclarations (fun declaration => ∃ lines, DeclaredIn lines declaration)
      (files.flatMap indexed) := by
    intro symbol member declaration inside
    obtain ⟨file, -, own⟩ := List.mem_flatMap.mp member
    obtain ⟨lines, found⟩ := mem_index_of_mem_indexed own
    exact ⟨lines, declaredIn_of_mem_index found declaration inside⟩
  have valued : OnDeclarations ValuedMembers (files.flatMap indexed) := by
    intro symbol member declaration inside
    obtain ⟨lines, here⟩ := declared symbol member declaration inside
    exact here.valuedMembers
  refine ⟨files.flatMap indexed, indexAll_eq_ok.mpr ⟨readable, rfl⟩, ?_, ?_⟩
  · exact fun selection indent => document_of_reads (reads_symbols valued) indent
  · intro symbol member declaration inside
    obtain ⟨lines, here⟩ := declared symbol member declaration inside
    refine ⟨fun style records => opensDirective_declaration declaration records style, ?_⟩
    intro members has
    refine ⟨here.members_eq_index? has, fun item found style => ?_⟩
    exact opensDirective_of_valued (here.valuedMembers members has item found) style

def openPoint : SourceFile :=
  ⟨"P.kt", "/** Doc. */\nclass P(val x: Int, y: Int) \x7b\n    enum class E \x7b\n        A, B\n".toUTF8⟩

theorem indexed_files_documentable_openPoint :
    (∀ file ∈ [openPoint], Readable file) ∧
      (SourceFile.indexAll [openPoint]).2.toOption.map List.length = some 1 ∧
      ∃ symbols, (SourceFile.indexAll [openPoint]).2 = .ok symbols ∧
        SymbolRecord.document { undocumented := true } "  " (symbols.map Symbol.record) =
          .ok (Document.lines { undocumented := true } "  " (symbols.map Symbol.entry)) := by
  have readable : ∀ file ∈ [openPoint], Readable file := by decide +kernel
  obtain ⟨symbols, ok, documented, -⟩ := indexed_files_documentable [openPoint] readable
  exact ⟨readable, by decide +kernel, symbols, ok, documented _ _⟩

end KotlinDoc.Proofs.Page
