import KotlinDoc.Proofs.Page.Documentable
import Mathlib.Data.List.Flatten

namespace KotlinDoc.Proofs.Page

/-- The whole has the elements of both lists, each in their order. -/
inductive Interleaved {α : Type} : List α → List α → List α → Prop where
  | nil : Interleaved [] [] []
  | left {a : α} {kept added whole : List α} (rest : Interleaved kept added whole) :
      Interleaved (a :: kept) added (a :: whole)
  | right {a : α} {kept added whole : List α} (rest : Interleaved kept added whole) :
      Interleaved kept (a :: added) (a :: whole)

namespace Interleaved

variable {α : Type} {kept added whole : List α}

theorem of_left (list : List α) : Interleaved list [] list := by
  induction list with
  | nil => exact .nil
  | cons a list ih => exact .left ih

theorem of_right (list : List α) : Interleaved [] list list := by
  induction list with
  | nil => exact .nil
  | cons a list ih => exact .right ih

theorem append {kept' added' whole' : List α} (first : Interleaved kept added whole)
    (second : Interleaved kept' added' whole') :
    Interleaved (kept ++ kept') (added ++ added') (whole ++ whole') := by
  induction first with
  | nil => exact second
  | left _ ih => exact .left ih
  | right _ ih => exact .right ih

theorem length_eq (both : Interleaved kept added whole) :
    whole.length = kept.length + added.length := by
  induction both with
  | nil => rfl
  | left _ ih => simp [ih]; omega
  | right _ ih => simp [ih]; omega

theorem eq_of_nil (both : Interleaved kept [] whole) : whole = kept := by
  generalize none : ([] : List α) = added at both
  induction both with
  | nil => rfl
  | left _ ih => rw [ih none]
  | right => cases none

theorem sublist_iff (both : Interleaved kept added whole) : whole.Sublist kept ↔ added = [] := by
  constructor
  · intro inside
    have shorter := inside.length_le
    have length := both.length_eq
    apply List.eq_nil_of_length_eq_zero
    omega
  · rintro rfl
    rw [both.eq_of_nil]

end Interleaved

theorem forest_induction {motive : List SymbolEntry → Prop} (nil : motive [])
    (cons : ∀ entry entries, motive entry.children → motive entries → motive (entry :: entries)) :
    ∀ entries, motive entries
  | [] => nil
  | .mk kind scope name type docstring members children :: entries =>
      cons (.mk kind scope name type docstring members children) entries
        (forest_induction nil cons children) (forest_induction nil cons entries)

def documentedMembers (members : List MemberEntry) : List MemberEntry :=
  members.filter fun member => !member.docstring.isEmpty || member.isEnumCase

mutual

def documentedEntry : SymbolEntry → SymbolEntry
  | .mk kind scope name type docstring members children =>
      .mk kind scope name type docstring (members.map documentedMembers) (documented children)

/-- The entries with documentation, without what has none within them. Enum entries need none. -/
def documented : List SymbolEntry → List SymbolEntry
  | [] => []
  | entry :: entries =>
      if entry.docstring.isEmpty then documented entries
      else documentedEntry entry :: documented entries

end

mutual

def entryDescriptions (selection : Selection) (indent : Text) : SymbolEntry → List Text
  | entry@(.mk kind _ _ _ docstring members children) =>
      let within := descriptions selection (indent ++ Document.step) children
      if selection.showsSymbol entry then
        ((DocComment.markup (kind != "fun") docstring).map (indent ++ ·)).map (indent ++ ·) ++
          if selection.members && members.isSome then within else []
      else []

def descriptions (selection : Selection) (indent : Text) : List SymbolEntry → List Text
  | [] => []
  | entry :: entries =>
      entryDescriptions selection indent entry ++ descriptions selection indent entries

end

theorem documentedEntry_eq (entry : SymbolEntry) :
    documentedEntry entry = .mk entry.kind entry.scope entry.name entry.type entry.docstring
      (entry.members.map documentedMembers) (documented entry.children) := by
  cases entry
  rw [documentedEntry]
  rfl

section

variable (selection : Selection) (indent : Text)

theorem entryDescriptions_eq (entry : SymbolEntry) :
    entryDescriptions selection indent entry =
      if selection.showsSymbol entry then
        ((DocComment.markup (entry.kind != "fun") entry.docstring).map (indent ++ ·)).map (indent ++ ·) ++
          if selection.members && entry.members.isSome then
            descriptions selection (indent ++ Document.step) entry.children
          else []
      else [] := by
  cases entry
  rw [entryDescriptions]
  rfl

theorem memberLines_documentedMembers (members : List MemberEntry) :
    Document.memberLines { selection with undocumented := true } indent
        (documentedMembers members) =
      Document.memberLines { selection with undocumented := false } indent members := by
  have kept : (documentedMembers members).filter { selection with undocumented := true }.showsMember =
      members.filter { selection with undocumented := false }.showsMember := by
    unfold documentedMembers
    rw [List.filter_filter]
    apply List.filter_congr
    intro member _
    simp [Selection.showsMember, Selection.showsScope, Bool.and_comm]
  unfold Document.memberLines
  rw [kept]
  rfl

theorem showsSymbol_documentedEntry {entry : SymbolEntry} (filled : entry.docstring.isEmpty = false) :
    { selection with undocumented := true }.showsSymbol (documentedEntry entry) =
      { selection with undocumented := false }.showsSymbol entry := by
  rw [documentedEntry_eq, Selection.showsSymbol, Selection.showsSymbol, filled]
  rfl

theorem directive_interleaved (entry : SymbolEntry) :
    Interleaved
      (((documentedEntry entry).directive
        ({ selection with undocumented := true }.symbolStyle indent)).map (indent ++ ·))
      (((DocComment.markup (entry.kind != "fun") entry.docstring).map (indent ++ ·)).map (indent ++ ·))
      ((entry.directive ({ selection with undocumented := false }.symbolStyle indent)).map
        (indent ++ ·)) := by
  have both := (Interleaved.of_left ((Directive.opening entry.kind entry.signature ::
    Directive.options indent selection.noIndex).map (indent ++ ·))).append
    (.of_right (((DocComment.markup (entry.kind != "fun") entry.docstring).map (indent ++ ·)).map
      (indent ++ ·)))
  have without : (documentedEntry entry).directive
      ({ selection with undocumented := true }.symbolStyle indent) =
      Directive.opening entry.kind entry.signature :: Directive.options indent selection.noIndex := by
    rw [documentedEntry_eq]
    exact List.append_nil _
  rw [List.append_nil, ← List.map_append] at both
  rw [without]
  exact both

theorem inner_interleaved {entry : SymbolEntry} {within : List Text}
    (inside : Interleaved
      (Document.lines { selection with undocumented := true } (indent ++ Document.step)
        (documented entry.children)) within
      (Document.lines { selection with undocumented := false } (indent ++ Document.step)
        entry.children)) :
    Interleaved
      (Document.inner { selection with undocumented := true } indent (documentedEntry entry))
      (if entry.members.isSome then within else [])
      (Document.inner { selection with undocumented := false } indent entry) := by
  rw [documentedEntry_eq]
  show Interleaved (Document.within _ indent (entry.members.map documentedMembers)
    (Document.lines _ _ (documented entry.children))) _ _
  unfold Document.inner
  cases entry.members with
  | none => exact .nil
  | some members =>
      have own := Interleaved.of_left
        (Document.memberLines { selection with undocumented := false } indent members)
      simpa [Document.within, memberLines_documentedMembers] using own.append inside

theorem entryLines_interleaved {entry : SymbolEntry} (filled : entry.docstring.isEmpty = false)
    (inside : ∀ indent, Interleaved
      (Document.lines { selection with undocumented := true } indent (documented entry.children))
      (descriptions { selection with undocumented := false } indent entry.children)
      (Document.lines { selection with undocumented := false } indent entry.children)) :
    Interleaved
      (Document.entryLines { selection with undocumented := true } indent (documentedEntry entry))
      (entryDescriptions { selection with undocumented := false } indent entry)
      (Document.entryLines { selection with undocumented := false } indent entry) := by
  rw [entryLines_eq, entryLines_eq, entryDescriptions_eq, showsSymbol_documentedEntry selection filled]
  split
  · have directive := directive_interleaved selection indent entry
    have ending := Interleaved.of_left [([] : Text)]
    cases shown : selection.members with
    | true =>
        have inner := inner_interleaved selection indent (inside (indent ++ Document.step))
        simpa [shown] using (directive.append inner).append ending
    | false => simpa [shown] using directive.append ending
  · exact .nil

theorem lines_interleaved (entries : List SymbolEntry) :
    Interleaved
      (Document.lines { selection with undocumented := true } indent (documented entries))
      (descriptions { selection with undocumented := false } indent entries)
      (Document.lines { selection with undocumented := false } indent entries) := by
  induction entries using forest_induction generalizing indent with
  | nil =>
      rw [documented, Document.lines, Document.lines, descriptions]
      exact .nil
  | cons entry entries inside rest =>
      rw [documented, descriptions, Document.lines.eq_2]
      split
      · rename_i empty
        have hidden : { selection with undocumented := false }.showsSymbol entry = false := by
          simp [Selection.showsSymbol, empty]
        rw [entryLines_eq, entryDescriptions_eq, hidden]
        exact rest indent
      · rename_i filled
        rw [Document.lines]
        exact (entryLines_interleaved selection indent (eq_false_of_ne_true filled) inside).append
          (rest indent)

theorem memberLines_sublist {kept members : List MemberEntry} (inside : kept.Sublist members) :
    (Document.memberLines selection indent kept).Sublist
      (Document.memberLines selection indent members) :=
  (inside.filter _).flatMap _

theorem entryLines_sublist {entry : SymbolEntry}
    (inside : ∀ indent, (Document.lines { selection with undocumented := true } indent
      (documented entry.children)).Sublist
      (Document.lines { selection with undocumented := true } indent entry.children)) :
    (Document.entryLines { selection with undocumented := true } indent (documentedEntry entry)).Sublist
      (Document.entryLines { selection with undocumented := true } indent entry) := by
  have inner : (Document.inner { selection with undocumented := true } indent
      (documentedEntry entry)).Sublist
      (Document.inner { selection with undocumented := true } indent entry) := by
    rw [documentedEntry_eq]
    show (Document.within _ indent (entry.members.map documentedMembers)
      (Document.lines _ _ (documented entry.children))).Sublist _
    unfold Document.inner
    cases entry.members with
    | none => exact List.Sublist.refl []
    | some members =>
        exact (memberLines_sublist _ indent List.filter_sublist).append (inside _)
  have shows : { selection with undocumented := true }.showsSymbol (documentedEntry entry) =
      { selection with undocumented := true }.showsSymbol entry := by
    rw [documentedEntry_eq]
    rfl
  have directive : (documentedEntry entry).directive
      ({ selection with undocumented := true }.symbolStyle indent) =
      entry.directive ({ selection with undocumented := true }.symbolStyle indent) := by
    rw [documentedEntry_eq]
    rfl
  rw [entryLines_eq, entryLines_eq, shows, directive]
  split
  · refine ((List.Sublist.refl _).append ?_).append (List.Sublist.refl _)
    split
    · exact inner
    · exact List.Sublist.refl []
  · exact List.Sublist.refl []

theorem lines_documented_sublist (entries : List SymbolEntry) :
    (Document.lines { selection with undocumented := true } indent (documented entries)).Sublist
      (Document.lines { selection with undocumented := true } indent entries) := by
  induction entries using forest_induction generalizing indent with
  | nil =>
      rw [documented]
  | cons entry entries inside rest =>
      rw [documented, Document.lines.eq_2]
      split
      · exact (rest indent).trans (List.sublist_append_right _ _)
      · rw [Document.lines]
        exact (entryLines_sublist selection indent inside).append (rest indent)

end

/-- A document without undocumented entries has the lines of the documented ones and the
descriptions of its symbols, in their places; with undocumented entries it has the former and not
the latter. So nothing is lost if the symbols have no description, and, where no entry lacks
documentation, only then. -/
theorem undocumented_only_adds_iff {records : List SymbolRecord} {entries : List SymbolEntry}
    (items : Items records entries) (selection : Selection) (indent : Text) :
    ∃ page larger,
      SymbolRecord.document { selection with undocumented := false } indent records = .ok page ∧
      SymbolRecord.document { selection with undocumented := true } indent records = .ok larger ∧
      Interleaved
        (Document.lines { selection with undocumented := true } indent (documented entries))
        (descriptions { selection with undocumented := false } indent entries) page ∧
      (Document.lines { selection with undocumented := true } indent (documented entries)).Sublist
        larger ∧
      (descriptions { selection with undocumented := false } indent entries = [] →
        page.Sublist larger) ∧
      (documented entries = entries →
        (page.Sublist larger ↔
          descriptions { selection with undocumented := false } indent entries = [])) := by
  have both := lines_interleaved selection indent entries
  have added := lines_documented_sublist selection indent entries
  refine ⟨_, _, document_of_reads items.reads indent, document_of_reads items.reads indent, both,
    added, fun none => ?_, fun all => ?_⟩
  · exact (both.sublist_iff.mpr none).trans added
  · rw [all] at both
    exact both.sublist_iff

def described : SymbolEntry :=
  .mk "class" "public" "A" none [" * Doc.", " "] none []

def describedRecords : List SymbolRecord :=
  [.mk (some "class") (some "public") (some "A") (some none) (some [" * Doc.", " "]) none (some [])]

theorem undocumented_only_adds_iff_described :
    Items describedRecords [described] ∧ documented [described] = [described] ∧
      ∃ page larger, SymbolRecord.document {} "" describedRecords = .ok page ∧
        SymbolRecord.document { undocumented := true } "" describedRecords = .ok larger ∧
        "Doc.".toList ∈ descriptions {} "" [described] ∧ ¬ page.Sublist larger := by
  have items : Items describedRecords [described] :=
    @Items.cons described _ _ _ _ .none .nil .nil
  have all : documented [described] = [described] := rfl
  have lost : "Doc.".toList ∈ descriptions {} "" [described] := by decide
  obtain ⟨page, larger, first, second, -, -, -, only⟩ := undocumented_only_adds_iff items {} ""
  refine ⟨items, all, page, larger, first, second, lost, fun inside => ?_⟩
  rw [(only all).mp inside] at lost
  exact List.not_mem_nil lost

end KotlinDoc.Proofs.Page
