import KotlinDoc.Proofs.Index.OwnText
import KotlinDoc.Proofs.Index.Prose
import KotlinDoc.Proofs.Source.ClassForms
import KotlinDoc.Proofs.Source.HeaderReading
import KotlinDoc.Proofs.Source.LineComments

namespace KotlinDoc.Proofs

/-! ## Entries -/

structure TrailingDoc where
  gap : Text
  inner : Text
  blank : Blanks gap
  enclosable : Enclosable inner
  shown : Text.trim inner ≠ Member.suppression

structure EnumEntry where
  name : Text
  value : Option Text
  comma : Bool
  doc : Option TrailingDoc
  named : Named false name
  worded : ∀ word ∈ value, ∀ c ∈ word, isAsciiWord c = true

namespace EnumEntry

variable (entry : EnumEntry)

def suffix : Text :=
  (entry.value.map enclosed).getD [] ++ if entry.comma then [','] else []

def item : Text :=
  entry.name ++ entry.suffix

def gap : Text :=
  (entry.doc.map TrailingDoc.gap).getD []

def comment : Text :=
  (entry.doc.map fun doc => blockComment ('*' :: '<' :: doc.inner)).getD []

def text : Text :=
  entry.item ++ entry.gap ++ entry.comment

def docstring : List Text :=
  (entry.doc.map fun doc => Text.trim doc.inner).toList

def member (line : Int) (raw : Text) : Member where
  visibility := .everyone
  line := line
  kind := .entry
  name := entry.name
  docstring := entry.docstring
  rest := none
  origin := .body (entry.value.filter fun word => !word.isEmpty)
  raw := raw

theorem item_chars : ∀ c ∈ entry.item, isAsciiWord c = true ∨ c ∈ ("()," : Text) := by
  intro c member
  rcases List.mem_append.mp member with name | suffix
  · exact .inl (entry.named.word c name)
  · rcases List.mem_append.mp suffix with value | comma
    · cases present : entry.value with
      | none => simp [present] at value
      | some word =>
          have inside : c = '(' ∨ c ∈ word ∨ c = ')' := by simpa [present, enclosed] using value
          rcases inside with rfl | letter | rfl
          · exact .inr (by decide)
          · exact .inl (entry.worded word present c letter)
          · exact .inr (by decide)
    · obtain ⟨-, rfl⟩ : entry.comma = true ∧ c = ',' := by simpa using comma
      exact .inr (by decide)

theorem item_solid : Solid entry.item := by
  intro c member
  rcases entry.item_chars c member with word | mark
  · exact isBlank_of_isWord (isWord_of_isAsciiWord word)
  · have solid : Solid "()," := by decide
    exact solid c mark

theorem item_notMem {c : Char} (mark : c ∈ ("\"*/\x7b\x7d" : Text)) : c ∉ entry.item := by
  have marks : ("\"*/\x7b\x7d" : Text).all
      (fun c => !isAsciiWord c && !("()," : Text).contains c) = true := by decide
  have other := List.all_eq_true.mp marks c mark
  simp only [Bool.and_eq_true, Bool.not_eq_true', List.contains_eq_mem, decide_eq_false_iff_not] at other
  intro member
  rcases entry.item_chars c member with word | own
  · simp [other.1] at word
  · exact other.2 own

theorem item_balanced : entry.item.count '(' = entry.item.count ')' := by
  have worded {s : Text} (word : ∀ c ∈ s, isAsciiWord c = true) : s.count '(' = 0 ∧ s.count ')' = 0 := by
    constructor <;> exact List.count_eq_zero.mpr fun member => by cases word _ member
  have name := worded entry.named.word
  have comma : (if entry.comma then [','] else []).count '(' = 0 ∧
      (if entry.comma then [','] else []).count ')' = 0 := by
    cases entry.comma <;> decide
  unfold item suffix
  cases present : entry.value with
  | none => simp [name, comma]
  | some word => simp [enclosed, name, comma, worded (entry.worded word present)]

theorem blank_gap : Blanks entry.gap := by
  unfold gap
  cases entry.doc with
  | none => exact fun _ member => absurd member List.not_mem_nil
  | some doc => exact doc.blank

theorem remark_comment : Remark entry.comment := by
  unfold comment
  cases entry.doc with
  | none => exact .none
  | some doc =>
      refine .comment (List.forall_mem_cons.mpr ⟨by decide, List.forall_mem_cons.mpr ⟨by decide, ?_⟩⟩)
      exact doc.enclosable

end EnumEntry

/-! ## Reading an entry -/

theorem marked_eq (line : Text) : marked line = marked [] ++ line :=
  rfl

theorem marked_append (s t : Text) : marked (s ++ t) = marked s ++ t :=
  (List.append_assoc _ s t).symm

theorem trimRight_marked {line : Text} (filled : Text.trim line ≠ []) :
    ∃ indent, Blanks indent ∧ Text.trimRight (marked line) = marked (indent ++ Text.trim line) :=
  trimRight_append_line (marked []) filled

theorem marked_notMem {indent : Text} (indented : Blanks indent) {c : Char} (solid : isBlank c = false)
    (other : c ∉ marked []) : c ∉ marked indent := by
  rw [marked_eq, List.mem_append, not_or]
  exact ⟨other, notMem_of_blanks indented solid⟩

theorem marked_plain {indent : Text} (indented : Blanks indent) :
    ∀ c ∈ ("\"/()\x7b\x7d" : Text), c ∉ marked indent := by
  intro c mark
  have solids : Solid "\"/()\x7b\x7d" := by decide
  have apart : ("\"/()\x7b\x7d" : Text).all (fun c => !(marked []).contains c) = true := by decide
  have other := List.all_eq_true.mp apart c mark
  refine marked_notMem indented (solids c mark) fun member => ?_
  rw [List.contains_iff_mem.mpr member] at other
  cases other

theorem value?_enclosed {word : Text} (worded : ∀ c ∈ word, isAsciiWord c = true) (more : Text) :
    EntryHeader.value? (enclosed word ++ more) = some (word, Text.trimLeft more) := by
  have stop : ∀ c ∈ (')' :: more).head?, isAsciiWord c = false := by
    rintro _ ⟨⟩
    decide
  have solid : ∀ c ∈ (word ++ ')' :: more).head?, isBlank c = false := by
    intro c first
    cases word with
    | nil =>
        cases first
        decide
    | cons d word =>
        cases first
        exact isBlank_of_isWord (isWord_of_isAsciiWord (worded _ List.mem_cons_self))
  have shape : enclosed word ++ more = '(' :: (word ++ ')' :: more) := by simp [enclosed]
  have opening : Text.after? "(" ('(' :: (word ++ ')' :: more)) = some (word ++ ')' :: more) := rfl
  have closing : Text.after? ")" (')' :: more) = some more := rfl
  rw [shape, EntryHeader.value?, trimLeft_cons (by decide), opening]
  simp only [Option.bind_eq_bind, Option.bind_some, trimLeft_eq_self solid,
    takeWhile_append_stop worded stop, dropWhile_append_stop worded stop]
  rw [trimLeft_cons (by decide), closing]
  rfl

theorem value?_eq_none {s : Text} (other : ∀ c ∈ (Text.trimLeft s).head?, c ≠ '(') :
    EntryHeader.value? s = none := by
  have missing : Text.after? "(" (Text.trimLeft s) = none := by
    cases start : Text.trimLeft s with
    | nil => rfl
    | cons c t =>
        have different := other c (by simp [start])
        simp [Text.after?, List.isPrefixOf?, different.symm]
  rw [EntryHeader.value?, missing]
  rfl

theorem inlineDoc?_comment {front inner : Text} (noStar : '*' ∉ front) (noSlash : '/' ∉ front)
    (enclosable : Enclosable inner) :
    Member.inlineDoc? (front ++ blockComment ('*' :: '<' :: inner)) = some (Text.trim inner) := by
  have start : Text.find? ('/' :: "**<") (front ++ blockComment ('*' :: '<' :: inner)) =
      some front.length := by
    rw [find?_append noSlash]
    simp [blockComment, Text.find?, List.isPrefixOf]
  have stop : Text.find? ('*' :: "/") (front ++ blockComment ('*' :: '<' :: inner)) =
      some (front.length + (inner.length + 4)) := by
    have open_ : '/' ∉ '*' :: '*' :: '<' :: inner := by simp [enclosable.noSlash]
    -- The first slash belongs to the start of the comment, so it is passed before the end is looked for.
    have split : front ++ blockComment ('*' :: '<' :: inner) =
        front ++ ['/'] ++ ('*' :: '*' :: '<' :: inner ++ ['*', '/']) := by simp [blockComment]
    have close : Text.find? ('*' :: "/") ('*' :: '*' :: '<' :: inner ++ ['*', '/']) = _ :=
      find?_close open_
    rw [split, find?_append (by simp [noStar]), close, Option.map_some, List.length_append]
    simp only [List.length_cons, List.length_nil]
    congr 1
    omega
  have split : front ++ blockComment ('*' :: '<' :: inner) =
      (front ++ ['/', '*', '*', '<']) ++ inner ++ ['*', '/'] := by simp [blockComment]
  have length : (front ++ ['/', '*', '*', '<'] ++ inner).length = front.length + (inner.length + 4) := by
    simp
  have opening : (front ++ ['/', '*', '*', '<']).length = front.length + 4 := by simp
  show (Text.find? ('/' :: "**<") _).map _ = _
  rw [start, Option.map_some]
  show some (Text.trim ((List.take ((Text.find? ('*' :: "/") _).getD _) _).drop _)) = _
  rw [stop, Option.getD_some, split, ← length, List.take_left, ← opening, List.drop_left]

namespace EnumEntry

variable (entry : EnumEntry)

theorem inlineDoc?_text {lead : Text} (noStar : '*' ∉ lead) (noSlash : '/' ∉ lead) :
    Member.inlineDoc? (lead ++ entry.text) = entry.doc.map fun doc => Text.trim doc.inner := by
  have notMem {c : Char} (mark : c ∈ ("*/" : Text)) (other : c ∉ lead) :
      c ∉ lead ++ (entry.item ++ entry.gap) := by
    have solids : Solid "*/" := by decide
    have marks : ("*/" : Text) ⊆ ("\"*/\x7b\x7d" : Text) := by decide
    have gap := notMem_of_blanks entry.blank_gap (solids c mark)
    have item := entry.item_notMem (marks mark)
    rw [List.mem_append, List.mem_append, not_or, not_or]
    exact ⟨other, item, gap⟩
  have front := notMem (by decide) noSlash
  unfold text
  rw [← List.append_assoc lead]
  unfold comment
  cases present : entry.doc with
  | none =>
      have missing : Text.find? ('/' :: "**<") (lead ++ (entry.item ++ entry.gap) ++ []) = none :=
        find?_eq_none (by simpa using front)
      exact congrArg (Option.map _) missing
  | some doc => exact inlineDoc?_comment (notMem (by decide) noStar) front doc.enclosable

theorem head_comment : ∀ c ∈ entry.comment.head?, c = '/' := by
  unfold comment
  cases entry.doc with
  | none => simp
  | some doc =>
      rintro _ ⟨⟩
      rfl

theorem ended : ∀ c ∈ (entry.suffix ++ (entry.gap ++ entry.comment)).head?, isWord c = false := by
  have tail : ∀ c ∈ (entry.gap ++ entry.comment).head?, isWord c = false := by
    intro c first
    rw [List.head?_append] at first
    rcases Option.or_eq_some_iff.mp first with gap | ⟨-, comment⟩
    · have blank := entry.blank_gap c (List.mem_of_mem_head? gap)
      cases word : isWord c with
      | false => rfl
      | true => rw [isBlank_of_isWord word] at blank; cases blank
    · rw [entry.head_comment c comment]
      decide
  unfold suffix
  cases entry.value with
  | some word =>
      rintro _ ⟨⟩
      decide
  | none =>
      cases entry.comma with
      | true =>
          rintro _ ⟨⟩
          decide
      | false => exact tail

theorem value?_suffix :
    ∃ rest, EntryHeader.value? (entry.suffix ++ (entry.gap ++ entry.comment)) =
      entry.value.map fun word => (word, rest) := by
  unfold suffix
  cases present : entry.value with
  | some word =>
      have read := value?_enclosed (entry.worded word present)
        ((if entry.comma then [','] else []) ++ (entry.gap ++ entry.comment))
      rw [← List.append_assoc] at read
      exact ⟨_, read⟩
  | none =>
      refine ⟨[], value?_eq_none ?_⟩
      cases entry.comma with
      | true =>
          show ∀ c ∈ (Text.trimLeft (',' :: (entry.gap ++ entry.comment))).head?, c ≠ '('
          rw [trimLeft_cons (by decide)]
          rintro _ ⟨⟩
          decide
      | false =>
          have start := trimLeft_eq_self fun c first => by
            rw [entry.head_comment c first]
            decide
          show ∀ c ∈ (Text.trimLeft (entry.gap ++ entry.comment)).head?, c ≠ '('
          rw [trimLeft_append entry.blank_gap, start]
          intro c first
          rw [entry.head_comment c first]
          decide

theorem parse?_text {indent : Text} (indented : Blanks indent) :
    ∃ rest, EntryHeader.parse? (marked (indent ++ entry.text)) =
      some (⟨entry.name, entry.value⟩, rest) := by
  have split : ' ' :: (indent ++ entry.text) =
      (' ' :: indent) ++ (entry.name ++ (entry.suffix ++ (entry.gap ++ entry.comment))) := by
    simp [text, item]
  have shape : marked (indent ++ entry.text) =
      "case:" ++ ((' ' :: indent) ++ (entry.name ++ (entry.suffix ++ (entry.gap ++ entry.comment)))) :=
    congrArg ("case:".toList ++ ·) split
  have gap : Blanks (' ' :: indent) := List.forall_mem_cons.mpr ⟨by decide, indented⟩
  have spaced := spaced?_append "case:" gap (by simp)
    (entry.named.solid (entry.suffix ++ (entry.gap ++ entry.comment)))
  have start : Text.trimLeft (marked (indent ++ entry.text)) = marked (indent ++ entry.text) :=
    trimLeft_cons (by decide) _
  obtain ⟨rest, value⟩ := entry.value?_suffix
  rw [EntryHeader.parse?, start, shape, spaced]
  simp only [Option.bind_eq_bind, Option.bind_some, identifier?_append entry.named entry.ended, value]
  cases entry.value with
  | none => exact ⟨_, rfl⟩
  | some word => exact ⟨_, rfl⟩

theorem value_trimmed : entry.value.bind trimmed? = entry.value.filter fun word => !word.isEmpty := by
  cases present : entry.value with
  | none => rfl
  | some word =>
      have solid : Solid word := fun c member =>
        isBlank_of_isWord (isWord_of_isAsciiWord (entry.worded word present c member))
      cases word with
      | nil => rfl
      | cons c word => exact congrArg some (trim_solid solid)

theorem docstring_shown : entry.docstring.contains Member.suppression = false := by
  unfold docstring
  cases entry.doc with
  | none => rfl
  | some doc => simpa using doc.shown.symm

theorem ofLine_text {indent : Text} (indented : Blanks indent) (nesting : Member.Nesting) (site : Site)
    (position : Int) :
    Member.ofLine true nesting site position (marked (indent ++ entry.text)) =
      [entry.member position (marked (indent ++ entry.text))] := by
  have doc := entry.inlineDoc?_text (marked_notMem indented (by decide) (by decide))
    (marked_notMem indented (by decide) (by decide))
  rw [← marked_append] at doc
  obtain ⟨rest, parsed⟩ := entry.parse?_text indented
  have docstring : Member.docstringAt true site (marked (indent ++ entry.text)) = entry.docstring := by
    rw [Member.docstringAt, doc, EnumEntry.docstring]
    cases entry.doc <;> rfl
  have headers : MemberHeader.ofLine true (marked (indent ++ entry.text)) =
      [.entry ⟨entry.name, entry.value⟩] := by
    simp [MemberHeader.ofLine, parsed]
  rw [Member.ofLine, docstring, entry.docstring_shown, headers]
  simp only [Bool.false_eq_true, if_false, List.flatMap_singleton]
  rw [member, ← entry.value_trimmed]
  rfl

end EnumEntry

/-! ## Lines of a body -/

inductive EnumContent where
  | blank
  | comment (inner : Text) (enclosable : Enclosable inner)
      (starts : Text.startsWith "/**" (blockComment inner) = true)
  | entry (own : EnumEntry)

namespace EnumContent

def item : EnumContent → Text
  | .entry own => own.item
  | _ => []

def gap : EnumContent → Text
  | .entry own => own.gap
  | _ => []

def remark : EnumContent → Text
  | .blank => []
  | .comment inner _ _ => blockComment inner
  | .entry own => own.comment

def text (content : EnumContent) : Text :=
  content.item ++ content.gap ++ content.remark

def isComment : EnumContent → Bool
  | .comment .. => true
  | _ => false

variable (content : EnumContent)

theorem item_solid : Solid content.item := by
  cases content with
  | entry own => exact own.item_solid
  | _ => exact fun _ member => absurd member List.not_mem_nil

theorem item_notMem {c : Char} (mark : c ∈ ("\"*/\x7b\x7d" : Text)) : c ∉ content.item := by
  cases content with
  | entry own => exact own.item_notMem mark
  | _ => exact List.not_mem_nil

theorem item_balanced : content.item.count '(' = content.item.count ')' := by
  cases content with
  | entry own => exact own.item_balanced
  | _ => rfl

theorem blank_gap : Blanks content.gap := by
  cases content with
  | entry own => exact own.blank_gap
  | _ => exact fun _ member => absurd member List.not_mem_nil

theorem isRemark : Remark content.remark := by
  cases content with
  | blank => exact .none
  | comment inner enclosable => exact .comment enclosable
  | entry own => exact own.remark_comment

theorem front_notMem {c : Char} (mark : c ∈ ("\"*/\x7b\x7d" : Text)) :
    c ∉ content.item ++ content.gap := by
  have solids : Solid "\"*/\x7b\x7d" := by decide
  rw [List.mem_append, not_or]
  exact ⟨content.item_notMem mark, notMem_of_blanks content.blank_gap (solids c mark)⟩

theorem commentExcess_text : Source.commentExcess content.text = 0 :=
  content.isRemark.commentExcess_eq (content.front_notMem (by decide))
    (content.front_notMem (by decide))

theorem hasStopWord_text : Source.hasStopWord content.text = false :=
  content.isRemark.hasStopWord_eq content.item_solid (content.item_notMem (by decide))
    content.blank_gap

theorem startsWith_text : Text.startsWith "/**" content.text = content.isComment := by
  cases content with
  | blank => rfl
  | comment inner enclosable starts => exact starts
  | entry own =>
      obtain ⟨c, first, initial⟩ := own.named.starts
      have other : c ≠ '/' := by
        rintro rfl
        cases initial
      obtain ⟨rest, name⟩ := List.head?_eq_some_iff.mp first
      simp [text, item, EnumEntry.item, name, isComment, Text.startsWith, List.isPrefixOf, other.symm]

theorem level_text {lead : Text} (plain : ∀ c ∈ ("\"/()\x7b\x7d" : Text), c ∉ lead) :
    Level true (lead ++ content.text) := by
  have front {c : Char} (mark : c ∈ ("\"*/\x7b\x7d" : Text)) (other : c ∉ lead) :
      c ∉ lead ++ (content.item ++ content.gap) := by
    rw [List.mem_append, not_or]
    exact ⟨other, content.front_notMem mark⟩
  have excess (opening closing : Char) : Source.excess opening closing (lead ++ content.text) =
      ((lead ++ (content.item ++ content.gap)).count opening : Int) -
        (lead ++ (content.item ++ content.gap)).count closing := by
    unfold text
    rw [← List.append_assoc lead]
    exact content.isRemark.excess_eq (front (by decide) (plain '"' (by decide)))
      (front (by decide) (plain '/' (by decide))) opening closing
  have gap {c : Char} (solid : isBlank c = false) : content.gap.count c = 0 :=
    List.count_eq_zero.mpr (notMem_of_blanks content.blank_gap solid)
  refine ⟨?_, ?_, fun inClass => by cases inClass⟩
  · have lead : lead.count '(' = 0 ∧ lead.count ')' = 0 :=
      ⟨List.count_eq_zero.mpr (plain '(' (by decide)), List.count_eq_zero.mpr (plain ')' (by decide))⟩
    have gap : content.gap.count '(' = 0 ∧ content.gap.count ')' = 0 :=
      ⟨gap (by decide), gap (by decide)⟩
    rw [Source.parenExcess, excess]
    simp [lead, gap, content.item_balanced]
  · rw [Source.braceExcess, excess,
      List.count_eq_zero.mpr (front (by decide) (plain '{' (by decide))),
      List.count_eq_zero.mpr (front (by decide) (plain '}' (by decide)))]
    rfl

end EnumContent

theorem silent_marked_blank {line : Text} (blank : Text.trim line = []) :
    Silent true (Text.trimRight (marked line)) := by
  obtain ⟨front, back, first, last, whole⟩ := exists_blanks_trim line
  rw [blank, List.append_nil] at whole
  rw [marked_eq, whole, trimRight_append _ (List.forall_mem_append.mpr ⟨first, last⟩)]
  decide

theorem silent_comment {inner : Text} (enclosable : Enclosable inner)
    (starts : Text.startsWith "/**" (blockComment inner) = true) {line : Text}
    (written : Text.trim line = blockComment inner) : Silent true (Text.trimRight line) := by
  have filled : Text.trim line ≠ [] := by
    rw [written]
    exact List.cons_ne_nil _ _
  obtain ⟨indent, indented, read⟩ := trimRight_append_line [] filled
  rw [List.nil_append, List.nil_append, written] at read
  have solids : Solid "\"/()\x7b\x7d" := by decide
  have level : Level true (indent ++ blockComment inner) :=
    (EnumContent.comment inner enclosable starts).level_text
      fun c mark => notMem_of_blanks indented (solids c mark)
  have unmarked : EntryHeader.parse? (indent ++ blockComment inner) = none := by
    rw [EntryHeader.parse?, trimLeft_append indented]
    rfl
  rw [read]
  refine ⟨level, ?_⟩
  rw [MemberHeader.ofLine, unmarked]
  rfl

structure EnumLine where
  line : Text
  content : EnumContent
  written : Text.trim line = content.text

namespace EnumLine

variable (line : EnumLine)

def read : Text :=
  if line.content.isComment then line.line else marked line.line

def member? (number : Int) : Option Member :=
  match line.content with
  | .entry own => some (own.member number (Text.trimRight line.read))
  | _ => none

theorem markFrom_cons (lines : List Text) :
    EnumBody.markFrom 0 false (line.line :: lines) = line.read :: EnumBody.markFrom 0 false lines := by
  rw [EnumBody.markFrom]
  simp only [line.written, line.content.commentExcess_text, line.content.hasStopWord_text,
    line.content.startsWith_text]
  rfl

theorem scan_cons (position : Int) (above lines : List Text) :
    Member.scan true .start position 0 (Site.listBelow above (line.read :: lines)) =
      (line.member? position).toList ++
        Member.scan true .start (position + 1) 0 (Site.listBelow (line.read :: above) lines) := by
  obtain ⟨line, content, written⟩ := line
  cases content with
  | blank => exact scan_silent (silent_marked_blank written) within_start position above lines
  | comment inner enclosable starts =>
      exact scan_silent (silent_comment enclosable starts written) within_start position above lines
  | entry own =>
      have filled : Text.trim line ≠ [] := by
        obtain ⟨c, first, -⟩ := own.named.starts
        obtain ⟨rest, name⟩ := List.head?_eq_some_iff.mp first
        rw [written]
        simp [EnumContent.text, EnumContent.item, EnumEntry.item, name]
      obtain ⟨indent, indented, read⟩ := trimRight_marked filled
      rw [written] at read
      have level : Level true (Text.trimRight (marked line)) := by
        rw [read, marked_append]
        exact (EnumContent.entry own).level_text (marked_plain indented)
      show Member.scan true .start position 0 (Site.listBelow above (marked line :: lines)) =
        own.member position (Text.trimRight (marked line)) :: Member.scan true .start (position + 1) 0
          (Site.listBelow (marked line :: above) lines)
      rw [scan_level level, read]
      exact congrArg (· ++ _) (own.ofLine_text indented _ _ _)

end EnumLine

/-! ## Bodies -/

theorem scan_marked_closing {closing : Text} (closed : Text.trim closing = ['}']) (position : Int)
    (above after : List Text) :
    Member.scan true .start position 0
      (Site.listBelow above (EnumBody.markFrom 0 false (closing :: after))) = [] := by
  have quiet : Source.commentExcess ['}'] = 0 ∧ Source.hasStopWord ['}'] = false := by decide
  have marking : EnumBody.markFrom 0 false (closing :: after) =
      marked closing :: EnumBody.markFrom 0 false after := by
    rw [EnumBody.markFrom]
    simp only [closed, quiet]
    rfl
  have filled : Text.trim closing ≠ [] := by
    rw [closed]
    exact List.cons_ne_nil _ _
  obtain ⟨indent, indented, read⟩ := trimRight_marked filled
  rw [closed, marked_append] at read
  have plain := marked_plain indented
  have quote : '"' ∉ marked indent ++ ['}'] := by simp [plain '"' (by decide)]
  have slash : '/' ∉ marked indent ++ ['}'] := by simp [plain '/' (by decide)]
  have count {c : Char} (mark : c ∈ ("\"/()\x7b\x7d" : Text)) :
      (marked indent ++ ['}']).count c = ['}'].count c := by
    rw [List.count_append, List.count_eq_zero.mpr (plain c mark), Nat.zero_add]
  have parens : Source.parenExcess (Text.trimRight (marked closing)) = 0 := by
    rw [read, Source.parenExcess, excess_of_plain quote slash, count (by decide), count (by decide)]
    rfl
  have braces : Source.braceExcess (Text.trimRight (marked closing)) = -1 := by
    rw [read, Source.braceExcess, excess_of_plain quote slash, count (by decide), count (by decide)]
    rfl
  have ended : (Member.Nesting.start.after (Text.trimRight (marked closing))).braces ≤ 0 := by
    show 1 + Source.braceExcess _ ≤ 0
    rw [braces]
    decide
  rw [marking, scan_line, join_balanced parens, if_pos ended]

theorem scan_markFrom (body : List EnumLine) {closing : Text} (closed : Text.trim closing = ['}'])
    (after : List Text) (number : Nat) (above : List Text) :
    Member.scan true .start number 0
        (Site.listBelow above (EnumBody.markFrom 0 false (body.map EnumLine.line ++ closing :: after))) =
      (body.zipIdx number).filterMap fun line => line.1.member? line.2 := by
  -- No line of the body changes the state of marking or the nesting, so both stay as they start.
  induction body generalizing number above with
  | nil => exact scan_marked_closing closed number above after
  | cons line body ih =>
      have later := ih (number + 1) (line.read :: above)
      rw [List.map_cons, List.cons_append, line.markFrom_cons, line.scan_cons, List.zipIdx_cons,
        List.filterMap_cons]
      push_cast at later
      rw [later]
      cases line.member? number <;> rfl

/-- The members of an enum are its entries, in order, wherever it stands in a file. -/
theorem membersOf_enum (file : Text) {name : Text} (named : Named false name) (before : List Text)
    {line : Text} (written : Text.trim line = "enum class " ++ name ++ " \x7b") (body : List EnumLine)
    {closing : Text} (closed : Text.trim closing = ['}']) (after : List Text) :
    membersOf file (before ++ line :: (body.map EnumLine.line ++ closing :: after)) before.length =
      [some (body.zipIdx.filterMap fun line => line.1.member? line.2)] := by
  obtain ⟨indent, back, indented, -, whole⟩ := exists_blanks_trim line
  have ended : ∀ c ∈ (' ' :: '{' :: back).head?, isWord c = false := by
    rintro _ ⟨⟩
    decide
  have uncolon : SymbolHeader.afterColon? (' ' :: '{' :: back) = none := rfl
  have parsed := ClassWord.enum.parse?_line indented named ended uncolon rfl
  have same : indent ++ (ClassWord.enum.text ++ ' ' :: (name ++ ' ' :: '{' :: back)) = line := by
    have text : "enum class ".toList ++ name ++ " \x7b" =
        ClassWord.enum.text ++ ' ' :: (name ++ [' ', '{']) := rfl
    rw [whole, written, text]
    simp
  rw [same] at parsed
  have brace : '{' ∈ Text.trim line := by
    rw [written]
    exact List.mem_append_right _ (by decide)
  have opened := hasBody_of_brace brace (body.map EnumLine.line ++ closing :: after)
  have members := scan_markFrom body closed after 0 []
  rw [membersOf_append file before _ ClassWord.enum.form_ne_function parsed]
  simp only [KotlinDoc.Declaration.membersAt, line_listBelow, opened]
  exact congrArg (fun members => [some members]) members

def colorDoc : TrailingDoc where
  gap := " "
  inner := " fun \x7b "
  blank := space_blanks
  enclosable := by decide
  shown := by decide

def redEntry : EnumEntry where
  name := "RED"
  value := some "1"
  comma := true
  doc := some colorDoc
  named := by decide
  worded := by
    rintro _ ⟨⟩
    exact List.all_eq_true.mp (by decide)

def intervalEntry : EnumEntry where
  name := "interval"
  value := none
  comma := false
  doc := some colorDoc
  named := by decide
  worded := nofun

def colorBody : List EnumLine :=
  [⟨"  /** class */", .comment "* class " (by decide) (by decide), by decide⟩,
    ⟨"  RED(1), /**< fun \x7b */", .entry redEntry, by decide⟩,
    ⟨" ", .blank, by decide⟩,
    ⟨"  interval /**< fun \x7b */", .entry intervalEntry, by decide⟩]

theorem membersOf_enum_color :
    membersOf "Color.kt"
        (["package colors".toList] ++ "enum class Color \x7b".toList ::
          (["  /** class */".toList, "  RED(1), /**< fun \x7b */".toList, " ".toList,
            "  interval /**< fun \x7b */".toList] ++ "\x7d".toList :: ["RED".toList])) 1 =
      [some
        [{ visibility := .everyone
           line := 1
           kind := .entry
           name := "RED"
           docstring := ["fun \x7b"]
           rest := none
           origin := .body (some "1")
           raw := Text.trimRight (marked "  RED(1), /**< fun \x7b */") },
         { visibility := .everyone
           line := 3
           kind := .entry
           name := "interval"
           docstring := ["fun \x7b"]
           rest := none
           origin := .body none
           raw := Text.trimRight (marked "  interval /**< fun \x7b */") }]] := by
  have named : Named false "Color" := by decide
  have written : Text.trim "enum class Color \x7b" = "enum class ".toList ++ "Color" ++ " \x7b" := by
    decide
  have closed : Text.trim "\x7d" = ['}'] := by decide
  exact membersOf_enum "Color.kt" named ["package colors"] written colorBody closed ["RED"]

end KotlinDoc.Proofs
