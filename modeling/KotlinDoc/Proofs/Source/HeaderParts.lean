import KotlinDoc.Proofs.Index.Declaration
import KotlinDoc.Proofs.Source.SymbolForms

namespace KotlinDoc.Proofs

theorem suffix_of_after? {word s rest : Text} (found : Text.after? word s = some rest) :
    rest <:+ s :=
  ⟨word, after?_eq_some.mp found⟩

theorem suffix_of_afterBlanks? {s rest : Text} (found : Text.afterBlanks? s = some rest) :
    rest <:+ s := by
  cases s with
  | nil => cases found
  | cons c s =>
      rw [Text.afterBlanks?] at found
      split at found
      · cases found
        exact (trimLeft_suffix s).trans (List.suffix_cons c s)
      · cases found

theorem suffix_of_spaced? {word s : Text} {found : Text × Text}
    (spaced : Word.spaced? word s = some found) : found.2 <:+ s := by
  obtain ⟨-, rfl⟩ := eq_append_of_spaced? spaced
  exact List.suffix_append _ _

theorem optional_suffix (words : List Text) (s : Text) : (Word.optional words s).2 <:+ s := by
  rcases optional_cases words s with same | ⟨word, -, found, spaced, same⟩
  · simp only [same, List.suffix_rfl]
  · rw [same]
    exact suffix_of_spaced? spaced

theorem suffix_of_phrase? {words : List Text} {s : Text} {found : Text × Text}
    (phrase : Word.phrase? words s = some found) : found.2 <:+ s := by
  induction words generalizing s found with
  | nil =>
      cases phrase
      exact List.suffix_rfl
  | cons word words ih =>
      cases words with
      | nil =>
          obtain ⟨rest, after, rfl⟩ := Option.map_eq_some_iff.mp phrase
          exact suffix_of_after? after
      | cons next more =>
          simp only [Word.phrase?, bind, Option.bind_eq_some_iff] at phrase
          obtain ⟨first, spaced, second, later, made⟩ := phrase
          cases made
          exact (ih later).trans (suffix_of_spaced? spaced)

theorem dotted?_eq_append {s name rest : Text} (read : Word.dotted? s = some (name, rest)) :
    s = name ++ rest := by
  induction s generalizing name with
  | nil => cases read
  | cons c s ih =>
      rw [Word.dotted?] at read
      split at read
      · split at read
        · rename_i longer after more
          cases read
          rw [ih more]
          rfl
        · split at read
          · cases read
            rfl
          · cases read
      · cases read

theorem dottedIdentifier?_eq_append {s name rest : Text}
    (read : Word.dottedIdentifier? s = some (name, rest)) : s = name ++ rest := by
  cases s with
  | nil => cases read
  | cons c s =>
      rw [Word.dottedIdentifier?] at read
      split at read
      · exact dotted?_eq_append read
      · cases read

theorem isPrefix_beforeBrace (s : Text) : Header.beforeBrace s <+: s :=
  List.takeWhile_prefix _

theorem infix_of_named {s name rest line : Text} (named : s = name ++ rest) (inside : s <:+ line) :
    name <:+: line ∧ Header.beforeBrace rest <:+: line := by
  rw [named] at inside
  refine ⟨(List.prefix_append name rest).isInfix.trans inside.isInfix, ?_⟩
  exact (isPrefix_beforeBrace rest).isInfix.trans
    ((List.suffix_append name rest).trans inside).isInfix

theorem infix_of_function {line after : Text} {header : FunctionHeader}
    (parsed : FunctionHeader.parse? line = some (header, after)) :
    header.name <:+: line ∧ header.rest <:+: line := by
  simp only [FunctionHeader.parse?, bind, Option.bind_eq_some_iff] at parsed
  obtain ⟨⟨written, s⟩, spaced, ⟨name, rest⟩, read, made⟩ := parsed
  cases made
  apply infix_of_named (dottedIdentifier?_eq_append read)
  have start : s <:+ line := (suffix_of_spaced? spaced).trans
    ((optional_suffix _ _).trans (trimLeft_suffix line))
  refine (trimLeft_suffix _).trans (List.IsSuffix.trans ?_ start)
  cases template : Text.after? "<T>" s with
  | none => exact List.suffix_rfl
  | some rest => exact suffix_of_after? template

theorem infix_of_initial {line after : Text} {header : InitialHeader}
    (parsed : InitialHeader.parse? line = some (header, after)) : header.rest <:+: line := by
  simp only [InitialHeader.parse?, bind, Option.bind_eq_some_iff] at parsed
  obtain ⟨⟨word, s⟩, found, made⟩ := parsed
  cases made
  obtain ⟨other, -, tried⟩ := List.exists_of_findSome?_eq_some found
  obtain ⟨rest, start, same⟩ := Option.map_eq_some_iff.mp tried
  cases same
  refine (isPrefix_beforeBrace _).isInfix.trans (List.IsSuffix.isInfix ?_)
  exact (trimLeft_suffix _).trans ((suffix_of_after? start).trans
    ((optional_suffix _ _).trans (trimLeft_suffix line)))

theorem infix_of_property {line after : Text} {header : PropertyHeader}
    (parsed : PropertyHeader.parse? line = some (header, after)) :
    header.name <:+: line ∧ header.rest <:+: line := by
  simp only [PropertyHeader.parse?, bind, Option.bind_eq_some_iff] at parsed
  obtain ⟨⟨keyword, s⟩, found, ⟨name, rest⟩, read, made⟩ := parsed
  obtain ⟨word, -, spaced⟩ := List.exists_of_findSome?_eq_some found
  have start : s <:+ line := (suffix_of_spaced? spaced).trans
    ((optional_suffix _ _).trans (trimLeft_suffix line))
  have parts := infix_of_named (identifier?_eq_some_iff.mp read).2.1 start
  dsimp only at made
  split at made <;> cases made <;> exact parts

theorem infix_of_entry {line after : Text} {header : EntryHeader}
    (parsed : EntryHeader.parse? line = some (header, after)) : header.name <:+: line := by
  simp only [EntryHeader.parse?, bind, Option.bind_eq_some_iff] at parsed
  obtain ⟨⟨written, s⟩, spaced, ⟨name, rest⟩, read, made⟩ := parsed
  have start : s <:+ line := (suffix_of_spaced? spaced).trans (trimLeft_suffix line)
  have parts := infix_of_named (identifier?_eq_some_iff.mp read).2.1 start
  dsimp only at made
  split at made <;> cases made <;> exact parts.1

theorem parts_of_symbol {form : SymbolForm} {line after : Text} {header : SymbolHeader}
    (parsed : SymbolHeader.parse? form line = some (header, after)) :
    Named false header.name ∧ ∀ type ∈ header.type, type <:+: line := by
  unfold SymbolHeader.parse? SymbolHeader.parseNamed? at parsed
  simp only [bind, Option.bind_eq_some_iff, Prod.exists] at parsed
  obtain ⟨keyword, s, kind, found, t, blanks, named⟩ := parsed
  obtain ⟨⟨words, own⟩, -, tried⟩ := List.exists_of_findSome?_eq_some found
  obtain ⟨read, phrase, same⟩ := Option.map_eq_some_iff.mp tried
  cases same
  have start : t <:+ line := (suffix_of_afterBlanks? blanks).trans
    ((suffix_of_phrase? phrase).trans ((optional_suffix _ _).trans
      ((optional_suffix _ _).trans (trimLeft_suffix line))))
  split at named
  · obtain ⟨⟨name, rest⟩, identified, made⟩ := Option.bind_eq_some_iff.mp named
    obtain ⟨letters, whole, -⟩ := identifier?_eq_some_iff.mp identified
    have left : rest <:+ line := (whole ▸ List.suffix_append name rest).trans start
    dsimp only at made
    split at made
    · rename_i type colon
      cases made
      refine ⟨letters, fun written own => ?_⟩
      cases own
      obtain ⟨behind, after, same⟩ := Option.map_eq_some_iff.mp colon
      cases same
      refine (isPrefix_beforeBrace _).isInfix.trans (List.IsSuffix.isInfix ?_)
      exact (trimLeft_suffix _).trans ((suffix_of_after? after).trans
        ((trimLeft_suffix rest).trans left))
    · cases made
      exact ⟨letters, nofun⟩
  · cases named

end KotlinDoc.Proofs
