import KotlinDoc.Page.Directive
import KotlinDoc.Proofs.Page.ConstructorReading
import KotlinDoc.Proofs.Text.Spacing

namespace KotlinDoc.Proofs

open Domain

def ClassSource.Has (source : ClassSource) (file : Text) (member : Member) : Prop :=
  ∃ members, source.members file = [some members] ∧ member ∈ members

def Announced (member : Member) : Prop :=
  ∀ style, (member.entry.directive style).head? =
    some (Directive.opening ObjectType.constructor.name member.entry.signature)

theorem IsConstructor.signature {member : Member} {raw rest : Text}
    (constructor : IsConstructor member raw rest) :
    member.entry.signature = "constructor" ++ rest := by
  have plain : member.entry.isProperty = false := by
    simp only [MemberEntry.isProperty, Member.entry, constructor.kind]
    rfl
  unfold MemberEntry.signature
  simp only [plain, Bool.false_eq_true, if_false]
  simp only [Member.entry, constructor.name, constructor.rest, Option.getD_some]
  cases Text.find? "get()" rest <;> rfl

theorem IsConstructor.announced {member : Member} {raw rest : Text}
    (constructor : IsConstructor member raw rest) : Announced member := by
  intro style
  simp only [MemberEntry.directive, MemberEntry.isEnumCase, MemberEntry.directiveKind,
    MemberEntry.isProperty, Member.entry, constructor.kind, constructor.name]
  rfl

/-- The parameters of a constructor are recovered from its directive in these cases only. Those of a
primary constructor are if each declares a property and has a type without commas, those of a
secondary one if no type has a parenthesis. -/
theorem constructor_parameters_read_iff (file : Text) (owner : Option Text) :
    (∀ primary : PrimaryConstructor, ∃ member, primary.Has file member ∧
      member.raw = primaryLine primary.parameters ∧ Announced member ∧
        (Recovers owner member.entry.signature primary.parameters ↔
          ∀ parameter ∈ primary.parameters,
            parameter.Readable ∧ ',' ∉ parameter.type.text)) ∧
    (∀ secondary : SecondaryConstructor, ∃ member, secondary.Has file member ∧
      member.raw = secondary.declaration.text ∧ Announced member ∧
        (Recovers owner member.entry.signature secondary.parameters ↔
          ∀ parameter ∈ secondary.parameters, ')' ∉ parameter.type.text)) := by
  constructor
  · intro primary
    obtain ⟨members, member, indexed, found, constructor⟩ := primary.exists_member file
    refine ⟨member, ⟨members, indexed, found⟩, constructor.raw, constructor.announced, ?_⟩
    rw [constructor.signature]
    exact recovers_written_iff owner primary.parameters
  · intro secondary
    obtain ⟨members, member, indexed, found, constructor⟩ := secondary.exists_member file
    refine ⟨member, ⟨members, indexed, found⟩, constructor.raw, constructor.announced, ?_⟩
    rw [constructor.signature]
    exact recovers_cut_iff owner secondary.plain _

def intType : KotlinType :=
  .named intName []

def valKeyword : PropertyKeyword where
  word := .val
  gap := " "
  property := by decide
  separated := space_separated

def countParameter (blanks : Text) (blank : Blanks blanks) : DeclaredParameter where
  name := .ofText "n" (by decide) (by decide +kernel)
  type := intType
  default := none
  before := blanks
  keyword := none
  after := []
  spaced := ⟨blank, nofun⟩
  token := nofun

def cellsParameter : DeclaredParameter where
  name := .ofText "cells" (by decide) (by decide +kernel)
  type := .generic (.ofText "List" (by decide) (by decide +kernel)) [intType]
  default := some ⟨"empty", by decide, by decide +kernel, by simp⟩
  before := []
  keyword := some valKeyword
  after := []
  spaced := ⟨nofun, nofun⟩
  token := by
    intro value present
    obtain rfl := Option.some.inj present
    simp

def endsParameter : DeclaredParameter where
  name := .ofText "ends" (by decide) (by decide +kernel)
  type := .tuple [intType, intType]
  default := none
  before := []
  keyword := none
  after := []
  spaced := ⟨nofun, nofun⟩
  token := nofun

def countClass : PrimaryConstructor where
  before := []
  line := "class Count(n: Int)"
  more := []
  after := []
  form := .plainClass
  header := ⟨none, "class", .classKind, "Count", none, "(n: Int)"⟩
  left := []
  parsed := by decide +kernel
  other := by decide
  ordinary := by decide
  front := "class Count"
  parameters := [countParameter [] nofun]
  rest := []
  written := by decide +kernel
  plainFront := by simp
  plainRest := by simp
  alone := by decide +kernel
  ends := .inr (.inl rfl)
  quiet := .line 1 (by decide +kernel) (.line 1 (by decide +kernel) (.nil 1))
  outside := by decide +kernel

def tableClass : PrimaryConstructor where
  before := ["/**", " * A table.", " */"]
  line := "data class Table("
  more := ["    val cells: List<Int> = empty", ") \x7b"]
  after := ["\x7d"]
  form := .dataClass
  header := ⟨none, "data class", .dataClass, "Table", none, "("⟩
  left := []
  parsed := by decide +kernel
  other := by decide
  ordinary := by decide
  front := "data class Table"
  parameters := [cellsParameter]
  rest := " \x7b"
  written := by decide +kernel
  plainFront := by simp
  plainRest := by simp
  alone := by decide +kernel
  ends := .inl (by decide +kernel)
  quiet := .line 1 (by decide +kernel) (.line 1 (by decide +kernel)
    (.line 1 (by decide +kernel) (.line 1 (by decide +kernel) (.nil 1))))
  outside := by decide +kernel

def spanClass : SecondaryConstructor where
  before := []
  line := "class Span \x7b"
  more := ["    constructor(ends: (Int, Int), n: Int)", "\x7d"]
  after := []
  form := .plainClass
  header := ⟨none, "class", .classKind, "Span", none, " "⟩
  left := ['{']
  parsed := by decide +kernel
  other := by decide
  ordinary := by decide
  opened := by decide +kernel
  front := []
  declaration := {
    first := "    constructor(ends: (Int, Int), n: Int)"
    more := []
    short := short_nil
    continues := by decide +kernel }
  back := ["\x7d"]
  body := by decide +kernel
  quiet := .nil 1
  indent := "    "
  scope := none
  gap := []
  parameters := [endsParameter, countParameter " " space_blanks]
  rest := []
  written := by decide +kernel
  spaced := ⟨by decide, nofun⟩
  allowed := nofun
  plain := by simp [endsParameter, countParameter]
  noInlineDoc := by decide +kernel
  outside := by decide +kernel
  opens := by decide +kernel

/-- A plain parameter and a parenthesised type are lost, a property is not. -/
theorem constructor_parameters_read_iff_shapes :
    (∃ member, countClass.Has "Shapes.kt" member ∧ Announced member ∧
      ¬ Recovers (some "Count") member.entry.signature countClass.parameters) ∧
    (∃ member, tableClass.Has "Shapes.kt" member ∧ Announced member ∧
      Recovers (some "Table") member.entry.signature tableClass.parameters) ∧
    ∃ member, spanClass.Has "Shapes.kt" member ∧ Announced member ∧
      ¬ Recovers (some "Span") member.entry.signature spanClass.parameters := by
  obtain ⟨count, hasCount, -, announcedCount, countIff⟩ :=
    (constructor_parameters_read_iff "Shapes.kt" (some "Count")).1 countClass
  obtain ⟨table, hasTable, -, announcedTable, tableIff⟩ :=
    (constructor_parameters_read_iff "Shapes.kt" (some "Table")).1 tableClass
  obtain ⟨span, hasSpan, -, announcedSpan, spanIff⟩ :=
    (constructor_parameters_read_iff "Shapes.kt" (some "Span")).2 spanClass
  refine ⟨⟨count, hasCount, announcedCount, fun recovers => ?_⟩,
    ⟨table, hasTable, announcedTable, tableIff.mpr ?_⟩,
    ⟨span, hasSpan, announcedSpan, fun recovers => ?_⟩⟩
  · cases (countIff.mp recovers _ List.mem_cons_self).1.1
  · intro parameter member
    obtain rfl := List.mem_singleton.mp member
    have named : Named false cellsParameter.name.text :=
      ⟨⟨'c', rfl, rfl⟩, by simp [cellsParameter, Identifier.ofText, isAsciiWord],
        by simp [cellsParameter, Identifier.ofText, isAsciiWord]⟩
    exact ⟨⟨rfl, named⟩, by decide +kernel⟩
  · exact spanIff.mp recovers endsParameter List.mem_cons_self (by decide +kernel)

end KotlinDoc.Proofs
