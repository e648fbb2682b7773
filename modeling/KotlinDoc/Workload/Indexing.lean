import KotlinDoc.Command.Run
import KotlinDoc.Workload.Sample

namespace KotlinDoc

namespace Workload

def decimal (n : Nat) : Text :=
  Nat.toDigits 10 n

def directoryCount : Nat := 3

def sampleNames (number : Nat) : List Text :=
  ["pkg" ++ decimal (number % directoryCount), "File" ++ decimal number ++ ".kt"]

def sampleBytes : ByteArray :=
  (String.ofList sampleText).toUTF8

def sourceName : Text :=
  "src"

def documentationName : Text :=
  "out"

def sampleTree (count : Nat) : FileSystem :=
  (List.range count).foldl (fun fs number =>
    let path := Path.ofNames (sourceName :: sampleNames number)
    let fs := fs.makeDirectories [] (Path.directory path)
    match fs.write [] path sampleBytes with
    | .ok fs => fs
    | .error _ => fs) (({} : FileSystem).makeDirectories [] sourceName)

def sampleSymbols (count : Nat) : List Symbol :=
  match SourceFile.indexAll (Run.sourceFiles .sorted (sampleTree count) ("/" ++ sourceName)) with
  | (_, .ok symbols) => symbols
  | (_, .error _) => []

structure IndexReport where
  names : List Text
  kinds : List Text
  files : Nat
  symbols : Nat

def index (count : Nat) : IndexReport :=
  let symbols := sampleSymbols count
  { names := Sorting.sort Text.le (symbols.map (·.declaration.name))
    kinds := Sorting.sort Text.le (symbols.map (·.declaration.kind.label))
    files := (Run.sourceFiles .sorted (sampleTree count) ("/" ++ sourceName)).length
    symbols := symbols.length }

def directiveLines (symbol : Symbol) : List Text :=
  let members := (symbol.declaration :: symbol.children).flatMap (·.members.getD [])
  symbol.entry.directive {} ++ symbol.entry.directive ⟨"    ", true, true⟩ ++
    members.flatMap fun member =>
      member.entry.directive {} ++ member.entry.directive ⟨"    ", true, false⟩

structure DirectiveReport where
  lines : Nat
  first : Text
  last : Text

def directives? (count : Nat) : Option DirectiveReport :=
  let lines := (sampleSymbols count).flatMap directiveLines
  match lines.head?, lines.getLast? with
  | some first, some last => some ⟨lines.length, first, last⟩
  | _, _ => none

structure PageReport where
  sizes : List Nat
  first : Text

def pages (count : Nat) : PageReport :=
  let run := Run.ofLine .sorted (sampleTree count) []
    [sourceName, documentationName, Flag.overwrite.name, Flag.noIndex.name]
  let written := run.files.filesBelow [documentationName]
  let first := Path.destination? "/" ("/" ++ Path.ofNames (sourceName :: sampleNames 0)) sourceName
    documentationName
  { sizes := Sorting.sort (fun a b => a ≤ b) (written.map (·.2.size))
    first := ((Path.names (first.getD [])).getLast?).getD [] }

def docBlock (number : Nat) : List Text :=
  let fences := if number % 2 == 0 then [DocComment.fence] else []
  [("* Summary line." : Text), "* More prose.", "* @param x the x", "* @property y the y",
   "* @return result", "* @throws E bad"] ++ fences ++
    (List.range 12).map (fun k => "code line " ++ decimal k) ++ fences ++ [("* trailing" : Text)]

structure MarkupReport where
  lines : Nat
  first : Option (List Text)

def markup (count : Nat) : MarkupReport :=
  let blocks := (List.range count).map fun number => DocComment.markup true (docBlock number)
  { lines := blocks.flatten.length
    first := blocks.head? }

structure LineReport where
  braces : Int
  commentBraces : Int
  parens : Int
  names : List Text
  docLines : Nat
  joinedLines : Nat
  doc : List Text
  plainComment : List Text
  property : List Text
  parameter : List Text
  summaries : List (Option Text)
  constructors : List Text
  insideComment : Bool
  stopWord : Bool
  enumLines : Nat

def documentedLines : List Text :=
  ["/** header", " * body line", " * @param a the a", " * @property p desc of p", " * more on p",
   " * @annot", " */"]

def longHeader (length : Int) : Text :=
  let count := max 1 (length / 12).toNat
  "class Long(" ++ Text.joined ", " (List.replicate count "val x: Int") ++ ")"

def lines (length : Int) : LineReport :=
  let doc := DocComment.above documentedLines.reverse
  let header := longHeader length
  { braces := Source.braceExcess "fun f() \x7b val s = \"\x7d\" /* \x7d */ // \x7d"
    commentBraces := Source.braceExcess "// \x7b"
    parens := Source.parenExcess "f(\"(\", (1)) // ("
    names := [Text.unspaced "_" " a  b\tc ", Text.unspaced " " "x  y \t z"]
    docLines := doc.length
    joinedLines := (Lines.join "fun f(a: Int," ["  b: Int,", "  c: Int) \x7b", "\x7d"]).2
    doc := doc
    plainComment := DocComment.above ["/* no documentation */"]
    property := DocComment.description NamedTag.property.word "p" doc
    parameter := DocComment.description NamedTag.param.word "a" doc
    summaries := [DocComment.summary? ["x", "y"], DocComment.summary? []]
    constructors :=
      [[header], [header ++ " \x7b", "\x7d"], [header ++ " : Base(1) \x7b", "\x7d"]].map
        fun lines => (ClassHeader.ofLines lines).constructor
    insideComment := Source.insideComment "word" "a /* word */ b"
    stopWord := Source.hasStopWord "private val x"
    enumLines := (EnumBody.mark ["A,", "/** b */", "B(1),", "C;", "fun f() \x7b", "\x7d"]).length }

end Workload

end KotlinDoc
