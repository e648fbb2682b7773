import KotlinDoc.Command.Arguments
import KotlinDoc.Files.FileSystem

/-!
# The command

The command indexes the Kotlin files below the source directory and writes a page for each file that
has symbols. Unless it may overwrite, it writes nothing if one of the pages is already there. It
works on a file system value: a run gives the new file system, the lines that it prints, and how it
ended.
-/

namespace KotlinDoc

inductive Outcome where
  | refused
  | help
  | done
  | wouldOverwrite
  | unplaced
  | failed (error : FileError)
deriving Repr, DecidableEq

structure Run where
  files : FileSystem
  printed : List Text
  outcome : Outcome

namespace Run

structure Page where
  file : Text
  relative : Text
  destination : Text
  symbols : List Symbol

def Page.text (selection : Selection) (page : Page) : Text :=
  Document.text (Document.heading ("Documentation for " ++ page.relative)) ++
    Document.text (Document.lines selection [] (page.symbols.map Symbol.entry))

def Page.bytes (selection : Selection) (page : Page) : ByteArray :=
  (String.ofList (page.text selection)).toUTF8

def pages (cwd : Text) (arguments : Arguments) (symbols : List Symbol) : List Page :=
  (Symbol.groupBy (·.declaration.file) symbols).map fun (file, symbols) =>
    { file := file
      relative := (Path.relative? cwd file arguments.source).getD []
      destination :=
        (Path.destination? cwd file arguments.source arguments.documentation).getD []
      symbols := symbols }

def sourceFiles (order : WalkOrder) (fs : FileSystem) (source : Text) : List SourceFile :=
  (fs.kotlinFiles order (Path.names source)).map fun (names, bytes) =>
    ⟨names.foldl Path.join source, bytes⟩

def Page.notice (page : Page) : Text :=
  "Writing documentation for '" ++ page.relative ++ "'..."

def Page.refusal (page : Page) : List Text :=
  ["ERROR: " ++ page.file ++ " already exists, to overwrite existing",
   "                     documentation use the '--overwrite' flag"]

def Page.write (selection : Selection) (cwd : Location) (fs : FileSystem) (page : Page) :
    Except FileError FileSystem :=
  (fs.makeDirectories cwd (Path.directory page.destination)).write cwd page.destination
    (page.bytes selection)

def writeAll (selection : Selection) (cwd : Location) (fs : FileSystem) : List Page → Run
  | [] => ⟨fs, [], .done⟩
  | page :: pages =>
    match page.write selection cwd fs with
    | .ok fs =>
      let run := writeAll selection cwd fs pages
      { run with printed := page.notice :: run.printed }
    | .error error =>
      ⟨fs.makeDirectories cwd (Path.directory page.destination), [page.notice], .failed error⟩

def withArguments (order : WalkOrder) (fs : FileSystem) (cwd : Location) (arguments : Arguments) :
    Run :=
  let cwdPath := "/" ++ Path.ofNames cwd
  match SourceFile.indexAll (sourceFiles order fs (Path.absolute cwdPath arguments.source)) with
  | (notices, .error error) => ⟨fs, notices, .failed error⟩
  | (notices, .ok symbols) =>
    -- The documentation directory is made even if nothing is written to it.
    let fs := fs.makeDirectories cwd arguments.documentation
    let pages := pages cwdPath arguments symbols
    match if arguments.overwrite then none else pages.find? (fs.exists? cwd ·.destination) with
    | some page => ⟨fs, notices ++ page.refusal, .wouldOverwrite⟩
    | none =>
      let run := writeAll arguments.selection cwd fs pages
      { run with printed := notices ++ run.printed }

def withoutPlace (order : WalkOrder) (fs : FileSystem) (cwd : Location) (source : Text) : Run :=
  let source := Path.absolute ("/" ++ Path.ofNames cwd) source
  match SourceFile.indexAll (sourceFiles order fs source) with
  | (notices, .error error) => ⟨fs, notices, .failed error⟩
  | (notices, .ok symbols) => ⟨fs, notices, if symbols.isEmpty then .done else .unplaced⟩

def ofLine (order : WalkOrder) (fs : FileSystem) (cwd : Location) (line : List Text) : Run :=
  match Arguments.parse line with
  | .refused => ⟨fs, [], .refused⟩
  | .help => ⟨fs, [], .help⟩
  | .unplaced source => withoutPlace order fs cwd source
  | .run arguments => withArguments order fs cwd arguments

end Run

end KotlinDoc
