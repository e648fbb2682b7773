import KotlinDoc.Command.Run

namespace KotlinDoc

namespace Program

def pathOf (location : Location) : String :=
  String.ofList ("/" ++ Path.ofNames location)

partial def load (fs : FileSystem) (location : Location) : IO FileSystem := do
  let path := System.mkFilePath [pathOf location]
  if ← path.isDir then
    let mut fs := if location.isEmpty then fs else fs.set location .directory
    for entry in ← path.readDir do
      fs ← load fs (location ++ [entry.fileName.toList])
    return fs
  else if ← path.pathExists then
    return fs.set location (.file (← IO.FS.readBinFile path))
  else return fs

def loadWithParents (fs : FileSystem) (location : Location) : IO FileSystem := do
  let mut fs := fs
  for depth in List.range location.length do
    let parent := location.take depth
    if !parent.isEmpty && (← (System.mkFilePath [pathOf parent]).isDir) then
      fs := fs.set parent .directory
  load fs location

def save (old : FileSystem) (location : Location) : Node → IO Unit
  | .directory => do
    if !old.isDirectory location then IO.FS.createDirAll (pathOf location)
  | .file bytes => do
    let unchanged := match old.node? location with
      | some (.file before) => before.data == bytes.data
      | _ => false
    if !unchanged then IO.FS.writeBinFile (pathOf location) bytes

def usage : String :=
  "usage: kotlindoc [-h] [--private] [--overwrite] [--undoc-members] [--no-members] " ++
    "[--no-index] [--no-index-members] source_path documentation_path"

def errorText : FileError → String
  | .notFound => "no such file or directory"
  | .notDirectory => "not a directory"
  | .isDirectory => "is a directory"
  | .notUtf8 => "a source file is not UTF-8"

def finish : Outcome → IO UInt32
  | .done => return 0
  | .wouldOverwrite => return 1
  | .help => do
    IO.println usage
    return 0
  | .refused => do
    IO.eprintln usage
    return 2
  | .unplaced => do
    IO.eprintln "error: no documentation path"
    return 1
  | .failed error => do
    IO.eprintln ("error: " ++ errorText error)
    return 1

def filesFor (cwd : Location) (line : List Text) : IO FileSystem := do
  let locate (path : Text) : Location := Path.names (Path.absolute (pathOf cwd).toList path)
  match Arguments.parse line with
  | .unplaced source => loadWithParents {} (locate source)
  | .run arguments =>
    let fs ← loadWithParents {} (locate arguments.source)
    let fs ← loadWithParents fs (locate arguments.documentation)
    return fs.makeDirectories [] (pathOf cwd).toList
  | _ => return {}

def run (arguments : List String) : IO UInt32 := do
  let cwd := Path.names (← IO.currentDir).toString.toList
  let line := arguments.map String.toList
  let fs ← filesFor cwd line
  let result := Run.ofLine .sorted fs cwd line
  for printed in result.printed do
    IO.println (String.ofList printed)
  for (location, node) in result.files.entries do
    save fs location node
  finish result.outcome

end Program

end KotlinDoc

def main (arguments : List String) : IO UInt32 :=
  KotlinDoc.Program.run arguments
