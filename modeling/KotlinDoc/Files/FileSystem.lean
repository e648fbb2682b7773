import KotlinDoc.Files.Path
import KotlinDoc.Index.Symbol
import KotlinDoc.Sorting

/-!
# File systems

A file system maps locations to files and directories. There are no links, so a location is the list
of names from the root. Paths are followed name by name from the working directory: each name but
the last must be that of a directory.
-/

namespace KotlinDoc

abbrev Location := List Text

inductive Node where
  | directory
  | file (bytes : ByteArray)

inductive FileError where
  | notFound
  | notDirectory
  | isDirectory
  | notUtf8
deriving Repr, DecidableEq

structure FileSystem where
  entries : List (Location × Node) := []

namespace FileSystem

/-! ## Locations -/

def node? (fs : FileSystem) (location : Location) : Option Node :=
  if location.isEmpty then some .directory else fs.entries.lookup location

def set (fs : FileSystem) (location : Location) (node : Node) : FileSystem :=
  if (fs.entries.lookup location).isSome then
    ⟨fs.entries.map fun entry => if entry.1 == location then (location, node) else entry⟩
  else ⟨fs.entries ++ [(location, node)]⟩

def erase (fs : FileSystem) (location : Location) : FileSystem :=
  ⟨fs.entries.filter fun entry => entry.1 != location⟩

def isDirectory (fs : FileSystem) (location : Location) : Bool :=
  match fs.node? location with
  | some .directory => true
  | _ => false

/-! ## Paths -/

def next (location : Location) (name : Text) : Location :=
  if name == Path.here then location
  else if name == Path.up then location.dropLast
  else location ++ [name]

def steps (path : Text) : List Text :=
  Path.names path ++ if Text.endsWith "/" path then [Path.here] else []

def origin (cwd : Location) (path : Text) : Location :=
  if Path.isAbsolute path then [] else cwd

def follow (fs : FileSystem) (location : Location) : List Text → Except FileError Location
  | [] => .ok location
  | name :: names =>
    match fs.node? location with
    | none => .error .notFound
    | some (.file _) => .error .notDirectory
    | some .directory => fs.follow (next location name) names

def locate (fs : FileSystem) (cwd : Location) (path : Text) : Except FileError Location :=
  fs.follow (origin cwd path) (steps path)

def exists? (fs : FileSystem) (cwd : Location) (path : Text) : Bool :=
  match fs.locate cwd path with
  | .ok location => !path.isEmpty && (fs.node? location).isSome
  | .error _ => false

/-! ## Changes -/

def write (fs : FileSystem) (cwd : Location) (path : Text) (bytes : ByteArray) :
    Except FileError FileSystem :=
  match fs.locate cwd path with
  | .error error => .error error
  | .ok location => if fs.isDirectory location then .error .isDirectory
    else .ok (fs.set location (.file bytes))

def makeAlong (fs : FileSystem) (location : Location) : List Text → FileSystem
  | [] => fs
  | name :: names =>
    let location := next location name
    match fs.node? location with
    | none => (fs.set location .directory).makeAlong location names
    | some .directory => fs.makeAlong location names
    | some (.file _) => fs

def makeDirectories (fs : FileSystem) (cwd : Location) (path : Text) : FileSystem :=
  fs.makeAlong (origin cwd path) (Path.names path)

/-! ## Listings -/

def below? (directory location : Location) : Option (List Text) :=
  directory.isPrefixOf? location

def nodesBelow (fs : FileSystem) (directory : Location) : List (List Text × Node) :=
  fs.entries.filterMap fun (location, node) =>
    match below? directory location with
    | none | some [] => none
    | some names => some (names, node)

def directoriesBelow (fs : FileSystem) (directory : Location) : List Text :=
  Sorting.sort Text.le ((fs.nodesBelow directory).filterMap fun
    | (names, .directory) => some (Path.ofNames names)
    | (_, .file _) => none)

def filesBelow (fs : FileSystem) (directory : Location) : List (Text × ByteArray) :=
  Sorting.sort (fun a b => Text.le a.1 b.1) ((fs.nodesBelow directory).filterMap fun
    | (_, .directory) => none
    | (names, .file bytes) => some (Path.ofNames names, bytes))

/-! ## Source files -/

/-- The order of a walk by name: the files of a directory by name, then what is in its
subdirectories, one subdirectory after the other by name. -/
def walkLe : List Text → List Text → Bool
  | [], _ => true
  | _ :: _, [] => false
  | [a], [b] => Text.le a b
  | [_], _ :: _ :: _ => true
  | _ :: _ :: _, [_] => false
  | a :: as, b :: bs => if a == b then walkLe as bs else Text.le a b

end FileSystem

/-- The order in which a walk comes to files. The names of a directory can be listed in any. -/
structure WalkOrder where
  arrange : List (List Text × ByteArray) → List (List Text × ByteArray)
  perm : ∀ files, (arrange files).Perm files

def WalkOrder.sorted : WalkOrder where
  arrange := Sorting.sort fun a b => FileSystem.walkLe a.1 b.1
  perm := Sorting.sort_perm _

namespace FileSystem

def isKotlinName (name : Text) : Bool :=
  Text.endsWith ".kt" name

def kotlinFiles (fs : FileSystem) (order : WalkOrder) (directory : Location) :
    List (List Text × ByteArray) :=
  if fs.isDirectory directory then
    order.arrange ((fs.nodesBelow directory).filterMap fun
      | (names, .file bytes) =>
        if (names.getLast?.map isKotlinName).getD false then some (names, bytes) else none
      | (_, .directory) => none)
  else []

end FileSystem

/-! ## Indexing -/

structure SourceFile where
  path : Text
  bytes : ByteArray

namespace SourceFile

def symbols (file : SourceFile) : Except FileError (List Symbol) :=
  match Lines.ofBytes? file.bytes with
  | some lines => .ok (Symbol.index file.path lines)
  | none => .error .notUtf8

def notice (file : SourceFile) : Text :=
  "Indexing kotlin file: " ++ file.path

/-- The symbols of files, in order, and the lines that tell of the files that have been read. The
first file that cannot be read ends the work. -/
def indexAll : List SourceFile → List Text × Except FileError (List Symbol)
  | [] => ([], .ok [])
  | file :: files =>
    match file.symbols with
    | .error error => ([file.notice], .error error)
    | .ok symbols =>
      let (notices, rest) := indexAll files
      (file.notice :: notices, rest.map (symbols ++ ·))

end SourceFile

end KotlinDoc
