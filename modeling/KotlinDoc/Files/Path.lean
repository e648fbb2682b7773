import KotlinDoc.Text.Basic

namespace KotlinDoc

namespace Path

def here : Text :=
  "."

def up : Text :=
  ".."

def names (path : Text) : List Text :=
  (Text.pieces '/' path).filter (!·.isEmpty)

def ofNames (names : List Text) : Text :=
  Text.joined "/" names

def isAbsolute (path : Text) : Bool :=
  Text.startsWith "/" path

def join (directory path : Text) : Text :=
  if isAbsolute path then path
  else if directory.isEmpty || Text.endsWith "/" directory then directory ++ path
  else directory ++ "/" ++ path

def root (path : Text) : Text :=
  if Text.startsWith "//" path && !Text.startsWith "///" path then "//"
  else if isAbsolute path then "/"
  else []

def reduceOnto (absolute : Bool) (done : List Text) : List Text → List Text
  | [] => done.reverse
  | name :: names =>
    if name == here then reduceOnto absolute done names
    else if name == up then
      match done with
      | [] => reduceOnto absolute (if absolute then [] else [up]) names
      | last :: rest => reduceOnto absolute (if last == up then up :: done else rest) names
    else reduceOnto absolute (name :: done) names

def reducedNames (path : Text) : List Text :=
  reduceOnto (isAbsolute path) [] (names path)

def normalize (path : Text) : Text :=
  match root path ++ ofNames (reducedNames path) with
  | [] => here
  | path => path

def absolute (cwd path : Text) : Text :=
  normalize (join cwd path)

def dropCommon : List Text → List Text → List Text × List Text
  | a :: as, b :: bs => if a == b then dropCommon as bs else (a :: as, b :: bs)
  | as, bs => (as, bs)

def relative? (cwd path start : Text) : Option Text :=
  if path.isEmpty then none
  else
    let (above, below) :=
      dropCommon (names (absolute cwd start)) (names (absolute cwd path))
    match above.map (fun _ => up) ++ below with
    | [] => some here
    | names => some (ofNames names)

def directory (path : Text) : Text :=
  match Text.cutLast '/' path with
  | (before, some _) => if before.isEmpty then "/" else before
  | (_, none) => []

end Path

/-- The path of the page for a source file: the place of the file below the source directory, below
the documentation directory, with the last three characters replaced by `.rst`. -/
def Path.destination? (cwd file source documentation : Text) : Option Text :=
  (Path.relative? cwd file source).map fun relative =>
    let path := Path.join documentation relative
    path.take (path.length - 3) ++ ".rst"

end KotlinDoc
