import KotlinDoc.Source.StopWord

namespace KotlinDoc

structure ClassHeader where
  constructor : Text
  supertypes : Text
  arguments : Text
  hasBody : Bool
  /-- The number of lines from the first line of the header to the last one looked at. -/
  lastLine : Nat
deriving Repr, DecidableEq

namespace ClassHeader

structure Reading where
  constructor : Text := []
  supertypes : Text := []
  arguments : Text := []
  depth : Int := 0
  derived : Bool := false
deriving Repr, DecidableEq

namespace Reading

def addInner (r : Reading) (c : Char) : Reading :=
  if r.derived then { r with arguments := r.arguments ++ [c] }
  else { r with constructor := r.constructor ++ [c] }

def addOuter (r : Reading) (c : Char) : Reading :=
  if r.derived && r.arguments.isEmpty then { r with supertypes := r.supertypes ++ [c] } else r

def read (r : Reading) (c : Char) : Reading :=
  let r := if r.depth == 0 && c == ':' then { r with derived := true } else r
  if c == ')' then { r with depth := r.depth - 1 }.addInner c
  else
    let r := if c == '(' then { r with depth := r.depth + 1 } else r
    if 0 < r.depth then r.addInner c else r.addOuter c

def readLine (r : Reading) (line : Text) : Reading × Bool :=
  let read := (line.takeWhile (· != '{')).foldl Reading.read r
  (read, line.contains '{')

def header (r : Reading) (hasBody : Bool) (lastLine : Nat) : ClassHeader :=
  ⟨r.constructor, r.supertypes, r.arguments, hasBody, lastLine⟩

end Reading

/-- Reads a header, where `seen` counts the lines that start a declaration and `number` all lines
already read. -/
def readLines (r : Reading) (seen number : Nat) : List Text → ClassHeader
  | [] => r.header false (number - 1)
  | line :: lines =>
    let line := Text.trim line
    let seen := if r.depth == 0 && Source.startsDeclaration line then seen + 1 else seen
    -- The first declaration is that of the class itself.
    if 1 < seen then r.header false number
    else match r.readLine line with
      | (r, true) => r.header true number
      | (r, false) => readLines r seen (number + 1) lines

def ofLines (lines : List Text) : ClassHeader :=
  readLines {} 0 0 lines

end ClassHeader

end KotlinDoc
