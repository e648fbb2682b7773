import KotlinDoc.Source.Span

namespace KotlinDoc

namespace Lines

def normalizeEnds : Text → Text
  | [] => []
  | '\r' :: '\n' :: s => '\n' :: normalizeEnds s
  | '\r' :: s => '\n' :: normalizeEnds s
  | c :: s => c :: normalizeEnds s

def ofText : Text → List Text
  | [] => []
  | c :: s =>
    if c == '\n' then [c] :: ofText s
    else match ofText s with
      | [] => [[c]]
      | line :: lines => (c :: line) :: lines

def ofBytes? (bytes : ByteArray) : Option (List Text) :=
  (String.fromUTF8? bytes).map fun s => ofText (normalizeEnds s.toList)

/-- The lines before a position. A negative position counts from the end, and a position outside
the lines means their nearer end. -/
def before (lines : List Text) (position : Int) : List Text :=
  if 0 ≤ position then lines.take position.toNat
  else lines.take (lines.length - (-position).toNat)

/-- The things in order from a position on. A negative position counts from the end, after which
the order starts over; it is an error to go back beyond the start. -/
def scanFrom? {α : Type} (things : List α) (position : Int) : Option (List α) :=
  if 0 ≤ position then some (things.drop position.toNat)
  else if (-position).toNat ≤ things.length then
    some (things.drop (things.length - (-position).toNat) ++ things)
  else none

end Lines

structure Site where
  line : Text
  above : List Text
deriving Repr, DecidableEq

namespace Site

def listBelow (above : List Text) : List Text → List Site
  | [] => []
  | line :: lines => ⟨line, above⟩ :: listBelow (line :: above) lines

def list (lines : List Text) : List Site :=
  listBelow [] lines

end Site

namespace Lines

def maxJoined : Nat := 6

/-- Joins lines to a text while its parentheses do not balance, `budget` lines at most. Gives the
number of lines passed besides. -/
def joinOnto (text : Text) (budget : Nat) : List Text → Text × Nat
  | [] => if Source.parenExcess text == 0 then (text, 0) else (text, 1)
  | line :: lines =>
    if Source.parenExcess text == 0 then (text, 0)
    else match budget with
      -- The line at which joining is given up is passed too.
      | 0 => (text, 1)
      | budget + 1 =>
        let (joined, passed) := joinOnto (text ++ " " ++ Text.trim line) budget lines
        (joined, passed + 1)

def join (line : Text) (lines : List Text) : Text × Nat :=
  joinOnto (Text.trimRight line) maxJoined lines

end Lines

end KotlinDoc
