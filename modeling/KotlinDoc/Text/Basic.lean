/-!
# Text

Text is a list of characters, so that lengths and positions count characters and functions on text
recurse on the list. String literals stand for text wherever text is expected.
-/

namespace KotlinDoc

abbrev Text := List Char

instance : Coe String Text := ⟨String.toList⟩

def inRanges (ranges : List (Nat × Nat)) (c : Char) : Bool :=
  ranges.any fun range => range.1 ≤ c.toNat && c.toNat ≤ range.2

namespace Text

/-! ## Search -/

def find? (pattern : Text) : Text → Option Nat
  | [] => if pattern.isEmpty then some 0 else none
  | c :: s => if pattern.isPrefixOf (c :: s) then some 0 else (find? pattern s).map (· + 1)

def has (pattern s : Text) : Bool :=
  (find? pattern s).isSome

def occurrences (pattern : Text) : Text → Nat
  | [] => 0
  | c :: s => (if pattern.isPrefixOf (c :: s) then 1 else 0) + occurrences pattern s

def startsWith (pattern s : Text) : Bool :=
  pattern.isPrefixOf s

def endsWith (pattern s : Text) : Bool :=
  pattern.isSuffixOf s

def after? (pattern s : Text) : Option Text :=
  pattern.isPrefixOf? s

/-! ## Cutting -/

def cutFirst (separator : Char) : Text → Text × Option Text
  | [] => ([], none)
  | c :: s =>
    if c == separator then ([], some s)
    else ((c :: (cutFirst separator s).1), (cutFirst separator s).2)

def cutLast (separator : Char) : Text → Text × Option Text
  | [] => ([], none)
  | c :: s =>
    match cutLast separator s with
    | (before, some after) => (c :: before, some after)
    | (before, none) => if c == separator then ([], some s) else (c :: before, none)

def piecesAt (isSeparator : Char → Bool) : Text → List Text
  | [] => [[]]
  | c :: s =>
    if isSeparator c then [] :: piecesAt isSeparator s
    else match piecesAt isSeparator s with
      | [] => [[c]]
      | piece :: pieces => (c :: piece) :: pieces

def pieces (separator : Char) (s : Text) : List Text :=
  piecesAt (· == separator) s

def joined (separator : Text) (texts : List Text) : Text :=
  (texts.intersperse separator).flatten

def firstLine (s : Text) : Text :=
  s.takeWhile (· != '\n')

/-! ## Order -/

def le : Text → Text → Bool
  | [], _ => true
  | _ :: _, [] => false
  | a :: s, b :: t => a.toNat < b.toNat || (a == b && le s t)

end Text

end KotlinDoc
