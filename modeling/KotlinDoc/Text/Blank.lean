import KotlinDoc.Text.Basic

namespace KotlinDoc

def wideBlanks : List (Nat × Nat) :=
  [(0x85, 0x85), (0xA0, 0xA0), (0x1680, 0x1680), (0x2000, 0x200A), (0x2028, 0x2029),
   (0x202F, 0x202F), (0x205F, 0x205F), (0x3000, 0x3000)]

def isBlank (c : Char) : Bool :=
  if c.toNat < 0x80 then (0x9 ≤ c.toNat && c.toNat ≤ 0xD) || (0x1C ≤ c.toNat && c.toNat ≤ 0x20)
  else inRanges wideBlanks c

namespace Text

def trimLeft (s : Text) : Text :=
  s.dropWhile isBlank

def trimRight (s : Text) : Text :=
  (s.reverse.dropWhile isBlank).reverse

def trim (s : Text) : Text :=
  trimRight (trimLeft s)

def fillBlanks (filler : Text) : Text → Text
  | [] => []
  | c :: s =>
    if isBlank c then
      match s with
      | d :: _ => if isBlank d then fillBlanks filler s else filler ++ fillBlanks filler s
      | [] => filler
    else c :: fillBlanks filler s

def unspaced (filler s : Text) : Text :=
  trim (fillBlanks filler s)

def afterBlanks? : Text → Option Text
  | c :: s => if isBlank c then some (trimLeft s) else none
  | [] => none

end Text

end KotlinDoc
