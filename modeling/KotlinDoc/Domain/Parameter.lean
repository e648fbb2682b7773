import KotlinDoc.Text.Blank

namespace KotlinDoc

structure Parameter where
  name : Text
  type : Text
  default : Option Text
deriving Repr, DecidableEq

structure Brackets where
  square : Int := 0
  round : Int := 0
  angle : Int := 0
deriving Repr, DecidableEq

namespace Brackets

def read (b : Brackets) (c : Char) : Brackets :=
  if c == '[' then { b with square := b.square + 1 }
  else if c == ']' then { b with square := b.square - 1 }
  else if c == '(' then { b with round := b.round + 1 }
  else if c == ')' then { b with round := b.round - 1 }
  else if c == '<' then { b with angle := b.angle + 1 }
  else if c == '>' then { b with angle := b.angle - 1 }
  else b

def balanced (b : Brackets) : Bool :=
  b.square == 0 && b.round == 0 && b.angle == 0

end Brackets

namespace Parameter

/-- The pieces of a list between the commas outside brackets, given the brackets that are open. -/
def piecesFrom (b : Brackets) : Text → List Text
  | [] => [[]]
  | c :: s =>
    let b := b.read c
    if c == ',' && b.balanced then [] :: piecesFrom b s
    else match piecesFrom b s with
      | [] => [[c]]
      | piece :: pieces => (c :: piece) :: pieces

def pieces (list : Text) : List Text :=
  piecesFrom {} list

def ofPiece? (piece : Text) : Option Parameter :=
  match Text.cutFirst ':' piece with
  | (_, none) => none
  | (name, some rest) =>
    match Text.cutLast '=' rest with
    | (type, default) => some ⟨Text.trim name, Text.trim type, default.map Text.trim⟩

def list? (list : Text) : Option (List Parameter) :=
  (pieces list).mapM ofPiece?

def names (parameters : List Parameter) : Text :=
  parameters.flatMap fun parameter => parameter.name ++ ":"

end Parameter

end KotlinDoc
