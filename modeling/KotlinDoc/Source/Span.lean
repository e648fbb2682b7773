import KotlinDoc.Text.Blank

namespace KotlinDoc

namespace Span

/-- The width of the rest of a string literal, closing quote included. A backslash takes the next
character with it, which is no newline. -/
def closingQuote? : Text → Option Nat
  | [] => none
  | '"' :: _ => some 1
  | '\\' :: [] => none
  | '\\' :: c :: s => if c == '\n' then none else (closingQuote? s).map (· + 2)
  | _ :: s => (closingQuote? s).map (· + 1)

def literal? : Text → Option Nat
  | '"' :: s => (closingQuote? s).map (· + 1)
  | _ => none

def lastClose? : Text → Option Nat
  | [] => none
  | c :: s =>
    if c == '\n' then none
    else match lastClose? s with
      | some width => some (width + 1)
      | none => if Text.startsWith "*/" (c :: s) then some 2 else none

/-- The width of the block comment at the start of a text. It ends at the last close on its line,
and a comment that goes over several lines is none. -/
def blockComment? : Text → Option Nat
  | '/' :: '*' :: s => (lastClose? s).map (· + 2)
  | _ => none

def lineComment? (s : Text) : Option Nat :=
  match Text.after? "// " s with
  | none => none
  | some comment =>
    let written := Text.firstLine comment
    -- Only the last line of a text can have a comment.
    if (comment.drop written.length).length ≤ 1 then some (written.length + 3) else none

def removeAfter (width? : Text → Option Nat) : Nat → Text → Text
  | _, [] => []
  | skip + 1, _ :: s => removeAfter width? skip s
  | 0, c :: s =>
    match width? (c :: s) with
    | some width => removeAfter width? (width - 1) s
    | none => c :: removeAfter width? 0 s

def remove (width? : Text → Option Nat) (s : Text) : Text :=
  removeAfter width? 0 s

end Span

namespace Source

/-- The code of a line: the line without string literals, then without block comments, then without
a line comment. -/
def code (line : Text) : Text :=
  Span.remove Span.lineComment? (Span.remove Span.blockComment? (Span.remove Span.literal? line))

def isCommentLine (line : Text) : Bool :=
  Text.startsWith "//" line

def excess (opening closing : Char) (line : Text) : Int :=
  if isCommentLine line then 0
  else ((code line).count opening : Int) - ((code line).count closing : Int)

def braceExcess (line : Text) : Int :=
  excess '{' '}' line

def parenExcess (line : Text) : Int :=
  excess '(' ')' line

def commentExcess (line : Text) : Int :=
  (Text.occurrences "/*" line : Int) - (Text.occurrences "*/" line : Int)

end Source

end KotlinDoc
