import KotlinDoc.Text.Blank

/-!
# Documentation comments

A documentation comment stands above a declaration, between `/**` and `*/`. `DocComment.above` reads
upwards from the declaration: annotation lines are passed over, and a line of any other kind ends
the search unless a comment has been entered at its last line.
-/

namespace KotlinDoc

namespace DocComment

def opening : Text :=
  "/**"

def closing : Text :=
  "*/"

structure Stripped where
  text : Text
  endsComment : Bool
  startsComment : Bool
deriving Repr, DecidableEq

/-- Takes the end and the start of a comment off a line. There is none if the line starts a comment
that is no documentation. -/
def strip? (line : Text) : Option Stripped :=
  let line := line.trimRight
  let ends := Text.endsWith closing line
  let line := if ends then line.take (line.length - closing.length) else line
  match Text.after? opening (Text.trim line) with
  | some text => some ⟨text, ends, true⟩
  | none => if Text.startsWith "/*" line then none else some ⟨line, ends, false⟩

/-- The lines of the comment, given the lines above, nearest first, and the lines found so far.
`inside` tells that the end of the comment has been passed. -/
def collect (inside : Bool) (found : List Text) : List Text → List Text
  | [] => found
  | line :: above =>
    match strip? line with
    | none => []
    | some stripped =>
      let inside := inside || stripped.endsComment
      -- Within a comment, tags are passed over as annotations are.
      if Text.startsWith "@" (Text.trim stripped.text) then collect inside found above
      else if !inside then found
      else if stripped.startsComment then
        if stripped.text.isEmpty then found else stripped.text :: found
      else collect inside (stripped.text :: found) above

def above (lines : List Text) : List Text :=
  collect false [] lines

end DocComment

end KotlinDoc
