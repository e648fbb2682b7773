import KotlinDoc.Source.StopWord

namespace KotlinDoc

namespace EnumBody

/-- Marks lines with `case: `, except those that start a documentation comment, until a stop word.
`comments` counts the comments that are open, and `ended` tells that a stop word has been read. -/
def markFrom (comments : Int) (ended : Bool) : List Text → List Text
  | [] => []
  | line :: lines =>
    let text := Text.trim line
    let comments := comments + Source.commentExcess text
    -- Stop words count outside comments only.
    let ended := ended || (comments == 0 && Source.hasStopWord text)
    (if ended || Text.startsWith "/**" text then line else "case: " ++ line) ::
      markFrom comments ended lines

def mark (lines : List Text) : List Text :=
  markFrom 0 false lines

end EnumBody

end KotlinDoc
