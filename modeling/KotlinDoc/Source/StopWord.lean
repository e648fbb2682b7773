import KotlinDoc.Source.Span

namespace KotlinDoc

namespace Source

def stopWords : List Text :=
  ["public", "private", "open", "internal", "external", "data class", "interface", "enum", "fun",
   "var", "val", "companion", "object", "class"]

def spacedOnce (line : Text) : Text :=
  Text.unspaced " " (Span.remove Span.blockComment? line)

def hasStopWord (line : Text) : Bool :=
  let line := spacedOnce line
  stopWords.any fun word => Text.has (word ++ " ") line

def startsDeclaration (line : Text) : Bool :=
  hasStopWord line || Text.has "/**" (spacedOnce line)

/-- The first occurrence of a word lies between the first start and the first end of a comment; the
end of the line stands for the one that is missing. -/
def insideComment (word line : Text) : Bool :=
  let opened := (Text.find? "/*" line).getD line.length
  let closed := (Text.find? "*/" line).getD line.length
  match Text.find? word line with
  | some position => opened < position && position < closed
  | none => false

end Source

end KotlinDoc
