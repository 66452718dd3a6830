/-!
# BuilderGen.Text.Lines

The **lines of a text**. A line ends with a line feed, and a carriage return
directly before that line feed belongs to the line ending. A final piece without
a line feed is a line if it is not empty, and it keeps a carriage return at its
end.
-/

namespace BuilderGen.Text

/-- `cs` is a line read so far, last character first; a carriage return at its
end is dropped. -/
def dropReturn : List Char → List Char
  | '\r' :: cs => cs
  | cs => cs

/-- The lines of `cs`, after `line` has been read of the first one, last
character first. -/
def linesFrom (line : List Char) : List Char → List (List Char)
  | [] => if line.isEmpty then [] else [line.reverse]
  | '\n' :: cs => (dropReturn line).reverse :: linesFrom [] cs
  | c :: cs => linesFrom (c :: line) cs

/-- The lines of a character list. -/
def lineChars (cs : List Char) : List (List Char) := linesFrom [] cs

/-- The lines of a text. -/
def lines (text : String) : List String := (lineChars text.toList).map String.ofList

@[simp] theorem lines_empty : lines "" = [] := rfl

end BuilderGen.Text
