import BuilderGen.Text.Lines

/-!
# BuilderGen.Layout

The **layout of source text**. What is to be written is a list of *fragments*; a
*page* holds the text written so far and the depth the next line is indented to.

Design points:

* A fragment says nothing about indentation. A braced fragment puts its body one
  level deeper and closes at its own level, so nesting fragments nests levels.
* Every operation on a page only appends to its text. Blank lines carry no
  indentation, all other lines that of the page's depth.
* A documentation comment over several lines becomes one commented line per line,
  so no line of it leaves the comment.
-/

namespace BuilderGen

/-- A piece of source text that knows nothing about its indentation. -/
inductive Fragment
  /-- One line. -/
  | line (text : String)
  /-- An empty line. -/
  | blank
  /-- An opening line, a body one level deeper and a closing brace. -/
  | braced (opening : String) (body : List Fragment)
  /-- A documentation block between `/**` and `*/`, one entry a line. -/
  | blockDoc (lines : List String)
  /-- A documentation comment whose lines start with `///`. -/
  | lineDoc (text : String)
  deriving Inhabited

/-- Text written so far, and where the next line starts: `depth` times `unit`. -/
structure Page where
  unit : String
  depth : Nat := 0
  text : String := ""
  deriving DecidableEq, Repr

namespace Page

/-- The unit source files are indented by. -/
def fourSpaces : String := "    "

/-- An empty page of a source file. -/
def source : Page := { unit := fourSpaces }

/-- The indentation of a line at `depth`. -/
def indentation (unit : String) : Nat → String
  | 0 => ""
  | depth + 1 => unit ++ indentation unit depth

/-- Writes one line at the page's depth. -/
def pushLine (page : Page) (line : String) : Page :=
  { page with text := page.text ++ (indentation page.unit page.depth ++ line ++ "\n") }

/-- Writes an empty line, without indentation. -/
def pushBlank (page : Page) : Page := { page with text := page.text ++ "\n" }

/-- Goes one level deeper. -/
def indent (page : Page) : Page := { page with depth := page.depth + 1 }

/-- Goes one level back, or stays at the margin. -/
def dedent (page : Page) : Page := { page with depth := page.depth - 1 }

/-- Writes several lines. -/
def pushLines (page : Page) (lines : List String) : Page := lines.foldl pushLine page

/-- A line of a documentation block. -/
def blockDocLine (line : String) : String := if line.isEmpty then " *" else " * " ++ line

/-- Writes a documentation block. -/
def pushBlockDoc (page : Page) (lines : List String) : Page :=
  ((page.pushLine "/**").pushLines (lines.map blockDocLine)).pushLine " */"

/-- A line of a documentation comment. -/
def lineDocLine (line : String) : String := if line.isEmpty then "///" else "/// " ++ line

/-- Writes a documentation comment, one commented line per line of `text`. -/
def pushLineDoc (page : Page) (text : String) : Page :=
  page.pushLines ((Text.lines text).map lineDocLine)

mutual

/-- Lays out one fragment. -/
def apply (page : Page) : Fragment → Page
  | .line text => page.pushLine text
  | .blank => page.pushBlank
  | .braced opening body => (emit (page.pushLine opening).indent body).dedent.pushLine "\x7d"
  | .blockDoc lines => page.pushBlockDoc lines
  | .lineDoc text => page.pushLineDoc text

/-- Lays out fragments one after another. -/
def emit (page : Page) : List Fragment → Page
  | [] => page
  | fragment :: rest => emit (apply page fragment) rest

end

@[simp] theorem emit_nil (page : Page) : page.emit [] = page := by simp [emit]

@[simp] theorem emit_cons (page : Page) (f : Fragment) (fs : List Fragment) :
    page.emit (f :: fs) = (page.apply f).emit fs := by simp [emit]

end Page

/-- The text of fragments laid out on an empty page. -/
def Fragment.render (fragments : List Fragment) : String := (Page.source.emit fragments).text

end BuilderGen
