import BuilderGen.Text.Lines
import BuilderGen.Text.Search

/-!
# BuilderGen.Marker

The **marker of generated files**. A file counts as generated when one of its
first sixteen lines holds the marker; only such files are ever deleted.
-/

namespace BuilderGen

/-- The text that marks a file as generated. -/
def marker : String := "@generated by rebar - do not edit"

/-- How many lines at the top of a file are searched for the marker. -/
def markerLines : Nat := 16

/-- Whether `content` carries the marker in one of its first lines. -/
def isGenerated (content : String) : Bool :=
  ((Text.lineChars content.toList).take markerLines).any (Text.hasInfixChars marker.toList)

end BuilderGen
