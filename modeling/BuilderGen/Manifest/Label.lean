import BuilderGen.Manifest.Violation
import BuilderGen.Text.Search

/-!
# BuilderGen.Manifest.Label

**Labels**: the places in the text of a manifest that a violation is about. They
are found by searching the text for what usually stands there: a name at the end
of a header or inside one, else as the value of the key `name`. A label whose
place is not found has no span.
-/

namespace BuilderGen

/-- A range of a text, in bytes. -/
structure Span where
  offset : Nat
  length : Nat
  deriving DecidableEq, Repr

/-- A remark about a place in a text. -/
structure Label where
  text : String
  span : Option Span
  deriving DecidableEq, Repr

/-- The number of bytes of a text. -/
def textBytes (text : String) : Nat := Text.byteCount text.toList

/-- The offset of an occurrence of the first pattern that occurs often enough,
counting occurrences from zero. -/
def occurrence? (text : String) (nth : Nat) (patterns : List String) : Option Nat :=
  patterns.findSome? fun pattern => (Text.occurrences pattern text)[nth]?

/-- The value of a key, written between double or else between single quotes. -/
def valueSpan? (text key value : String) (nth : Nat) : Option Span :=
  (occurrence? text nth
    [key ++ " = \"" ++ value ++ "\"", key ++ " = '" ++ value ++ "'"]).map fun offset =>
      { offset := offset + textBytes key + 4, length := textBytes value }

/-- A name in a header, or else as the value of the key `name`. -/
def nameSpan? (text name : String) (nth : Nat) : Option Span :=
  ((occurrence? text nth ["." ++ name ++ "]", "." ++ name ++ "."]).map fun offset =>
    { offset := offset + 1, length := textBytes name }) <|>
  valueSpan? text "name" name nth

namespace Violation

/-- What a label says about a name that is no identifier. -/
def badName : String := "invalid identifier"

/-- The labels of a violation in the text of its manifest. -/
def labels (text : String) : Violation → List Label
  | namelessProject => [{ text := "project name cannot be empty", span := none }]
  | typeName name | componentName _ name | constructorName _ name =>
    [{ text := badName, span := nameSpan? text name 0 }]
  | package _ segments =>
    [{ text := badName, span := valueSpan? text "package" segments 0 }]
  | missingType _ component => [{ text := "missing type", span := nameSpan? text component 0 }]
  | duplicateComponent _ name =>
    [{ text := "first declared here", span := nameSpan? text name 0 },
      { text := "declared again here", span := nameSpan? text name 1 }]

end Violation
end BuilderGen
