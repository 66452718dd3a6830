import BuilderGen.Toml.Token

/-!
# BuilderGen.Toml.Written

A text **as it is written in a document**. Of the four forms of quoted texts the
first one is taken that shows the text plainly:

* between double quotes, if nothing in it has to be escaped;
* between single quotes;
* between three double quotes;
* between three single quotes;
* else with escapes, between three double quotes if it has several lines.

A form over several lines starts on a new line exactly when the text has several
lines itself.
-/

namespace BuilderGen.Toml

/-- Whether `c` is a control character other than tab and line feed. -/
def isCode (c : Char) : Bool :=
  (c.toNat < 0x20 && c != '\t' && c != '\n') || c.toNat == 0x7F

/-- The length of the longest run of `q`, where `run` of them lie directly before. -/
def longestRun (q : Char) (run : Nat) : List Char → Nat
  | [] => run
  | c :: cs => if c = q then longestRun q (run + 1) cs else max run (longestRun q 0 cs)

/-- Whether the text shows plainly between double quotes. -/
def isPlainBasic (cs : List Char) : Bool :=
  !cs.any isCode && !cs.contains '\\' && !cs.contains '"' && !cs.contains '\n'

/-- Whether the text can stand between single quotes. -/
def isLiteral (cs : List Char) : Bool :=
  !cs.any isCode && !cs.contains '\'' && !cs.contains '\n'

/-- Whether the text shows plainly between three double quotes. -/
def isPlainMultiBasic (cs : List Char) : Bool :=
  !cs.any isCode && !cs.contains '\\' && longestRun '"' 0 cs < 3

/-- Whether the text can stand between three single quotes. -/
def isMultiLiteral (cs : List Char) : Bool :=
  !cs.any isCode && longestRun '\'' 0 cs < 3

/-- A digit of a number below sixteen, upper-case. -/
def upperHexDigit (n : Nat) : Char := (Nat.digitChar n).toUpper

/-- A character other than a quote in a text with escapes. -/
def escapedPlain (multiline : Bool) (c : Char) : List Char :=
  match c with
  | '\x08' => ['\\', 'b']
  | '\t' => ['\\', 't']
  | '\n' => if multiline then ['\n'] else ['\\', 'n']
  | '\x0c' => ['\\', 'f']
  | '\r' => ['\\', 'r']
  | '\\' => ['\\', '\\']
  | c =>
    if c.toNat < 0x20 || c.toNat == 0x7F then
      ['\\', 'u', '0', '0', upperHexDigit (c.toNat / 16), upperHexDigit (c.toNat % 16)]
    else [c]

/-- The text with escapes. `run` counts the quotes written plainly just before: over
several lines, two of them may stand together, on one line none. -/
def escapedText (multiline : Bool) (run : Nat) : List Char → List Char
  | [] => []
  | c :: cs =>
    if c = '"' then
      if run < (if multiline then 2 else 0) then '"' :: escapedText multiline (run + 1) cs
      else '\\' :: '"' :: escapedText multiline 0 cs
    else escapedPlain multiline c ++ escapedText multiline 0 cs

/-- The line break at the start of a form over several lines. -/
def openingBreak (cs : List Char) : List Char := if cs.contains '\n' then ['\n'] else []

/-- Between double quotes, with escapes. -/
def basicForm (cs : List Char) : List Char := '"' :: escapedText false 0 cs ++ ['"']

/-- Between three double quotes, with escapes. -/
def multiBasicForm (cs : List Char) : List Char :=
  ['"', '"', '"'] ++ openingBreak cs ++ escapedText true 0 cs ++ ['"', '"', '"']

/-- Between single quotes. -/
def literalForm (cs : List Char) : List Char := '\'' :: cs ++ ['\'']

/-- Between three single quotes. -/
def multiLiteralForm (cs : List Char) : List Char :=
  ['\'', '\'', '\''] ++ openingBreak cs ++ cs ++ ['\'', '\'', '\'']

/-- The text as it is written. -/
def writtenChars (cs : List Char) : List Char :=
  if isPlainBasic cs then basicForm cs
  else if isLiteral cs then literalForm cs
  else if isPlainMultiBasic cs then multiBasicForm cs
  else if isMultiLiteral cs then multiLiteralForm cs
  else if cs.contains '\n' then multiBasicForm cs
  else basicForm cs

/-- The text as it is written. -/
def written (text : String) : String := String.ofList (writtenChars text.toList)

end BuilderGen.Toml
