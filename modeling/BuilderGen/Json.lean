/-!
# BuilderGen.Json

**JSON values** whose objects keep their members in order, and their text laid
out over several lines: two spaces a level, one item or member a line, empty
lists and objects on one.

Strings escape the quote, the backslash and the control characters; all other
characters stand for themselves.
-/

namespace BuilderGen

/-- A JSON value. The numbers are integers. -/
inductive Json
  | null
  | boolean (value : Bool)
  | number (value : Int)
  | text (value : String)
  | list (items : List Json)
  | object (members : List (String × Json))

namespace Json

/-- A digit of a number below sixteen. -/
def hexDigit (n : Nat) : Char := Nat.digitChar n

/-- One character of a string. -/
def escapedChar (c : Char) : List Char :=
  match c with
  | '"' => ['\\', '"']
  | '\\' => ['\\', '\\']
  | '\x08' => ['\\', 'b']
  | '\t' => ['\\', 't']
  | '\n' => ['\\', 'n']
  | '\x0c' => ['\\', 'f']
  | '\r' => ['\\', 'r']
  | c =>
    if c.toNat < 0x20 then ['\\', 'u', '0', '0', hexDigit (c.toNat / 16), hexDigit (c.toNat % 16)]
    else [c]

/-- A string in quotes. -/
def escaped (value : String) : String :=
  String.ofList ('"' :: value.toList.flatMap escapedChar ++ ['"'])

/-- A line break and the indentation of a level. -/
def newline (depth : Nat) : String :=
  String.ofList ('\n' :: List.replicate (2 * depth) ' ')

mutual

/-- The text of a value that stands at level `depth`. -/
def prettyAt (depth : Nat) : Json → String
  | null => "null"
  | boolean value => if value then "true" else "false"
  | number value => toString value
  | text value => escaped value
  | list [] => "[]"
  | list (item :: items) =>
    "[" ++ newline (depth + 1) ++ prettyAt (depth + 1) item ++ prettyItems (depth + 1) items ++
      newline depth ++ "]"
  | object [] => "\x7b\x7d"
  | object ((key, value) :: members) =>
    "\x7b" ++ newline (depth + 1) ++ escaped key ++ ": " ++ prettyAt (depth + 1) value ++
      prettyMembers (depth + 1) members ++ newline depth ++ "\x7d"

/-- The items after the first one. -/
def prettyItems (depth : Nat) : List Json → String
  | [] => ""
  | item :: items => "," ++ newline depth ++ prettyAt depth item ++ prettyItems depth items

/-- The members after the first one. -/
def prettyMembers (depth : Nat) : List (String × Json) → String
  | [] => ""
  | (key, value) :: members =>
    "," ++ newline depth ++ escaped key ++ ": " ++ prettyAt depth value ++
      prettyMembers depth members

end

/-- The text of a value, over several lines. -/
def pretty (value : Json) : String := prettyAt 0 value

/-- A text, or null. -/
def ofText? : Option String → Json
  | some value => text value
  | none => null

/-- A member that is left out when there is no value. -/
def member? (key : String) : Option Json → List (String × Json)
  | some value => [(key, value)]
  | none => []

end Json
end BuilderGen
