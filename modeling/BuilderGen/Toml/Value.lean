import BuilderGen.Decimal

/-!
# BuilderGen.Toml.Value

**TOML values.** A table keeps its entries in the order in which they were
declared, and remembers how it came about (`Origin`), because that decides what
may still be added to it.
-/

namespace BuilderGen.Toml

/-- How a table came about. -/
inductive Origin
  /-- Declared by a header of its own, or the root of the document. -/
  | header
  /-- Only named as a parent in the header of another table. -/
  | implied
  /-- Named by a dotted key. -/
  | dotted
  /-- Written between braces; nothing can be added to it. -/
  | inline
  deriving DecidableEq, Repr

/-- A value. -/
inductive Value
  | text (value : String)
  | integer (value : Int)
  /-- What starts like an integer, but holds other characters than its digits too. -/
  | illegible
  | decimal (value : Decimal)
  | boolean (value : Bool)
  /-- A date, a time of day or both, in normal form. -/
  | moment (value : String)
  /-- A list written between brackets. -/
  | list (items : List Value)
  /-- A list of tables, each declared by a header. -/
  | tables (items : List (List (String × Value)))
  | table (origin : Origin) (entries : List (String × Value))
  deriving Inhabited

/-- The entries of a table, in order. -/
abbrev Entries := List (String × Value)

end BuilderGen.Toml
