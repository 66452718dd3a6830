import BuilderGen.Toml.Moment
import BuilderGen.Toml.Value

/-!
# BuilderGen.Toml.Usable

**Values that can be used.** A document may hold numbers that are written well but
are none that a program can take: integers that do not fit a machine word,
decimals beyond binary64, and illegible ones. They matter only to those who look.

A table whose first key is `momentKey` stands for the moment it names there, and
nothing else in it is looked at.
-/

namespace BuilderGen.Toml

/-- The key under which a moment shows as a table. -/
def momentKey : String := "$__toml_private_datetime"

/-- Whether an integer has 64 bits. -/
def isWord (n : Int) : Bool := -Int.pow 2 63 ≤ n && n < Int.pow 2 63

/-- Whether an integer has 128 bits, with or without a sign. -/
def isDoubleWord (n : Int) : Bool := -Int.pow 2 127 ≤ n && n < Int.pow 2 128

/-- Whether a decimal is no larger than the largest binary64 number. -/
def isUsableDecimal : Decimal → Bool
  | d@(.finite ..) => (Binary64.ofDecimal d).isFinite
  | _ => true

/-- Whether a value is the text of a moment. -/
def isMomentText : Value → Bool
  | .text value => (moment? value.toList).isSome
  | _ => false

mutual

/-- Whether all of a value can be used. -/
def Value.isUsable : Value → Bool
  | .integer n => isWord n
  | .illegible => false
  | .decimal d => isUsableDecimal d
  | .list items => areUsable items
  | .tables items => areUsableTables items
  | .table _ entries => isUsableTable entries
  | .text _ | .boolean _ | .moment _ => true

/-- Whether all items of a list can be used. -/
def areUsable : List Value → Bool
  | [] => true
  | item :: rest => item.isUsable && areUsable rest

/-- Whether all tables of a list can be used. -/
def areUsableTables : List Entries → Bool
  | [] => true
  | entries :: rest => isUsableTable entries && areUsableTables rest

/-- Whether a table can be used, as a table or as the moment it stands for. -/
def isUsableTable : Entries → Bool
  | [] => true
  | (key, value) :: rest =>
    if key = momentKey then isMomentText value else value.isUsable && areUsableEntries rest

/-- Whether the values of all entries can be used. -/
def areUsableEntries : Entries → Bool
  | [] => true
  | (_, value) :: rest => value.isUsable && areUsableEntries rest

end

end BuilderGen.Toml
