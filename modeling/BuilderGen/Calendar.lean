/-!
# BuilderGen.Calendar

The **Gregorian calendar**, also before its introduction: leap years and the
lengths of months. A date unset anywhere is the first day of 1970.
-/

namespace BuilderGen

/-- A date. -/
structure Date where
  year : Int := 1970
  month : Nat := 1
  day : Nat := 1
  deriving DecidableEq, Repr

namespace Calendar

/-- Whether `year` has a 29th of February. -/
def isLeapYear (year : Nat) : Bool :=
  year % 4 == 0 && (year % 100 != 0 || year % 400 == 0)

/-- The number of days of a month; none for a number that is no month. -/
def daysInMonth (year month : Nat) : Nat :=
  if month = 2 then if isLeapYear year then 29 else 28
  else if month = 4 ∨ month = 6 ∨ month = 9 ∨ month = 11 then 30
  else if 1 ≤ month ∧ month ≤ 12 then 31
  else 0

/-- Whether the numbers are a date. -/
def isDate (year month day : Nat) : Bool := 1 ≤ day && day ≤ daysInMonth year month

/-- Whether the numbers are a time of day; the second may be a leap second. -/
def isTimeOfDay (hour minute second : Nat) : Bool := hour < 24 && minute < 60 && second ≤ 60

end Calendar
end BuilderGen
