import BuilderGen.Calendar
import BuilderGen.Text.Number
import BuilderGen.Text.Search

/-!
# BuilderGen.Stamp

The **stamp** of a generated file: a local date and time of day with the offset
of its time zone, read from the internet date format
`2024-05-01T12:30:00.5+02:00`.

Reading goes from left to right and reports the first fault. The date is checked
once its day is read, the time of day after the fraction of the second, and last
of all, whether the offset is less than a day. A second numbered 60 is a leap
second and is kept; fractions are read and dropped.
-/

namespace BuilderGen

/-- A date and time of day in a time zone `offset` minutes ahead of UTC. -/
structure Stamp where
  year : Nat
  month : Nat
  day : Nat
  hour : Nat
  minute : Nat
  second : Nat
  offset : Int
  deriving DecidableEq, Repr

namespace Stamp

/-- Why a text is no stamp. -/
inductive Fault
  /-- The text ends too early. -/
  | tooShort
  /-- A character is not the one expected. -/
  | invalid
  /-- The parts are numbers, but there is no such date, time or offset. -/
  | outOfRange
  /-- Something follows the offset. -/
  | tooLong
  deriving DecidableEq, Repr

/-- What is said about a text that is no stamp. -/
def Fault.message : Fault → String
  | tooShort => "premature end of input"
  | invalid => "input contains invalid characters"
  | outOfRange => "input is out of range"
  | tooLong => "trailing input"

/-! ### Reading -/

/-- Readers take characters from the front of the text. -/
abbrev Reader := StateT (List Char) (Except Fault)

/-- The next character, which has to satisfy `p`. -/
def take (p : Char → Bool) : Reader Char := fun text =>
  match text with
  | [] => .error .tooShort
  | c :: rest => if p c then .ok (c, rest) else .error .invalid

/-- The next character, a decimal digit. -/
def digit : Reader Nat := do
  let c ← take Char.isDigit
  return c.toNat - '0'.toNat

/-- A number of two digits. -/
def twoDigits : Reader Nat := do
  let tens ← digit
  let ones ← digit
  return tens * 10 + ones

/-- Fails with `fault` unless `ok` holds. -/
def demand (ok : Bool) (fault : Fault) : Reader Unit :=
  if ok then pure () else throw fault

/-- A point and at least one digit, if a point is next. -/
def skipFraction : Reader Unit := fun text =>
  match text with
  | '.' :: rest => do
    let (_, rest) ← digit rest
    return ((), rest.dropWhile Char.isDigit)
  | _ => .ok ((), text)

/-- The minutes of an offset, of which 60 to 99 are too many. -/
def offsetMinutes : Reader Nat := fun text =>
  match text with
  | c :: d :: rest =>
    if c.isDigit && d.isDigit then
      let minutes := (c.toNat - '0'.toNat) * 10 + (d.toNat - '0'.toNat)
      if minutes < 60 then .ok (minutes, rest) else .error .outOfRange
    else .error .invalid
  | [c] => if c.utf8Size < 2 then .error .tooShort else .error .invalid
  | [] => .error .tooShort

/-- Two digits of which the first may be missing only with the second: a lone
character is too short a text unless it takes several bytes. -/
def offsetHours : Reader Nat := fun text =>
  match text with
  | c :: d :: rest =>
    if c.isDigit && d.isDigit then
      .ok ((c.toNat - '0'.toNat) * 10 + (d.toNat - '0'.toNat), rest)
    else .error .invalid
  | [c] => if c.utf8Size < 2 then .error .tooShort else .error .invalid
  | [] => .error .tooShort

/-- The offset of the time zone in minutes: `Z`, or hours and minutes ahead of
UTC (`+`) or behind it (`-` or a minus sign). -/
def zoneOffset : Reader Int := do
  let sign ← take fun c => c == 'Z' || c == 'z' || c == '+' || c == '-' || c == '−'
  if sign == 'Z' || sign == 'z' then return 0
  let hours ← offsetHours
  let _ ← take (· == ':')
  let minutes ← offsetMinutes
  let total : Int := (hours * 60 + minutes : Nat)
  return if sign == '+' then total else -total

/-- A whole stamp. -/
def reader : Reader Stamp := do
  let century ← twoDigits
  let yearOfCentury ← twoDigits
  let year := century * 100 + yearOfCentury
  let _ ← take (· == '-')
  let month ← twoDigits
  let _ ← take (· == '-')
  let day ← twoDigits
  demand (Calendar.isDate year month day) .outOfRange
  let _ ← take fun c => c == 'T' || c == 't' || c == ' '
  let hour ← twoDigits
  let _ ← take (· == ':')
  let minute ← twoDigits
  let _ ← take (· == ':')
  let second ← twoDigits
  skipFraction
  demand (Calendar.isTimeOfDay hour minute second) .outOfRange
  let offset ← zoneOffset
  return { year, month, day, hour, minute, second, offset }

/-- The stamp that `text` stands for. A text of fewer bytes than a date and time
of day take is too short whatever it holds. -/
def ofText (text : String) : Except Fault Stamp :=
  if Text.byteCount text.toList < 19 then .error .tooShort
  else
    match reader text.toList with
    | .error fault => .error fault
    | .ok (stamp, []) => if stamp.offset.natAbs < 24 * 60 then .ok stamp else .error .outOfRange
    | .ok (_, _ :: _) => .error .tooLong

/-! ### Showing -/

/-- Date and time of day, to the second. -/
def timestamp (s : Stamp) : String :=
  Text.padded 4 s.year ++ "-" ++ Text.padded 2 s.month ++ "-" ++ Text.padded 2 s.day ++ "T" ++
    Text.padded 2 s.hour ++ ":" ++ Text.padded 2 s.minute ++ ":" ++ Text.padded 2 s.second

/-- The offset of the time zone; no offset is shown as ahead of UTC. -/
def zone (s : Stamp) : String :=
  let minutes := s.offset.natAbs
  (if s.offset < 0 then "-" else "+") ++ Text.padded 2 (minutes / 60) ++ ":" ++
    Text.padded 2 (minutes % 60)

end Stamp
end BuilderGen
