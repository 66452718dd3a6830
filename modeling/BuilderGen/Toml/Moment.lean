import BuilderGen.Calendar
import BuilderGen.Text.Number
import BuilderGen.Toml.Token

/-!
# BuilderGen.Toml.Moment

**Moments**: dates, times of day, and both together with or without an offset.
A moment is held as its normal form: upper-case marks, seconds always written, a
fraction of at most nine digits that does not end in zero, and no offset written
as ahead of UTC.
-/

namespace BuilderGen.Toml

/-- The number that digits below `base` stand for. -/
def numberOf (base : Nat) (digits : List Char) : Nat :=
  digits.foldl (fun n c => n * base + (hexValue? c).getD 0) 0

/-- A number of two digits at the front, and what follows. -/
def twoDigits? : List Char → Option (Nat × List Char)
  | a :: b :: rest =>
    if a.isDigit && b.isDigit then some (numberOf 10 [a, b], rest) else none
  | _ => none

/-- `c` at the front, and what follows. -/
def mark? (c : Char) : List Char → Option (List Char)
  | d :: rest => if c = d then some rest else none
  | [] => none

/-- A date at the front in normal form, and what follows. -/
def date? (cs : List Char) : Option (String × List Char) := do
  let (century, cs) ← twoDigits? cs
  let (yearOfCentury, cs) ← twoDigits? cs
  let cs ← mark? '-' cs
  let (month, cs) ← twoDigits? cs
  let cs ← mark? '-' cs
  let (day, cs) ← twoDigits? cs
  let year := century * 100 + yearOfCentury
  guard (Calendar.isDate year month day)
  return (Text.padded 4 year ++ "-" ++ Text.padded 2 month ++ "-" ++ Text.padded 2 day, cs)

/-- A fraction of a second in normal form: nine digits count, trailing zeros are
dropped, and of a fraction that is zero nothing is left. -/
def fractionText (digits : List Char) : String :=
  let kept := ((digits.take 9).reverse.dropWhile (· == '0')).reverse
  if kept.isEmpty then "" else "." ++ String.ofList kept

/-- A time of day in normal form. -/
def timeText (hour minute second : Nat) : String :=
  Text.padded 2 hour ++ ":" ++ Text.padded 2 minute ++ ":" ++ Text.padded 2 second

/-- A time of day at the front in normal form, and what follows. Seconds may be
left out, which stands for none, and have a fraction only if they are there. -/
def timeOfDay? (cs : List Char) : Option (String × List Char) := do
  let (hour, cs) ← twoDigits? cs
  let cs ← mark? ':' cs
  let (minute, cs) ← twoDigits? cs
  match cs with
  | ':' :: cs =>
    let (second, cs) ← twoDigits? cs
    guard (Calendar.isTimeOfDay hour minute second)
    match cs with
    | '.' :: cs =>
      let digits := cs.takeWhile Char.isDigit
      guard !digits.isEmpty
      return (timeText hour minute second ++ fractionText digits, cs.dropWhile Char.isDigit)
    | cs => return (timeText hour minute second, cs)
  | cs =>
    guard (Calendar.isTimeOfDay hour minute 0)
    return (timeText hour minute 0, cs)

/-- The offset of a time zone, which has to be the last part. -/
def offset? : List Char → Option String
  | [] => some ""
  | ['Z'] | ['z'] => some "Z"
  | sign :: cs => do
    guard (sign == '+' || sign == '-')
    let (hour, cs) ← twoDigits? cs
    let cs ← mark? ':' cs
    let (minute, cs) ← twoDigits? cs
    guard (hour < 24 && minute < 60 && cs.isEmpty)
    let sign := if hour = 0 ∧ minute = 0 then '+' else sign
    return String.ofList [sign] ++ Text.padded 2 hour ++ ":" ++ Text.padded 2 minute

/-- The normal form of a date, a time of day, or a date and time with or without an
offset. -/
def moment? (cs : List Char) : Option String :=
  match date? cs with
  | some (date, []) => some date
  | some (date, c :: rest) => do
    guard (c == 'T' || c == 't' || c == ' ')
    let (time, rest) ← timeOfDay? rest
    let offset ← offset? rest
    return (date ++ "T" ++ time ++ offset)
  | none => do
    let (time, rest) ← timeOfDay? cs
    guard rest.isEmpty
    return time

end BuilderGen.Toml
