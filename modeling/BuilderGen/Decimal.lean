/-!
# BuilderGen.Decimal

**Decimal numbers as the nearest binary64 number** and back to their shortest
decimal text.

Design points:

* Everything is exact arithmetic on naturals. A positive number is a fraction
  `num / den`; a binary64 number is `mantissa · 2 ^ exponent`.
* Rounding goes to the nearest number, and from halfway to the even mantissa.
* The shortest text has the fewest digits among the decimals that round back to
  the number, and of those it is the nearest one; of two that are equally near it
  is the greater one.
-/

namespace BuilderGen

/-- A number as it is written with a fraction or an exponent. -/
inductive Decimal
  /-- `mantissa · 10 ^ exponent`, negated if `negative` holds. -/
  | finite (negative : Bool) (mantissa : Nat) (exponent : Int)
  | infinite (negative : Bool)
  | notANumber
  deriving DecidableEq, Repr

/-- A binary64 number. -/
inductive Binary64
  /-- `mantissa · 2 ^ exponent`, negated if `negative` holds. -/
  | finite (negative : Bool) (mantissa : Nat) (exponent : Int)
  | infinite (negative : Bool)
  | notANumber
  deriving DecidableEq, Repr

namespace Binary64

/-- `num / den` rounded to the nearest natural number, halfway to the even one. -/
def roundDiv (num den : Nat) : Nat :=
  let q := num / den
  let twice := 2 * (num % den)
  if twice < den then q
  else if den < twice then q + 1
  else if q % 2 = 0 then q else q + 1

/-- `num / den · base ^ exponent` as a fraction. -/
def scale (base num den : Nat) : Int → Nat × Nat
  | .ofNat exponent => (num * base.pow exponent, den)
  | .negSucc exponent => (num, den * base.pow (exponent + 1))

/-- The least exponent of a binary64 number. -/
def leastExponent : Int := -1074

/-- The greatest exponent of a binary64 number. -/
def greatestExponent : Int := 971

/-- The least mantissa that takes all 53 bits. -/
def leastFullMantissa : Nat := Nat.pow 2 52

/-- The mantissas have 53 bits. -/
def mantissaBound : Nat := Nat.pow 2 53

/-- The binary64 number nearest to a positive fraction. -/
def ofFraction (negative : Bool) (num den : Nat) : Binary64 :=
  let estimate : Int := (num.log2 : Int) - (den.log2 : Int) - 52
  let wide := scale 2 num den (-estimate)
  let fitted := if wide.1 / wide.2 < leastFullMantissa then estimate - 1 else estimate
  let exponent := max fitted leastExponent
  let exact := scale 2 num den (-exponent)
  let mantissa := roundDiv exact.1 exact.2
  let carried :=
    if mantissa = mantissaBound then (leastFullMantissa, exponent + 1) else (mantissa, exponent)
  if greatestExponent < carried.2 then .infinite negative
  else .finite negative carried.1 carried.2

/-- The binary64 number nearest to a decimal. Exponents far outside the range
are settled by the number of digits. -/
def ofDecimal : Decimal → Binary64
  | .finite negative mantissa exponent =>
    let magnitude : Int := ((Nat.toDigits 10 mantissa).length : Int) + exponent
    if mantissa = 0 ∨ magnitude < -400 then .finite negative 0 leastExponent
    else if 400 < magnitude then .infinite negative
    else
      let fraction := scale 10 mantissa 1 exponent
      ofFraction negative fraction.1 fraction.2
  | .infinite negative => .infinite negative
  | .notANumber => .notANumber

/-! ### Shortest text -/

/-- The numbers that round to `mantissa · 2 ^ exponent`, as fractions over the
same denominator: the lower end, the number itself, the upper end. Below a power
of two the neighbours are half as far away. -/
def neighbourhood (mantissa : Nat) (exponent : Int) : Nat × Nat × Nat × Nat :=
  let quarter := scale 2 1 1 (exponent - 2)
  let below := if mantissa = leastFullMantissa ∧ leastExponent < exponent then 1 else 2
  ((4 * mantissa - below) * quarter.1, 4 * mantissa * quarter.1,
    (4 * mantissa + 2) * quarter.1, quarter.2)

/-- Whether `digits · 10 ^ place` rounds to the number with this neighbourhood. -/
def roundsBack (even : Bool) (low high den digits : Nat) (place : Int) : Bool :=
  let point := scale 10 digits 1 place
  let scaled := point.1 * den
  let least := low * point.2
  let greatest := high * point.2
  if even then least ≤ scaled && scaled ≤ greatest else least < scaled && scaled < greatest

/-- The distance between `digits · 10 ^ place` and `value / den`, over `den` and
the denominator of the place. -/
def distance (value den digits : Nat) (place : Int) : Nat :=
  let point := scale 10 digits 1 place
  (((point.1 * den : Nat) : Int) - ((value * point.2 : Nat) : Int)).natAbs

/-- The decimal place of the first of `count` digits' last one: the power of ten
that leaves `count` digits before the point, by the number of digits of the whole
part, or of the zeros after the point. -/
def firstPlace (value den : Nat) : Int :=
  if den ≤ value then ((Nat.toDigits 10 (value / den)).length : Int)
  else 1 - ((Nat.toDigits 10 (den / value)).length : Int)

/-- The shortest digits and their place, trying more and more digits; `left` counts
the tries that remain. -/
def shortestFrom (even : Bool) (low value high den : Nat) (place : Int) : Nat → Nat × Int
  | 0 => (value, 0)
  | left + 1 =>
    let grid := scale 10 value den (-place)
    let lower := grid.1 / grid.2
    let upper := lower + 1
    let fits := fun digits => digits != 0 && roundsBack even low high den digits place
    let nearer :=
      if distance value den upper place ≤ distance value den lower place then upper else lower
    if fits lower && fits upper then (nearer, place)
    else if fits lower then (lower, place)
    else if fits upper then (upper, place)
    else shortestFrom even low value high den (place - 1) left

/-- The digits of a positive number and the place of the last one. -/
def shortest (mantissa : Nat) (exponent : Int) : Nat × Int :=
  let (low, value, high, den) := neighbourhood mantissa exponent
  shortestFrom (mantissa % 2 == 0) low value high den (firstPlace value den) 25

/-- `digits` with a decimal point `point` digits after the start. -/
def positional (digits : List Char) (point : Int) : List Char :=
  let count : Int := digits.length
  if count ≤ point then digits ++ List.replicate (point - count).toNat '0' ++ ['.', '0']
  else if 0 < point then digits.take point.toNat ++ '.' :: digits.drop point.toNat
  else '0' :: '.' :: List.replicate (-point).toNat '0' ++ digits

/-- The text of a number: the shortest decimal, never with an exponent, always
with a point. -/
def text : Binary64 → String
  | .finite negative mantissa exponent =>
    let sign := if negative then ['-'] else []
    if mantissa = 0 then String.ofList (sign ++ ['0', '.', '0'])
    else
      let (digits, place) := shortest mantissa exponent
      let digitChars := Nat.toDigits 10 digits
      let kept := (digitChars.reverse.dropWhile (· == '0')).reverse
      String.ofList (sign ++ positional kept (digitChars.length + place))
  | .infinite negative => if negative then "-inf" else "inf"
  | .notANumber => "NaN"

/-- Whether the number is finite. -/
def isFinite : Binary64 → Bool
  | .finite .. => true
  | _ => false

end Binary64
end BuilderGen
