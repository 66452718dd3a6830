/-!
# BuilderGen.Text.Number

Numbers in decimal **padded to a width** with zeros on the left.
-/

namespace BuilderGen.Text

/-- The decimal digits of `n`, at least `width` of them. -/
def paddedDigits (width n : Nat) : List Char :=
  let digits := Nat.toDigits 10 n
  List.replicate (width - digits.length) '0' ++ digits

/-- `n` in decimal with at least `width` digits. -/
def padded (width n : Nat) : String := String.ofList (paddedDigits width n)

end BuilderGen.Text
