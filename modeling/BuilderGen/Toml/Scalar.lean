import BuilderGen.Toml.Moment
import BuilderGen.Toml.Value

/-!
# BuilderGen.Toml.Scalar

**Scalars that are written without quotes**: booleans, integers, decimals, dates
and times. A scalar is read as a whole from its characters; what is none of these
is no value.

Design points:

* Digits may be grouped by single underscores, each between two digits. The whole
  part of a number has no leading zeros.
* Integers in another base than ten have no sign.
* What an integer looks like is decided by its start: digits and then an
  underscore. If something else than digits is left behind it, it is a value
  still, but an illegible one, and only who wants to know the number is told.
* Tabs within a scalar are left to the kinds of scalars, of which only an integer
  takes them, as something else than digits. A space stands in no number.
-/

namespace BuilderGen.Toml

/-! ### Groups of digits -/

/-- The characters without underscores, each of which has to stand between two
digits. `behindDigit` tells whether the characters follow a digit. -/
def ungroupedFrom? (isDigit : Char → Bool) (behindDigit : Bool) : List Char → Option (List Char)
  | [] => some []
  | c :: cs =>
    if c = '_' then
      if behindDigit && cs.head?.any isDigit then ungroupedFrom? isDigit false cs else none
    else (c :: ·) <$> ungroupedFrom? isDigit (isDigit c) cs

/-- The characters of a number without the underscores between its digits. -/
def ungrouped? (isDigit : Char → Bool) (cs : List Char) : Option (List Char) :=
  ungroupedFrom? isDigit false cs

/-- Whether a number starts with a zero that is not all of it. -/
def hasLeadingZero : List Char → Bool
  | '0' :: _ :: _ => true
  | _ => false

/-! ### Integers -/

/-- An integer in base ten without underscores, after its sign. -/
def integerOf (negative : Bool) (digits : List Char) : Value :=
  if digits.all Char.isDigit then
    .integer (if negative then -(numberOf 10 digits : Int) else numberOf 10 digits)
  else .illegible

/-- An integer in base ten. Of the characters between underscores it matters only
that those beside an underscore are digits of any base. -/
def integer? (cs : List Char) : Option Value :=
  (ungrouped? (fun c => (hexValue? c).isSome) cs).map fun
    | '-' :: digits => integerOf true digits
    | '+' :: digits => integerOf false digits
    | digits => integerOf false digits

/-- An integer in another base, after what tells the base. Without any digits it is
illegible. -/
def basedInteger? (base : Nat) (cs : List Char) : Option Value :=
  let isDigit := fun c => (hexValue? c).any (· < base)
  if cs.all fun c => c == '_' || isDigit c then
    (ungrouped? isDigit cs).map fun digits =>
      if digits.isEmpty then .illegible else .integer (numberOf base digits)
  else none

/-! ### Decimals -/

/-- The exponent with its letter, if there is one: digits, with or without a sign. -/
def exponent? : List Char → Option Int
  | [] => some 0
  | letter :: cs =>
    let magnitude? := fun (digits : List Char) =>
      if !digits.isEmpty && digits.all Char.isDigit then some (numberOf 10 digits) else none
    if letter == 'e' || letter == 'E' then
      match cs with
      | '-' :: cs => (magnitude? cs).map fun n => -(n : Int)
      | '+' :: cs => (magnitude? cs).map fun n => (n : Int)
      | cs => (magnitude? cs).map fun n => (n : Int)
    else none

/-- The digits of a fraction with its point, if there is one, and what follows. -/
def fraction? : List Char → Option (List Char × List Char)
  | '.' :: cs =>
    let digits := cs.takeWhile Char.isDigit
    if digits.isEmpty then none else some (digits, cs.dropWhile Char.isDigit)
  | cs => some ([], cs)

/-- A decimal without underscores, after its sign. -/
def unsignedDecimal? (negative : Bool) (cs : List Char) : Option Value := do
  let whole := cs.takeWhile Char.isDigit
  guard !whole.isEmpty
  let (fraction, rest) ← fraction? (cs.dropWhile Char.isDigit)
  let exponent ← exponent? rest
  return .decimal (.finite negative (numberOf 10 (whole ++ fraction)) (exponent - fraction.length))

/-- A decimal. -/
def decimal? (cs : List Char) : Option Value := do
  match ← ungrouped? Char.isDigit cs with
  | '-' :: digits => unsignedDecimal? true digits
  | '+' :: digits => unsignedDecimal? false digits
  | digits => unsignedDecimal? false digits

/-! ### Scalars -/

/-- A number or a moment. `cs` are all characters, `unsigned` those behind the sign:
what follows their first digits tells what it is. -/
def number? (cs unsigned : List Char) : Option Value :=
  let rest := unsigned.dropWhile Char.isDigit
  let isPointed := fun c => c == '.' || c == 'e' || c == 'E'
  match rest with
  | [] => if unsigned.isEmpty || hasLeadingZero unsigned then none else integer? cs
  | c :: _ =>
    if c == '-' || c == ':' then (moment? cs).map .moment
    else if rest.contains ' ' then none
    else if rest.any isPointed then
      let whole := unsigned.takeWhile fun c => c.isDigit || c == '_'
      if hasLeadingZero (whole.filter (· != '_')) then none else decimal? cs
    else if c == '_' then if hasLeadingZero unsigned then none else integer? cs
    else none

/-- A number, infinity, no number at all or a moment. -/
def numeric? (negative : Bool) (cs unsigned : List Char) : Option Value :=
  if unsigned = ['i', 'n', 'f'] then some (.decimal (.infinite negative))
  else if unsigned = ['n', 'a', 'n'] then some (.decimal .notANumber)
  else number? cs unsigned

/-- The value that characters without quotes stand for. -/
def scalar? (cs : List Char) : Option Value :=
  if cs = ['t', 'r', 'u', 'e'] then some (.boolean true)
  else if cs = ['f', 'a', 'l', 's', 'e'] then some (.boolean false)
  else
    match cs with
    | '0' :: 'x' :: rest => basedInteger? 16 rest
    | '0' :: 'o' :: rest => basedInteger? 8 rest
    | '0' :: 'b' :: rest => basedInteger? 2 rest
    | '-' :: rest => numeric? true cs rest
    | '+' :: rest => numeric? false cs rest
    | cs => numeric? false cs cs

end BuilderGen.Toml
