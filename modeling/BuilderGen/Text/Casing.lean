import BuilderGen.Text.CaseTable

/-!
# BuilderGen.Text.Casing

The **case conversions of names**: capitalising the first letter, and snake case.

Case is Unicode's, one character at a time: a character is upper-case when it
has the `Uppercase` property, and its lower or upper case may take several
characters (`İ`, `ß`). The neighbours of a character never matter, so a capital
sigma always becomes `σ`.

Both conversions work on character lists; `capitalize` and `snakeCase` are their
forms on strings.
-/

namespace BuilderGen.Text

/-! ### Single characters

ASCII letters are converted by arithmetic, all others by table. -/

/-- Whether `c` is an upper-case character. -/
def isUpper (c : Char) : Bool :=
  if c.toNat < 0x80 then c.isUpper
  else upperRuns.any (·.contains c.toNat)

/-- The mapping of one character: an expansion if there is one, else the shift of
its run, else the character itself. -/
def mapCase (expansions : List (Nat × List Nat)) (shifts : List ShiftRun) (c : Char) :
    List Char :=
  match expansions.lookup c.toNat with
  | some codes => codes.map Char.ofNat
  | none =>
    match shifts.find? (·.contains c.toNat) with
    | some run => [Char.ofNat (c.toNat + run.shift).toNat]
    | none => [c]

/-- The lower case of one character. -/
def lowerChar (c : Char) : List Char :=
  if c.toNat < 0x80 then [c.toLower] else mapCase lowerExpansions lowerShifts c

/-- The upper case of one character. -/
def upperChar (c : Char) : List Char :=
  if c.toNat < 0x80 then [c.toUpper] else mapCase upperExpansions upperShifts c

/-! ### Capitalising -/

/-- The first character in upper case, the rest as it is. -/
def capitalizeChars : List Char → List Char
  | [] => []
  | c :: cs => upperChar c ++ cs

/-- `name` with its first character in upper case. -/
def capitalize (name : String) : String :=
  String.ofList (capitalizeChars name.toList)

/-! ### Snake case

An upper-case character starts a new word, so an underscore goes before it,
unless it is the first character or an underscore was written just before. The
flag of `snakeWords` says that one of the two holds. Hyphens turn into
underscores only at the end: while words are cut, a hyphen is no underscore. -/

/-- Words of `cs` in lower case, each new one after an underscore. `joined` holds
at the start and whenever the last character written is an underscore. -/
def snakeWords (joined : Bool) : List Char → List Char
  | [] => []
  | c :: cs =>
    let gap := if isUpper c && !joined then ['_'] else []
    let word := lowerChar c
    gap ++ word ++ snakeWords (word.getLast? == some '_') cs

/-- Snake case on character lists. -/
def snakeChars (cs : List Char) : List Char :=
  (snakeWords true cs).map fun c => if c = '-' then '_' else c

/-- `name` in snake case. -/
def snakeCase (name : String) : String :=
  String.ofList (snakeChars name.toList)

/-! ### Small lemmas -/

@[simp] theorem capitalizeChars_nil : capitalizeChars [] = [] := rfl

@[simp] theorem capitalizeChars_cons (c : Char) (cs : List Char) :
    capitalizeChars (c :: cs) = upperChar c ++ cs := rfl

@[simp] theorem snakeWords_nil (joined : Bool) : snakeWords joined [] = [] := rfl

theorem lowerChar_of_ascii {c : Char} (h : c.toNat < 0x80) : lowerChar c = [c.toLower] := by
  simp [lowerChar, h]

theorem upperChar_of_ascii {c : Char} (h : c.toNat < 0x80) : upperChar c = [c.toUpper] := by
  simp [upperChar, h]

theorem isUpper_of_ascii {c : Char} (h : c.toNat < 0x80) : isUpper c = c.isUpper := by
  simp [isUpper, h]

@[simp] theorem toList_capitalize (name : String) :
    (capitalize name).toList = capitalizeChars name.toList := by
  simp [capitalize]

@[simp] theorem toList_snakeCase (name : String) :
    (snakeCase name).toList = snakeChars name.toList := by
  simp [snakeCase]

end BuilderGen.Text
