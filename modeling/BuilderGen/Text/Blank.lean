/-!
# BuilderGen.Text.Blank

**Blank characters**, those with Unicode's `White_Space` property, and the
removal of blanks at both ends of a text.
-/

namespace BuilderGen.Text

/-- Whether `c` has the `White_Space` property. -/
def isBlank (c : Char) : Bool :=
  let n := c.toNat
  (0x0009 ≤ n && n ≤ 0x000D) || n == 0x0020 || n == 0x0085 || n == 0x00A0 || n == 0x1680 ||
    (0x2000 ≤ n && n ≤ 0x200A) || n == 0x2028 || n == 0x2029 || n == 0x202F || n == 0x205F ||
    n == 0x3000

/-- `cs` without the blanks at its end. -/
def dropEndBlanks : List Char → List Char
  | [] => []
  | c :: cs =>
    match dropEndBlanks cs with
    | [] => if isBlank c then [] else [c]
    | d :: ds => c :: d :: ds

/-- `cs` without the blanks at its ends. -/
def trimChars (cs : List Char) : List Char :=
  dropEndBlanks (cs.dropWhile isBlank)

/-- `text` without the blanks at its ends. -/
def trim (text : String) : String := String.ofList (trimChars text.toList)

/-- Whether `text` holds nothing but blanks. -/
def isBlankText (text : String) : Bool := text.toList.all isBlank

@[simp] theorem toList_trim (text : String) : (trim text).toList = trimChars text.toList := by
  simp [trim]

/-- A list loses everything at its end exactly when it is blank. -/
theorem dropEndBlanks_eq_nil_iff {cs : List Char} :
    dropEndBlanks cs = [] ↔ cs.all isBlank = true := by
  induction cs with
  | nil => simp [dropEndBlanks]
  | cons c cs ih =>
    rw [dropEndBlanks]
    split
    next h => simp only [h, true_iff] at ih; by_cases hc : isBlank c <;> simp [hc]; simpa using ih
    next d ds h =>
      simp only [h, reduceCtorEq, false_iff] at ih
      simp only [reduceCtorEq, List.all_cons, Bool.and_eq_true, false_iff, not_and]
      exact fun _ => ih

end BuilderGen.Text
