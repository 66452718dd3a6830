/-!
# BuilderGen.Text.Identifier

**Identifiers**: the names that a declaration may use. An identifier starts with
an ASCII letter or an underscore and goes on with ASCII letters, digits and
underscores.
-/

namespace BuilderGen.Text

/-- Whether `c` may start an identifier. -/
def isIdentifierStart (c : Char) : Bool := c.isAlpha || c == '_'

/-- Whether `c` may follow in an identifier. -/
def isIdentifierRest (c : Char) : Bool := c.isAlphanum || c == '_'

/-- Whether the characters form an identifier. -/
def isIdentifierChars : List Char → Bool
  | [] => false
  | c :: cs => isIdentifierStart c && cs.all isIdentifierRest

/-- Whether `name` is an identifier. -/
def isIdentifier (name : String) : Bool := isIdentifierChars name.toList

@[simp] theorem isIdentifierChars_nil : isIdentifierChars [] = false := rfl

@[simp] theorem isIdentifierChars_cons (c : Char) (cs : List Char) :
    isIdentifierChars (c :: cs) = (isIdentifierStart c && cs.all isIdentifierRest) := rfl

theorem isIdentifierRest_of_start {c : Char} (h : isIdentifierStart c = true) :
    isIdentifierRest c = true := by
  simp only [isIdentifierStart, isIdentifierRest, Char.isAlphanum, Bool.or_eq_true] at *
  rcases h with h | h <;> simp [h]

/-- Every character of an identifier may follow in one. -/
theorem all_rest_of_identifier {cs : List Char} (h : isIdentifierChars cs = true) :
    cs.all isIdentifierRest = true := by
  cases cs with
  | nil => rfl
  | cons c cs =>
    simp only [isIdentifierChars_cons, Bool.and_eq_true] at h
    simp [isIdentifierRest_of_start h.1, h.2]

end BuilderGen.Text
