/-!
# BuilderGen.Text.Search

**Occurrences of a pattern** in a text, by the number of bytes before them in
UTF-8. Occurrences are found from left to right and do not overlap.
-/

namespace BuilderGen.Text

/-- The number of bytes that `cs` takes in UTF-8. -/
def byteCount (cs : List Char) : Nat := cs.foldr (fun c n => c.utf8Size + n) 0

@[simp] theorem byteCount_nil : byteCount [] = 0 := rfl

@[simp] theorem byteCount_cons (c : Char) (cs : List Char) :
    byteCount (c :: cs) = c.utf8Size + byteCount cs := rfl

@[simp] theorem byteCount_append (as bs : List Char) :
    byteCount (as ++ bs) = byteCount as + byteCount bs := by
  induction as with
  | nil => simp
  | cons a as ih => simp [ih, Nat.add_assoc]

/-- The offsets at which `pattern` occurs, where `offset` bytes lie before the
characters and `skip` of them still belong to the occurrence before. -/
def occurrencesFrom (pattern : List Char) (skip offset : Nat) : List Char → List Nat
  | [] => []
  | c :: cs =>
    match skip with
    | skip + 1 => occurrencesFrom pattern skip (offset + c.utf8Size) cs
    | 0 =>
      if pattern.isPrefixOf (c :: cs) then
        offset :: occurrencesFrom pattern (pattern.length - 1) (offset + c.utf8Size) cs
      else occurrencesFrom pattern 0 (offset + c.utf8Size) cs

/-- The byte offsets of the occurrences of a pattern that is not empty. -/
def occurrences (pattern text : String) : List Nat :=
  occurrencesFrom pattern.toList 0 0 text.toList

/-- Whether `pattern` stands somewhere in the characters. -/
def hasInfixChars (pattern : List Char) : List Char → Bool
  | [] => pattern.isEmpty
  | c :: cs => pattern.isPrefixOf (c :: cs) || hasInfixChars pattern cs

end BuilderGen.Text
