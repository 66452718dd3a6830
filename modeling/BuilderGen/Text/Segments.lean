/-!
# BuilderGen.Text.Segments

Texts **cut at a separator** of one or more characters, and put together again.

Cutting goes from left to right, and the occurrences at which it cuts do not
overlap: `a:::b` has the segments `a` and `:b` at `::`. A text always has at least
one segment, an empty text the empty one.
-/

namespace BuilderGen.Text

/-- The segments of a character list at `sep`, where `skip` characters of a
separator still lie ahead and `segment` has been read of the first segment, last
character first. -/
def segmentsFrom (sep : List Char) (skip : Nat) (segment : List Char) :
    List Char → List (List Char)
  | [] => [segment.reverse]
  | c :: cs =>
    match skip with
    | skip + 1 => segmentsFrom sep skip segment cs
    | 0 =>
      if sep.isPrefixOf (c :: cs) then
        segment.reverse :: segmentsFrom sep (sep.length - 1) [] cs
      else segmentsFrom sep 0 (c :: segment) cs

/-- The segments of a character list at a separator that is not empty. -/
def segmentChars (sep cs : List Char) : List (List Char) := segmentsFrom sep 0 [] cs

/-- The segments of `text` at `sep`. -/
def segments (sep text : String) : List String :=
  (segmentChars sep.toList text.toList).map String.ofList

/-- `parts` one after another with `sep` between neighbours. -/
def joinWith (sep : String) : List String → String
  | [] => ""
  | [part] => part
  | part :: rest => part ++ sep ++ joinWith sep rest

@[simp] theorem joinWith_nil (sep : String) : joinWith sep [] = "" := rfl

@[simp] theorem joinWith_singleton (sep part : String) : joinWith sep [part] = part := rfl

theorem joinWith_cons_cons (sep a b : String) (rest : List String) :
    joinWith sep (a :: b :: rest) = a ++ sep ++ joinWith sep (b :: rest) := rfl

theorem segmentsFrom_ne_nil (sep cs : List Char) :
    ∀ (skip : Nat) (segment : List Char), segmentsFrom sep skip segment cs ≠ [] := by
  induction cs with
  | nil => intro skip segment; simp [segmentsFrom]
  | cons c cs ih =>
    intro skip segment
    cases skip with
    | zero => simp only [segmentsFrom]; split <;> simp [ih]
    | succ n => simp only [segmentsFrom]; exact ih _ _

theorem segments_ne_nil (sep text : String) : segments sep text ≠ [] := by
  simp [segments, segmentChars, segmentsFrom_ne_nil]

end BuilderGen.Text
