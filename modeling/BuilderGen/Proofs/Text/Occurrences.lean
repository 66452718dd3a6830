import BuilderGen.Text.Search
import Mathlib.Data.List.Infix

/-!
# BuilderGen.Proofs.Text.Occurrences

**Where a pattern occurs in a text.** The search goes through the text once and counts bytes.
An offset that it finds is the number of bytes before a place where the pattern stands
(`exists_of_mem_occurrences`), and what it finds next starts where that ends at the earliest
(`pairwise_occurrences`). Both are about what is left of the text at any point of the search,
with some characters still to be skipped.
-/

namespace BuilderGen.Text

/-! ### The search from any point on -/

/-- An occurrence is a place where the pattern stands in the rest of the text. -/
theorem exists_of_mem_occurrencesFrom {pattern cs : List Char} :
    ∀ {skip offset found : Nat}, found ∈ occurrencesFrom pattern skip offset cs →
      ∃ before after, cs = before ++ pattern ++ after ∧ found = offset + byteCount before := by
  induction cs with
  | nil => intro skip offset found h; cases h
  | cons c cs ih =>
      intro skip offset found h
      have hrest : ∀ skip, found ∈ occurrencesFrom pattern skip (offset + c.utf8Size) cs →
          ∃ before after, c :: cs = before ++ pattern ++ after ∧
            found = offset + byteCount before := by
        intro skip hmem
        obtain ⟨before, after, hcs, hfound⟩ := ih hmem
        exact ⟨c :: before, after, by simp [hcs], by rw [byteCount_cons, hfound]; omega⟩
      cases skip with
      | succ skip => exact hrest skip h
      | zero =>
          rw [occurrencesFrom] at h
          split at h
          next hpattern =>
            rcases List.mem_cons.mp h with rfl | h
            · obtain ⟨after, hafter⟩ := List.isPrefixOf_iff_prefix.mp hpattern
              exact ⟨[], after, by simp [hafter], by simp⟩
            · exact hrest _ h
          next => exact hrest 0 h

/-- Nothing is found within the characters that are skipped. -/
theorem le_of_mem_occurrencesFrom {pattern cs : List Char} :
    ∀ {skip offset found : Nat}, found ∈ occurrencesFrom pattern skip offset cs →
      offset + byteCount (cs.take skip) ≤ found := by
  induction cs with
  | nil => intro skip offset found h; cases h
  | cons c cs ih =>
      intro skip offset found h
      cases skip with
      | succ skip =>
          have hrest := ih h
          rw [List.take_succ_cons, byteCount_cons]
          omega
      | zero =>
          rw [List.take_zero, byteCount_nil]
          rw [occurrencesFrom] at h
          split at h
          next =>
            rcases List.mem_cons.mp h with rfl | h
            · exact Nat.le_refl _
            · have hrest := ih h
              omega
          next =>
            have hrest := ih h
            omega

/-- Where a pattern stands first, it takes the first character and some of the rest. -/
theorem byteCount_le_of_prefix {pattern cs : List Char} {c : Char} (h : pattern <+: c :: cs) :
    byteCount pattern ≤ c.utf8Size + byteCount (cs.take (pattern.length - 1)) := by
  cases pattern with
  | nil => simp
  | cons p pattern =>
      obtain ⟨rfl, hrest⟩ := List.cons_prefix_cons.mp h
      rw [List.length_cons, Nat.add_sub_cancel, ← List.prefix_iff_eq_take.mp hrest, byteCount_cons]

theorem pairwise_occurrencesFrom (pattern cs : List Char) :
    ∀ skip offset, (occurrencesFrom pattern skip offset cs).Pairwise fun a b =>
      a + byteCount pattern ≤ b := by
  induction cs with
  | nil => intro skip offset; exact List.Pairwise.nil
  | cons c cs ih =>
      intro skip offset
      cases skip with
      | succ skip => exact ih skip _
      | zero =>
          rw [occurrencesFrom]
          split
          next hpattern =>
            refine List.pairwise_cons.mpr ⟨fun found hmem => ?_, ih _ _⟩
            have hle := le_of_mem_occurrencesFrom hmem
            have hcount := byteCount_le_of_prefix (List.isPrefixOf_iff_prefix.mp hpattern)
            omega
          next => exact ih 0 _

/-! ### The search through a text -/

/-- The bytes of a text are counted by its characters. -/
theorem byteCount_toList (text : String) : byteCount text.toList = text.utf8ByteSize := by
  have hcount : ∀ cs : List Char, byteCount cs = (String.ofList cs).utf8ByteSize := by
    intro cs
    induction cs with
    | nil => rfl
    | cons c cs ih =>
        rw [byteCount_cons, ih, ← List.singleton_append, String.ofList_append,
          String.utf8ByteSize_append]
        simp
  rw [hcount, String.ofList_toList]

/-- A pattern stands where it occurs. -/
theorem exists_of_mem_occurrences {pattern text : String} {offset : Nat}
    (h : offset ∈ occurrences pattern text) :
    ∃ before after : List Char, text.toList = before ++ pattern.toList ++ after ∧
      offset = byteCount before := by
  obtain ⟨before, after, htext, hoffset⟩ := exists_of_mem_occurrencesFrom h
  exact ⟨before, after, htext, by rw [hoffset, Nat.zero_add]⟩

/-- Occurrences come in order and do not overlap. -/
theorem pairwise_occurrences (pattern text : String) :
    (occurrences pattern text).Pairwise fun a b => a + byteCount pattern.toList ≤ b :=
  pairwise_occurrencesFrom _ _ 0 0

end BuilderGen.Text
