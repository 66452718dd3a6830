import BuilderGen.Text.Segments

/-!
# BuilderGen.Proofs.Text.Segments

**Cutting and joining are inverse.** Joining the segments of a text with the
separator they were cut at gives the text back, whatever the separator
(`joinWith_segments`). The other way round the parts must not be cut themselves;
it is enough that the separator's first character is in none of them
(`segments_joinWith`). So a text is joined from parts of a kind exactly when its
segments are of that kind (`segments_eq_iff`).

The recursion of `segmentsFrom` counts down the characters of a separator it has
passed; `segmentsFrom_skip` turns that count into a shorter text, and the other
lemmas are about count zero.
-/

namespace BuilderGen.Text

/-! ### Joining -/

theorem joinWith_cons {sep part : String} {rest : List String} (h : rest ≠ []) :
    joinWith sep (part :: rest) = part ++ sep ++ joinWith sep rest := by
  cases rest with
  | nil => exact absurd rfl h
  | cons b rest => rfl

@[simp] theorem toList_joinWith (sep : String) (parts : List String) :
    (joinWith sep parts).toList = sep.toList.intercalate (parts.map String.toList) := by
  induction parts with
  | nil => rfl
  | cons part rest ih =>
      by_cases h : rest = []
      · subst h
        simp
      · rw [joinWith_cons h, List.map_cons,
          List.intercalate_cons_of_ne_nil (by simpa using h), ← ih]
        simp

/-- A character of a joined text is one of a part or of the separator. -/
theorem mem_joinWith {sep : String} {c : Char} {parts : List String}
    (h : c ∈ (joinWith sep parts).toList) : c ∈ sep.toList ∨ ∃ part ∈ parts, c ∈ part.toList := by
  induction parts with
  | nil => simp at h
  | cons part rest ih =>
      by_cases hr : rest = []
      · subst hr
        exact Or.inr ⟨part, by simp, by simpa using h⟩
      · rw [joinWith_cons hr] at h
        simp only [String.toList_append, List.mem_append] at h
        rcases h with (h | h) | h
        · exact Or.inr ⟨part, by simp, h⟩
        · exact Or.inl h
        · rcases ih h with h | ⟨p, hp, h⟩
          · exact Or.inl h
          · exact Or.inr ⟨p, by simp [hp], h⟩

/-! ### Cutting -/

/-- Characters that are skipped do not matter. -/
theorem segmentsFrom_skip (sep : List Char) :
    ∀ (cs : List Char) (skip : Nat) (segment : List Char),
      segmentsFrom sep skip segment cs = segmentsFrom sep 0 segment (cs.drop skip)
  | [], skip, segment => by simp [segmentsFrom]
  | c :: cs, 0, segment => rfl
  | c :: cs, skip + 1, segment => by
      rw [segmentsFrom, List.drop_succ_cons]
      exact segmentsFrom_skip sep cs skip segment

/-- A separator ends the segment read so far. -/
theorem segmentsFrom_separator {sep : List Char} (hsep : sep ≠ []) (segment cs : List Char) :
    segmentsFrom sep 0 segment (sep ++ cs) = segment.reverse :: segmentChars sep cs := by
  cases sep with
  | nil => exact absurd rfl hsep
  | cons d ds =>
      have hprefix : (d :: ds).isPrefixOf (d :: (ds ++ cs)) = true :=
        List.isPrefixOf_iff_prefix.mpr ⟨cs, rfl⟩
      rw [List.cons_append, segmentsFrom, if_pos hprefix, segmentsFrom_skip]
      simp [segmentChars]

/-- A character at which no separator starts belongs to the segment. -/
theorem segmentsFrom_char {sep : List Char} {c : Char} {cs : List Char}
    (h : ¬ sep <+: c :: cs) (segment : List Char) :
    segmentsFrom sep 0 segment (c :: cs) = segmentsFrom sep 0 (c :: segment) cs := by
  rw [segmentsFrom, if_neg (fun hp => h (List.isPrefixOf_iff_prefix.mp hp))]

/-- Nothing is cut within characters other than the separator's first one. -/
theorem segmentsFrom_append {d : Char} {ds : List Char} (rest : List Char) :
    ∀ (part segment : List Char), d ∉ part →
      segmentsFrom (d :: ds) 0 segment (part ++ rest) =
        segmentsFrom (d :: ds) 0 (part.reverse ++ segment) rest
  | [], segment, _ => rfl
  | c :: part, segment, h => by
      rw [List.mem_cons, not_or] at h
      have hno : ¬ (d :: ds) <+: c :: (part ++ rest) := by
        intro hsep
        obtain ⟨t, ht⟩ := hsep
        exact h.1 (List.cons.inj ht).1
      rw [List.cons_append, segmentsFrom_char hno, segmentsFrom_append rest part _ h.2]
      simp

theorem segmentsFrom_self (d : Char) (segment cs : List Char) :
    segmentsFrom [d] 0 segment (d :: cs) = segment.reverse :: segmentChars [d] cs :=
  segmentsFrom_separator (by simp) segment cs

/-- A text after a single separator character is cut on its own. -/
theorem segmentsFrom_append_char (d : Char) (rest : List Char) :
    ∀ (part segment : List Char),
      segmentsFrom [d] 0 segment (part ++ d :: rest) =
        segmentsFrom [d] 0 segment part ++ segmentChars [d] rest
  | [], segment => by
      rw [List.nil_append, segmentsFrom_self]
      rfl
  | c :: part, segment => by
      by_cases h : c = d
      · -- the part has a separator of its own, and the text is cut there first
        subst h
        rw [List.cons_append, segmentsFrom_self, segmentsFrom_self, List.cons_append]
        exact congrArg _ (segmentsFrom_append_char c rest part [])
      · have hno : ∀ cs, ¬ [d] <+: c :: cs := by
          intro cs hsep
          obtain ⟨t, ht⟩ := hsep
          exact h (List.cons.inj ht).1.symm
        rw [List.cons_append, segmentsFrom_char (hno _), segmentsFrom_char (hno _)]
        exact segmentsFrom_append_char d rest part _

/-! ### Both ways -/

/-- What is cut can be joined again. The characters that are skipped belong to the
separator before and are not joined. -/
theorem intercalate_segmentsFrom {sep : List Char} (hsep : sep ≠ []) :
    ∀ (cs : List Char) (skip : Nat) (segment : List Char),
      sep.intercalate (segmentsFrom sep skip segment cs) = segment.reverse ++ cs.drop skip
  | [], skip, segment => by simp [segmentsFrom]
  | c :: cs, skip + 1, segment => by
      rw [segmentsFrom, List.drop_succ_cons]
      exact intercalate_segmentsFrom hsep cs skip segment
  | c :: cs, 0, segment => by
      rw [List.drop_zero]
      by_cases h : sep.isPrefixOf (c :: cs) = true
      · -- the rest of this separator is what the next steps skip
        obtain ⟨t, ht⟩ := List.isPrefixOf_iff_prefix.mp h
        have hdrop : cs.drop (sep.length - 1) = t := by
          cases sep with
          | nil => exact absurd rfl hsep
          | cons d ds =>
              obtain ⟨-, rfl⟩ := List.cons.inj ht
              simp
        rw [segmentsFrom, if_pos h, List.intercalate_cons_of_ne_nil (segmentsFrom_ne_nil _ _ _ _),
          intercalate_segmentsFrom hsep cs, hdrop, ← ht]
        simp
      · rw [segmentsFrom, if_neg h, intercalate_segmentsFrom hsep cs]
        simp

/-- Parts without the separator's first character are found again where they were
joined. -/
theorem segmentChars_intercalate {d : Char} {ds : List Char} :
    ∀ {parts : List (List Char)}, parts ≠ [] → (∀ part ∈ parts, d ∉ part) →
      segmentChars (d :: ds) ((d :: ds).intercalate parts) = parts
  | [], hne, _ => absurd rfl hne
  | part :: rest, _, h => by
      obtain ⟨hpart, hrest⟩ := List.forall_mem_cons.mp h
      by_cases hr : rest = []
      · subst hr
        have hwhole : segmentsFrom (d :: ds) 0 [] (part ++ []) =
            segmentsFrom (d :: ds) 0 (part.reverse ++ []) [] := segmentsFrom_append [] part [] hpart
        simpa [segmentChars, segmentsFrom] using hwhole
      · rw [List.intercalate_cons_of_ne_nil hr, segmentChars, List.append_assoc,
          segmentsFrom_append _ _ _ hpart, segmentsFrom_separator (by simp),
          segmentChars_intercalate hr hrest]
        simp

/-- **Joining undoes cutting.** -/
theorem joinWith_segments {sep : String} (hsep : sep ≠ "") (text : String) :
    joinWith sep (segments sep text) = text := by
  have hne : sep.toList ≠ [] := by simpa using hsep
  rw [← String.toList_inj, toList_joinWith, segments, List.map_map]
  simp [Function.comp_def, segmentChars, intercalate_segmentsFrom hne]

theorem segments_inj {sep : String} (hsep : sep ≠ "") {text text' : String} :
    segments sep text = segments sep text' ↔ text = text' := by
  refine ⟨fun h => ?_, fun h => by rw [h]⟩
  rw [← joinWith_segments hsep text, h, joinWith_segments hsep]

/-- **Cutting undoes joining** of parts that do not contain the separator's first
character. -/
theorem segments_joinWith {sep : String} {d : Char} {ds : List Char} (hsep : sep.toList = d :: ds)
    {parts : List String} (hne : parts ≠ []) (h : ∀ part ∈ parts, d ∉ part.toList) :
    segments sep (joinWith sep parts) = parts := by
  rw [segments, toList_joinWith, hsep,
    segmentChars_intercalate (by simpa using hne) (by simpa using h)]
  simp [Function.comp_def]

theorem segments_eq_iff {sep : String} {d : Char} {ds : List Char} (hsep : sep.toList = d :: ds)
    {text : String} {parts : List String} (h : ∀ part ∈ parts, d ∉ part.toList) :
    segments sep text = parts ↔ parts ≠ [] ∧ text = joinWith sep parts := by
  refine ⟨fun hparts => ?_, fun hparts => ?_⟩
  · subst hparts
    have hne : sep ≠ "" := by
      intro hempty
      rw [hempty, String.toList_empty] at hsep
      cases hsep
    exact ⟨segments_ne_nil sep text, (joinWith_segments hne text).symm⟩
  · obtain ⟨hne, rfl⟩ := hparts
    exact segments_joinWith hsep hne h

/-- A part that does not contain the separator's first character is cut off in front of
the separator. -/
theorem segments_append {sep : String} {d : Char} {ds : List Char} (hsep : sep.toList = d :: ds)
    {part : String} (h : d ∉ part.toList) (rest : String) :
    segments sep (part ++ sep ++ rest) = part :: segments sep rest := by
  simp only [segments, segmentChars, String.toList_append, List.append_assoc, hsep]
  rw [segmentsFrom_append _ _ _ h, segmentsFrom_separator (by simp)]
  simp [segmentChars]

/-- A text without the separator's first character is its only segment. -/
theorem segments_of_not_mem {sep : String} {d : Char} {ds : List Char} (hsep : sep.toList = d :: ds)
    {text : String} (h : d ∉ text.toList) : segments sep text = [text] := by
  rw [segments_eq_iff hsep (by simpa using h)]
  simp

/-! ### Separators of one character -/

section Char

variable {sep : String} {d : Char} (hsep : sep.toList = [d])
include hsep

/-- What stands before a separator and what stands after it are cut on their own. -/
theorem segments_append_char (a b : String) :
    segments sep (a ++ sep ++ b) = segments sep a ++ segments sep b := by
  simp only [segments, segmentChars, String.toList_append, hsep, List.append_assoc]
  rw [List.singleton_append, segmentsFrom_append_char, List.map_append]
  rfl

theorem not_mem_of_mem_segments {text part : String} (h : part ∈ segments sep text) :
    d ∉ part.toList := by
  have hchars : ∀ (cs segment : List Char), d ∉ segment →
      ∀ part ∈ segmentsFrom [d] 0 segment cs, d ∉ part := by
    intro cs
    induction cs with
    | nil =>
        intro segment hs part hpart
        rw [segmentsFrom, List.mem_singleton] at hpart
        simpa [hpart] using hs
    | cons c cs ih =>
        intro segment hs part hpart
        by_cases hc : c = d
        · rw [hc, segmentsFrom_self, List.mem_cons] at hpart
          rcases hpart with hpart | hpart
          · simpa [hpart] using hs
          · exact ih [] (by simp) part hpart
        · rw [segmentsFrom_char (by simpa [List.cons_prefix_cons] using Ne.symm hc)] at hpart
          exact ih (c :: segment) (by simpa using ⟨Ne.symm hc, hs⟩) part hpart
  simp only [segments, List.mem_map, hsep] at h
  obtain ⟨part, hpart, rfl⟩ := h
  simpa using hchars _ _ (by simp) part hpart

end Char

end BuilderGen.Text
