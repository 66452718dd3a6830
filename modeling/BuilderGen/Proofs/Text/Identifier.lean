import BuilderGen.Proofs.Text.Segments
import BuilderGen.Text.Blank
import BuilderGen.Text.Identifier

/-!
# BuilderGen.Proofs.Text.Identifier

**What identifiers and blank texts are**, in words of their own, and that the tests
`isIdentifier` and `isBlankText` decide it. An identifier holds only letters, digits
and underscores of ASCII (`isIdentifierRest_of_mem`), so a character of another kind
is in none of them: no blank, and no character of a separator. Trimming therefore
changes neither an identifier nor identifiers joined by dots or colons.
-/

namespace BuilderGen.Text

/-! ### Identifiers -/

/-- A letter of ASCII. -/
def IsLetter (c : Char) : Prop := 'A' ≤ c ∧ c ≤ 'Z' ∨ 'a' ≤ c ∧ c ≤ 'z'

/-- A digit of ASCII. -/
def IsDigit (c : Char) : Prop := '0' ≤ c ∧ c ≤ '9'

/-- A name that starts with a letter or an underscore and goes on with letters,
digits and underscores. -/
def IsIdentifier (name : String) : Prop :=
  ∃ c cs, name.toList = c :: cs ∧ (IsLetter c ∨ c = '_') ∧
    ∀ d ∈ cs, IsLetter d ∨ IsDigit d ∨ d = '_'

theorem isAlpha_iff {c : Char} : c.isAlpha = true ↔ IsLetter c := by
  show (decide ('A' ≤ c ∧ c ≤ 'Z') || (decide ('a' ≤ c) && decide (c ≤ 'z'))) = true ↔ _
  rw [Bool.or_eq_true, Bool.and_eq_true, decide_eq_true_iff, decide_eq_true_iff,
    decide_eq_true_iff, IsLetter]

theorem isIdentifierStart_iff {c : Char} :
    isIdentifierStart c = true ↔ IsLetter c ∨ c = '_' := by
  rw [isIdentifierStart, Bool.or_eq_true, isAlpha_iff, beq_iff_eq]

theorem isIdentifierRest_iff {c : Char} :
    isIdentifierRest c = true ↔ IsLetter c ∨ IsDigit c ∨ c = '_' := by
  simp only [isIdentifierRest, Char.isAlphanum, isAlpha_iff, Char.isDigit, IsDigit, Char.le_def,
    ge_iff_le, Bool.or_eq_true, Bool.and_eq_true, decide_eq_true_eq, beq_iff_eq, or_assoc]

/-- The test for identifiers decides what an identifier is. -/
theorem isIdentifier_iff {name : String} : isIdentifier name = true ↔ IsIdentifier name := by
  unfold isIdentifier IsIdentifier
  cases name.toList with
  | nil => simp
  | cons c cs =>
      simp only [isIdentifierChars_cons, Bool.and_eq_true, isIdentifierStart_iff, List.all_eq_true,
        isIdentifierRest_iff, List.cons.injEq]
      refine ⟨fun h => ?_, fun h => ?_⟩
      · exact ⟨c, cs, ⟨rfl, rfl⟩, h.1, h.2⟩
      · obtain ⟨_, _, ⟨rfl, rfl⟩, hc, hcs⟩ := h
        exact ⟨hc, hcs⟩

theorem isIdentifierRest_of_mem {name : String} (h : isIdentifier name = true) {c : Char}
    (hc : c ∈ name.toList) : isIdentifierRest c = true :=
  List.all_eq_true.mp (all_rest_of_identifier h) c hc

theorem not_mem_of_isIdentifier {name : String} (h : isIdentifier name = true) {c : Char}
    (hc : isIdentifierRest c = false) : c ∉ name.toList := fun hmem => by
  rw [isIdentifierRest_of_mem h hmem] at hc
  exact Bool.noConfusion hc

/-- Identifiers are written in ASCII. -/
theorem toNat_of_isIdentifierRest {c : Char} (h : isIdentifierRest c = true) :
    48 ≤ c.toNat ∧ c.toNat ≤ 122 := by
  have hle : ∀ {a b : Char}, a ≤ b → a.toNat ≤ b.toNat := UInt32.le_iff_toNat_le.mp
  rcases isIdentifierRest_iff.mp h with (h | h) | h | rfl
  · exact ⟨Nat.le_trans (by decide) (hle h.1), Nat.le_trans (hle h.2) (by decide)⟩
  · exact ⟨Nat.le_trans (by decide) (hle h.1), hle h.2⟩
  · exact ⟨hle h.1, Nat.le_trans (hle h.2) (by decide)⟩
  · decide

/-- What holds of the characters of identifiers in ASCII holds of all of them. -/
theorem of_isIdentifierRest {p : Char → Prop}
    (h : ∀ n < 128, isIdentifierRest (Char.ofNat n) = true → p (Char.ofNat n)) {c : Char}
    (hc : isIdentifierRest c = true) : p c := by
  have hn := toNat_of_isIdentifierRest hc
  simpa using h c.toNat (by omega) (by simpa using hc)

theorem ne_empty_of_isIdentifier {name : String} (h : isIdentifier name = true) : name ≠ "" := by
  intro hempty
  rw [hempty] at h
  simp [isIdentifier] at h

/-! ### Blanks -/

theorem isBlank_of_isIdentifierRest {c : Char} (h : isIdentifierRest c = true) :
    isBlank c = false := by
  have hn := toNat_of_isIdentifierRest h
  simp only [isBlank, Bool.or_eq_false_iff, Bool.and_eq_false_iff, decide_eq_false_iff_not,
    beq_eq_false_iff_ne]
  omega

/-- A text is blank when trimming leaves nothing of it. -/
theorem trim_eq_empty_iff {text : String} : trim text = "" ↔ isBlankText text = true := by
  rw [← String.toList_inj, toList_trim, trimChars, isBlankText, String.toList_empty,
    dropEndBlanks_eq_nil_iff]
  induction text.toList with
  | nil => rfl
  | cons c cs ih =>
      by_cases hc : isBlank c = true
      · rw [List.dropWhile_cons_of_pos hc, ih]
        simp [hc]
      · rw [List.dropWhile_cons_of_neg hc]

theorem dropEndBlanks_of_all {cs : List Char} (h : ∀ c ∈ cs, isBlank c = false) :
    dropEndBlanks cs = cs := by
  induction cs with
  | nil => rfl
  | cons c cs ih =>
      obtain ⟨hc, hcs⟩ := List.forall_mem_cons.mp h
      rw [dropEndBlanks, ih hcs]
      cases cs with
      | nil => simp [hc]
      | cons d ds => rfl

/-- A text without blanks is trimmed already. -/
theorem trim_of_no_blank {text : String} (h : ∀ c ∈ text.toList, isBlank c = false) :
    trim text = text := by
  rw [← String.toList_inj, toList_trim, trimChars]
  cases hcs : text.toList with
  | nil => rfl
  | cons c cs =>
      rw [hcs] at h
      rw [List.dropWhile_cons_of_neg (by simp [h c]), dropEndBlanks_of_all h]

theorem trim_of_isIdentifier {name : String} (h : isIdentifier name = true) : trim name = name :=
  trim_of_no_blank fun _ hc => isBlank_of_isIdentifierRest (isIdentifierRest_of_mem h hc)

end BuilderGen.Text
