import BuilderGen.FileTree.Name
import BuilderGen.Proofs.Text.ByteOrder

/-!
# BuilderGen.Proofs.Text.Lossy

**A text is shown as it is**, byte by byte (`lossy_utf8Bytes`). The bytes of a character are read
one after the other: the first one says how many more there are and what the next one may be
(`rest?_leadByte`), and the bits that have been read are those of the character so far.

So what is shown of a name depends on its bytes alone, whether or not they are a text
(`Name.shown_eq`).
-/

namespace BuilderGen

namespace Text

section Reading

variable {bits left least most byte : Nat} {bytes : List UInt8}

/-- The last byte of a character ends it. -/
theorem shownFrom_last (hbyte : byte < 256) (hleast : least ≤ byte) (hmost : byte ≤ most) :
    shownFrom (some { bits, left := 1, least, most }) (.ofNat byte :: bytes) =
      Char.ofNat (bits * 64 + (byte - 0x80)) :: shownFrom none bytes := by
  rw [shownFrom, readByte, UInt8.toNat_ofNat', Nat.mod_eq_of_lt hbyte]
  simp [hleast, hmost]

/-- A byte before the last one adds its bits, and the next one may be any. -/
theorem shownFrom_next (hleft : left ≠ 1) (hbyte : byte < 256) (hleast : least ≤ byte)
    (hmost : byte ≤ most) :
    shownFrom (some { bits, left, least, most }) (.ofNat byte :: bytes) =
      shownFrom (some { bits := bits * 64 + (byte - 0x80), left := left - 1 }) bytes := by
  rw [shownFrom, readByte, UInt8.toNat_ofNat', Nat.mod_eq_of_lt hbyte]
  simp [hleast, hmost, hleft]

/-- A byte that starts a character of more bytes shows nothing yet. -/
theorem shownFrom_first {rest : Rest} (hbyte : byte < 256) (hlong : 0x80 ≤ byte)
    (hrest : rest? byte = some rest) :
    shownFrom none (.ofNat byte :: bytes) = shownFrom (some rest) bytes := by
  rw [shownFrom, readByte, UInt8.toNat_ofNat', Nat.mod_eq_of_lt hbyte, readFirst,
    if_neg (by omega), hrest]
  rfl

end Reading

/-- The value of a character is no surrogate. -/
theorem val_toNat_valid (c : Char) :
    c.val.toNat < 0xD800 ∨ 0xDFFF < c.val.toNat ∧ c.val.toNat < 0x110000 := c.valid

/-- What the first of two bytes says. -/
theorem rest?_two {n : Nat} (h1 : 127 < n) (h2 : n ≤ 2047) :
    rest? (n / 64 + 192) = some { bits := n / 64, left := 1 } := by
  rw [rest?, if_neg (by omega), if_pos (by omega), Nat.add_sub_cancel]

/-- What the first of three bytes says. The second one fits. -/
theorem rest?_three {n : Nat} (h2 : 2047 < n) (h3 : n ≤ 65535) (hvalid : n < 0xD800 ∨ 0xDFFF < n) :
    ∃ least most, rest? (n / 4096 + 224) = some { bits := n / 4096, left := 2, least, most } ∧
      least ≤ n / 64 % 64 + 128 ∧ n / 64 % 64 + 128 ≤ most := by
  rw [rest?, if_neg (by omega), if_neg (by omega)]
  by_cases he0 : n / 4096 + 224 = 0xE0
  · exact ⟨_, _, by rw [if_pos he0, show n / 4096 = 0 by omega], by omega, by omega⟩
  by_cases hed : n / 4096 + 224 = 0xED
  · exact ⟨_, _, by rw [if_neg he0, if_pos hed, show n / 4096 = 0xD by omega], by omega, by omega⟩
  · exact ⟨_, _, by rw [if_neg he0, if_neg hed, if_pos (by omega), Nat.add_sub_cancel], by omega,
      by omega⟩

/-- What the first of four bytes says. The second one fits. -/
theorem rest?_four {n : Nat} (h3 : 65535 < n) (hvalid : n < 0x110000) :
    ∃ least most, rest? (n / 262144 + 240) = some { bits := n / 262144, left := 3, least, most } ∧
      least ≤ n / 4096 % 64 + 128 ∧ n / 4096 % 64 + 128 ≤ most := by
  rw [rest?, if_neg (by omega), if_neg (by omega), if_neg (by omega), if_neg (by omega),
    if_neg (by omega)]
  by_cases hf0 : n / 262144 + 240 = 0xF0
  · exact ⟨_, _, by rw [if_pos hf0, show n / 262144 = 0 by omega], by omega, by omega⟩
  by_cases hf4 : n / 262144 + 240 < 0xF4
  · exact ⟨_, _, by rw [if_neg hf0, if_pos hf4, Nat.add_sub_cancel], by omega, by omega⟩
  · exact ⟨_, _, by rw [if_neg hf0, if_neg hf4, if_pos (by omega),
      show n / 262144 = 4 by omega], by omega, by omega⟩

/-- The bytes of a character show the character. -/
theorem shownFrom_utf8EncodeChar (c : Char) (bytes : List UInt8) :
    shownFrom none (String.utf8EncodeChar c ++ bytes) = c :: shownFrom none bytes := by
  have hvalid := val_toNat_valid c
  have hc : Char.ofNat c.val.toNat = c := Char.ofNat_toNat c
  rw [utf8EncodeChar_eq, leadByte, laterBytes]
  generalize c.val.toNat = n at hvalid hc
  by_cases h1 : n ≤ 127
  · rw [if_pos h1, if_pos h1, List.singleton_append, shownFrom, readByte, UInt8.toNat_ofNat',
      Nat.mod_eq_of_lt (by omega), readFirst, if_pos (by omega), hc]
    rfl
  by_cases h2 : n ≤ 2047
  · simp only [if_neg h1, if_pos h2, List.cons_append, List.nil_append]
    rw [shownFrom_first (by omega) (by omega) (rest?_two (by omega) h2),
      shownFrom_last (by omega) (by omega) (by omega),
      show n / 64 * 64 + (n % 64 + 128 - 0x80) = n by omega, hc]
  by_cases h3 : n ≤ 65535
  · obtain ⟨least, most, hrest, hleast, hmost⟩ := rest?_three (by omega) h3 (by omega)
    have hbits : (n / 4096 * 64 + (n / 64 % 64 + 128 - 0x80)) * 64 + (n % 64 + 128 - 0x80) = n := by
      omega
    simp only [if_neg h1, if_neg h2, if_pos h3, List.cons_append, List.nil_append]
    rw [shownFrom_first (by omega) (by omega) hrest,
      shownFrom_next (by omega) (by omega) hleast hmost,
      shownFrom_last (by omega) (by omega) (by omega), hbits, hc]
  · obtain ⟨least, most, hrest, hleast, hmost⟩ := rest?_four (by omega) (by omega : n < 0x110000)
    have hbits : ((n / 262144 * 64 + (n / 4096 % 64 + 128 - 0x80)) * 64 +
        (n / 64 % 64 + 128 - 0x80)) * 64 + (n % 64 + 128 - 0x80) = n := by
      omega
    simp only [if_neg h1, if_neg h2, if_neg h3, List.cons_append, List.nil_append]
    rw [shownFrom_first (by omega) (by omega) hrest,
      shownFrom_next (by omega) (by omega) hleast hmost,
      shownFrom_next (by omega) (by omega) (by omega) (by omega),
      shownFrom_last (by omega) (by omega) (by omega), hbits, hc]

/-- **The bytes of a text show the text.** -/
theorem lossy_utf8Bytes (text : String) : lossy (utf8Bytes text) = text := by
  have hchars : ∀ cs : List Char, shownFrom none (cs.flatMap String.utf8EncodeChar) = cs := by
    intro cs
    induction cs with
    | nil => rfl
    | cons c cs ih => rw [List.flatMap_cons, shownFrom_utf8EncodeChar, ih]
  rw [lossy, utf8Bytes_eq, hchars, String.ofList_toList]

end Text

/-- The bytes of a name. -/
def Name.bytes : Name → List UInt8
  | .text name => Text.utf8Bytes name
  | .raw bytes _ => bytes

/-- **What is shown of a name** is what its bytes are shown as. -/
theorem Name.shown_eq (name : Name) : name.shown = Text.lossy name.bytes := by
  cases name with
  | text name => exact (Text.lossy_utf8Bytes name).symm
  | raw bytes h => rfl

theorem Name.byteCount_eq (name : Name) : name.byteCount = name.bytes.length := by
  cases name with
  | raw bytes h => rfl
  | text name =>
      have hchars : ∀ cs : List Char,
          Text.byteCount cs = (cs.flatMap String.utf8EncodeChar).length := by
        intro cs
        induction cs with
        | nil => rfl
        | cons c cs ih =>
            rw [Text.byteCount_cons, List.flatMap_cons, List.length_append,
              String.length_utf8EncodeChar, ih]
      rw [Name.byteCount, Name.bytes, Text.utf8Bytes_eq, hchars]

/-- Names are told apart by their bytes. -/
theorem Name.bytes_inj {name name' : Name} : name.bytes = name'.bytes ↔ name = name' := by
  -- bytes that are no text are those of no text
  have hraw : ∀ {text : String} {bytes : List UInt8},
      String.fromUTF8? bytes.toByteArray = none → Text.utf8Bytes text ≠ bytes := by
    rintro text _ hnone rfl
    have hbytes : (Text.utf8Bytes text).toByteArray = text.toUTF8 :=
      ByteArray.ext (Array.toList_inj.mp List.toList_data_toByteArray)
    rw [hbytes, Text.fromUTF8?_toUTF8] at hnone
    cases hnone
  refine ⟨fun h => ?_, fun h => by rw [h]⟩
  cases name with
  | text name =>
      cases name' with
      | text name' => rw [← Text.lossy_utf8Bytes name, ← Text.lossy_utf8Bytes name', show
          Text.utf8Bytes name = Text.utf8Bytes name' from h]
      | raw bytes' hnone => exact absurd h (hraw hnone)
  | raw bytes hnone =>
      cases name' with
      | text name' => exact absurd h.symm (hraw hnone)
      | raw bytes' hnone' =>
          obtain rfl : bytes = bytes' := h
          rfl

end BuilderGen
