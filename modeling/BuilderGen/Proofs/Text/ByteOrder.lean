import Mathlib.Data.String.Basic
import Mathlib.Tactic.SplitIfs

/-!
# BuilderGen.Proofs.Text.ByteOrder

**The order of texts is the order of their bytes.** Texts are compared character by
character; in UTF-8 they compare the same way byte by byte (`utf8Bytes_lt_iff`).

A character in front of another one is encoded so that its bytes come first whatever
follows them: either its first byte is smaller, because it takes fewer bytes, or both
have equally many, and these hold the digits of the characters in base 64.
-/

namespace BuilderGen.Text

/-- The bytes of a text in UTF-8. -/
def utf8Bytes (text : String) : List UInt8 := text.toUTF8.data.toList

theorem utf8Bytes_eq (text : String) :
    utf8Bytes text = text.toList.flatMap String.utf8EncodeChar := by
  have hbytes : text.toUTF8 = (text.toList.flatMap String.utf8EncodeChar).toByteArray := by
    rw [String.toUTF8_eq_toByteArray, ← String.utf8Encode_toList, List.utf8Encode]
  rw [utf8Bytes, hbytes, List.toList_data_toByteArray]

theorem fromUTF8?_toUTF8 (text : String) : String.fromUTF8? text.toUTF8 = some text :=
  dif_pos text.isValidUTF8

/-! ### Single characters -/

section Digits

variable {m n : Nat} {x y : List UInt8}

/-- Bytes compare by their values first. -/
theorem ofNat_cons_lt (hn : n < 256) (h : m < n ∨ m = n ∧ x < y) :
    UInt8.ofNat m :: x < UInt8.ofNat n :: y := by
  rw [List.cons_lt_cons_iff, UInt8.lt_iff_toNat_lt, ← UInt8.toNat_inj, UInt8.toNat_ofNat',
    UInt8.toNat_ofNat']
  rcases h with h | ⟨rfl, h⟩
  · exact Or.inl (by omega)
  · exact Or.inr ⟨rfl, h⟩

/-- The last digit. -/
theorem lastDigit_lt (h : m % 64 < n % 64) :
    UInt8.ofNat (m % 64 + 128) :: x < UInt8.ofNat (n % 64 + 128) :: y :=
  ofNat_cons_lt (by omega) (Or.inl (by omega))

/-- The last two digits. -/
theorem twoDigits_lt (h : m % 4096 < n % 4096) :
    UInt8.ofNat (m / 64 % 64 + 128) :: UInt8.ofNat (m % 64 + 128) :: x <
      UInt8.ofNat (n / 64 % 64 + 128) :: UInt8.ofNat (n % 64 + 128) :: y := by
  have hdigits : m / 64 % 64 + 128 < n / 64 % 64 + 128 ∨
      m / 64 % 64 + 128 = n / 64 % 64 + 128 ∧ m % 64 < n % 64 := by omega
  exact ofNat_cons_lt (by omega) (hdigits.imp_right fun h => ⟨h.1, lastDigit_lt h.2⟩)

/-- The last three digits. -/
theorem threeDigits_lt (h : m % 262144 < n % 262144) :
    UInt8.ofNat (m / 4096 % 64 + 128) :: UInt8.ofNat (m / 64 % 64 + 128) ::
        UInt8.ofNat (m % 64 + 128) :: x <
      UInt8.ofNat (n / 4096 % 64 + 128) :: UInt8.ofNat (n / 64 % 64 + 128) ::
        UInt8.ofNat (n % 64 + 128) :: y := by
  have hdigits : m / 4096 % 64 + 128 < n / 4096 % 64 + 128 ∨
      m / 4096 % 64 + 128 = n / 4096 % 64 + 128 ∧ m % 4096 < n % 4096 := by omega
  exact ofNat_cons_lt (by omega) (hdigits.imp_right fun h => ⟨h.1, twoDigits_lt h.2⟩)

end Digits

/-- The value of the first byte of a character. -/
def leadByte (n : Nat) : Nat :=
  if n ≤ 127 then n
  else if n ≤ 2047 then n / 64 + 192
  else if n ≤ 65535 then n / 4096 + 224
  else n / 262144 + 240

/-- The bytes of a character after the first one. -/
def laterBytes (n : Nat) : List UInt8 :=
  if n ≤ 127 then []
  else if n ≤ 2047 then [.ofNat (n % 64 + 128)]
  else if n ≤ 65535 then [.ofNat (n / 64 % 64 + 128), .ofNat (n % 64 + 128)]
  else [.ofNat (n / 4096 % 64 + 128), .ofNat (n / 64 % 64 + 128), .ofNat (n % 64 + 128)]

theorem val_toNat_lt (c : Char) : c.val.toNat < 0x110000 := by
  rcases c.valid with h | h
  · exact Nat.lt_trans h (by decide)
  · exact h.2

theorem utf8EncodeChar_eq (c : Char) :
    String.utf8EncodeChar c = UInt8.ofNat (leadByte c.val.toNat) :: laterBytes c.val.toNat := by
  have hmax := val_toNat_lt c
  rw [String.utf8EncodeChar, leadByte, laterBytes]
  generalize c.val.toNat = n at hmax
  by_cases h1 : n ≤ 127
  · simp [h1]
  by_cases h2 : n ≤ 2047
  · simp [h1, h2, Nat.mod_eq_of_lt (show n / 64 < 32 by omega)]
  by_cases h3 : n ≤ 65535
  · simp [h1, h2, h3, Nat.mod_eq_of_lt (show n / 4096 < 16 by omega)]
  · simp [h1, h2, h3, Nat.mod_eq_of_lt (show n / 262144 < 8 by omega)]

theorem leadByte_mono {m n : Nat} (h : m ≤ n) : leadByte m ≤ leadByte n := by
  unfold leadByte
  split_ifs <;> omega

theorem leadByte_lt {n : Nat} (h : n < 0x110000) : leadByte n < 256 := by
  unfold leadByte
  split_ifs <;> omega

/-- Characters with the same first byte have equally many bytes, and differ in the digits
that follow. -/
theorem laterBytes_append_lt {m n : Nat} (hlt : m < n) (hlead : leadByte m = leadByte n)
    (x y : List UInt8) : laterBytes m ++ x < laterBytes n ++ y := by
  unfold leadByte at hlead
  unfold laterBytes
  by_cases h1 : m ≤ 127
  · rw [if_pos h1] at hlead
    split_ifs at hlead <;> omega
  by_cases h2 : m ≤ 2047
  · rw [if_neg h1, if_pos h2, if_neg (by omega)] at hlead
    have hn : n ≤ 2047 := by
      by_contra hn
      split_ifs at hlead <;> omega
    rw [if_neg h1, if_pos h2, if_neg (by omega), if_pos hn]
    exact lastDigit_lt (by rw [if_pos hn] at hlead; omega)
  by_cases h3 : m ≤ 65535
  · rw [if_neg h1, if_neg h2, if_pos h3, if_neg (by omega), if_neg (by omega)] at hlead
    have hn : n ≤ 65535 := by
      by_contra hn
      rw [if_neg hn] at hlead
      omega
    rw [if_neg h1, if_neg h2, if_pos h3, if_neg (by omega), if_neg (by omega), if_pos hn]
    exact twoDigits_lt (by rw [if_pos hn] at hlead; omega)
  · rw [if_neg h1, if_neg h2, if_neg h3, if_neg (by omega), if_neg (by omega),
      if_neg (by omega)] at hlead ⊢
    exact threeDigits_lt (by omega)

/-- A smaller character has smaller bytes, whatever follows. -/
theorem utf8EncodeChar_append_lt {c d : Char} (h : c < d) (x y : List UInt8) :
    String.utf8EncodeChar c ++ x < String.utf8EncodeChar d ++ y := by
  have hlt : c.val.toNat < d.val.toNat := UInt32.lt_iff_toNat_lt.mp h
  rw [utf8EncodeChar_eq, utf8EncodeChar_eq]
  refine ofNat_cons_lt (leadByte_lt (val_toNat_lt d)) ?_
  rcases Nat.lt_or_eq_of_le (leadByte_mono (Nat.le_of_lt hlt)) with hlead | hlead
  · exact Or.inl hlead
  · exact Or.inr ⟨hlead, laterBytes_append_lt hlt hlead x y⟩

/-! ### Texts -/

theorem flatMap_utf8EncodeChar_lt {as bs : List Char} (h : as < bs) :
    as.flatMap String.utf8EncodeChar < bs.flatMap String.utf8EncodeChar := by
  induction h with
  | nil =>
      rw [List.flatMap_nil, List.flatMap_cons]
      obtain ⟨byte, bytes, hbytes⟩ := List.exists_cons_of_ne_nil String.utf8EncodeChar_ne_nil
      rw [hbytes]
      exact List.nil_lt_cons byte _
  | rel hlt =>
      rw [List.flatMap_cons, List.flatMap_cons]
      exact utf8EncodeChar_append_lt hlt _ _
  | cons _ ih =>
      rw [List.flatMap_cons, List.flatMap_cons]
      exact List.append_left_lt ih

/-- **The order of texts is the order of their bytes.** -/
theorem utf8Bytes_lt_iff {a b : String} : utf8Bytes a < utf8Bytes b ↔ a < b := by
  have hmono : ∀ {a b : String}, a < b → utf8Bytes a < utf8Bytes b := by
    intro a b h
    rw [utf8Bytes_eq, utf8Bytes_eq]
    exact flatMap_utf8EncodeChar_lt h
  refine ⟨fun h => ?_, hmono⟩
  rcases lt_trichotomy a b with hlt | rfl | hlt
  · exact hlt
  · exact absurd h (List.lt_irrefl _)
  · exact absurd (hmono hlt) (List.lt_asymm h)

end BuilderGen.Text
