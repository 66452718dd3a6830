/-!
# BuilderGen.Text.Lossy

**Bytes shown as text**, also where they are none. Characters in UTF-8 are shown as
what they are. Bytes that belong to no character are shown as a replacement
character: one for bytes that start a character and then break off, and one for
each byte that starts none.
-/

namespace BuilderGen.Text

/-- What is shown in the place of bytes that are no character. -/
def replacement : Char := '\uFFFD'

/-- What is still to come of a character: the bits read so far, the number of bytes
that are left, and the range of the next one. -/
structure Rest where
  bits : Nat
  left : Nat
  least : Nat := 0x80
  most : Nat := 0xBF

/-- What is to come after the first byte of a character. -/
def rest? (byte : Nat) : Option Rest :=
  if byte < 0xC2 then none
  else if byte < 0xE0 then some { bits := byte - 0xC0, left := 1 }
  else if byte = 0xE0 then some { bits := 0, left := 2, least := 0xA0 }
  else if byte = 0xED then some { bits := 0xD, left := 2, most := 0x9F }
  else if byte < 0xF0 then some { bits := byte - 0xE0, left := 2 }
  else if byte = 0xF0 then some { bits := 0, left := 3, least := 0x90 }
  else if byte < 0xF4 then some { bits := byte - 0xF0, left := 3 }
  else if byte = 0xF4 then some { bits := 4, left := 3, most := 0x8F }
  else none

/-- Reads a byte between two characters: what is shown, and what is to come. -/
def readFirst (byte : Nat) : List Char × Option Rest :=
  if byte < 0x80 then ([Char.ofNat byte], none)
  else
    match rest? byte with
    | some rest => ([], some rest)
    | none => ([replacement], none)

/-- Reads a byte. One that does not go on with a character breaks it off, and may
start another one. -/
def readByte (rest? : Option Rest) (byte : Nat) : List Char × Option Rest :=
  match rest? with
  | none => readFirst byte
  | some rest =>
    if rest.least ≤ byte ∧ byte ≤ rest.most then
      let bits := rest.bits * 64 + (byte - 0x80)
      if rest.left = 1 then ([Char.ofNat bits], none)
      else ([], some { bits, left := rest.left - 1 })
    else
      let (shown, next) := readFirst byte
      (replacement :: shown, next)

/-- What bytes are shown as, with what is to come of a character before them. -/
def shownFrom (rest? : Option Rest) : List UInt8 → List Char
  | [] => if rest?.isSome then [replacement] else []
  | byte :: bytes =>
    let (shown, next) := readByte rest? byte.toNat
    shown ++ shownFrom next bytes

/-- The text that bytes are shown as. -/
def lossy (bytes : List UInt8) : String := String.ofList (shownFrom none bytes)

end BuilderGen.Text
