import BuilderGen.Text.PrintTable

/-!
# BuilderGen.Text.Quoted

A text **in double quotes as messages show it**: quotes and backslashes are
escaped, line breaks and tabs are written by letter, and characters that cannot
be seen on their own are written by number in lower-case hexadecimal.
-/

namespace BuilderGen.Text

/-- The digits of `n` in hexadecimal, lower-case, without leading zeros. -/
def hexDigits (n : Nat) : List Char := Nat.toDigits 16 n

/-- Whether a quoted text shows `c` by number. -/
def isShownByNumber (c : Char) : Bool :=
  let n := c.toNat
  if n < 0x80 then n < 0x20 || n == 0x7F
  else extendingRanges.any (fun r => r.1 ≤ n && n ≤ r.2) ||
    unprintableRanges.any (fun r => r.1 ≤ n && n ≤ r.2)

/-- One character of a quoted text. -/
def quotedChar (c : Char) : List Char :=
  match c with
  | '\x00' => ['\\', '0']
  | '\t' => ['\\', 't']
  | '\r' => ['\\', 'r']
  | '\n' => ['\\', 'n']
  | '\\' => ['\\', '\\']
  | '"' => ['\\', '"']
  | c => if isShownByNumber c then ['\\', 'u', '\x7b'] ++ hexDigits c.toNat ++ ['\x7d'] else [c]

/-- `text` in quotes. -/
def quoted (text : String) : String :=
  String.ofList ('"' :: text.toList.flatMap quotedChar ++ ['"'])

end BuilderGen.Text
