import BuilderGen.Text.Lossy
import BuilderGen.Text.Search

/-!
# BuilderGen.FileTree.Name

**Names of entries**. A name is any bytes without a slash, and most names are texts.
One that is no text is shown as text all the same, and then different names may look
alike; so it is told from others by its bytes only.
-/

namespace BuilderGen

/-- A name of an entry. -/
inductive Name
  | text (name : String)
  /-- Bytes that are no text. -/
  | raw (bytes : List UInt8) (h : String.fromUTF8? bytes.toByteArray = none)
  deriving DecidableEq

instance : Coe String Name := ⟨Name.text⟩

instance : Inhabited Name := ⟨.text ""⟩

namespace Name

/-- The name as it is shown. -/
def shown : Name → String
  | text name => name
  | raw bytes _ => Text.lossy bytes

/-- The number of bytes of a name. -/
def byteCount : Name → Nat
  | text name => Text.byteCount name.toList
  | raw bytes _ => bytes.length

/-- Whether an entry can have a name: it has fewer than 256 bytes. -/
def isUsable (name : Name) : Bool := name.byteCount < 256

/-- Whether a null character is in a name. -/
def hasNull : Name → Bool
  | text name => name.toList.contains '\x00'
  | raw bytes _ => bytes.contains 0

end Name

/-- The names on the way from the root. -/
abbrev Location := List Name

end BuilderGen
