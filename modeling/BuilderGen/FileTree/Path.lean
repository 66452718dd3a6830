import BuilderGen.FileTree.Name
import BuilderGen.Text.Segments

/-!
# BuilderGen.FileTree.Path

**Paths**: pieces between slashes. Empty pieces and single dots lead nowhere, but only
from a directory; two dots lead up. A path that starts with a slash is absolute. Paths
and the names in them cannot be of any length.

Most paths are texts. The path of something that was found on the way through
directories has their names in it, and these may be none (`RawPath`).

The functions here look at the path only; what it leads to depends on the file tree.
-/

namespace BuilderGen
namespace Path

/-- A step along a path. -/
inductive Step
  /-- To the directory above. -/
  | up
  /-- To the entry with a name. -/
  | into (name : Name)
  /-- Nowhere; what has been reached has to be a directory. -/
  | stay
  deriving DecidableEq

/-- The texts between the slashes of a path. -/
def parts (path : String) : List String := Text.segments "/" path

/-- The pieces of a path between slashes. -/
def pieces (path : String) : List Name := (parts path).map .text

/-- Whether a path starts at the root. -/
def isAbsolute (path : String) : Bool := path.toList.head? == some '/'

/-- Whether a piece leads nowhere. -/
def isIdle (part : String) : Bool := part.isEmpty || part == "."

/-- The step a piece stands for. -/
def step : Name → Step
  | .text part =>
    if isIdle part then .stay
    else if part = ".." then .up
    else .into (.text part)
  | .raw bytes h => .into (.raw bytes h)

/-- The steps of a path. -/
def steps (path : String) : List Step := (pieces path).map step

/-- Whether a text can be a path: it is not empty, holds no null character, and has
fewer than 4096 bytes. -/
def isUsable (path : String) : Bool :=
  !path.isEmpty && !path.toList.contains '\x00' && Text.byteCount path.toList < 4096

/-- The name at the end of a path, if the path ends with one that an entry can have. -/
def lastName? (path : String) : Option Name :=
  match (pieces path).getLast?.map step with
  | some (.into name) => if name.isUsable then some name else none
  | _ => none

/-- `path` below `base`. An absolute path is below nothing. -/
def join (base path : String) : String :=
  if isAbsolute path || base.isEmpty then path
  else if base.toList.getLast? == some '/' then base ++ path
  else base ++ "/" ++ path

/-- The parts without the idle ones at the end. -/
def dropIdleEnd (parts : List String) : List String := (parts.reverse.dropWhile isIdle).reverse

/-- What a path starts with: a slash, a dot that stands for itself, or nothing. -/
def splitHead (path : String) : String × List String :=
  match path.toList with
  | '/' :: rest => ("/", parts (String.ofList rest))
  | ['.'] => (".", [])
  | '.' :: '/' :: rest => (".", "" :: parts (String.ofList rest))
  | _ => ("", parts path)

/-- The path of the directory that the last part is in. The root has none, and
neither has the empty path. -/
def parent? (path : String) : Option String :=
  let (head, parts) := splitHead path
  match dropIdleEnd parts with
  | [] => if head = "." then some "" else none
  | part :: rest =>
    some (head ++ Text.joinWith "/" (dropIdleEnd ((part :: rest).dropLast)))

/-- The directory a file is written in: the one above it, or else the working
directory. -/
def directoryOf (path : String) : String :=
  match parent? path with
  | some parent => if parent.isEmpty then "." else parent
  | none => "."

/-! ### Extensions -/

/-- The extension of a file name: what follows its last dot, unless the name starts
with it. -/
def extension? (name : String) : Option String :=
  match (Text.segments "." name).reverse with
  | last :: before :: rest =>
    if name = ".." || (before.isEmpty && rest.isEmpty) then none else some last
  | _ => none

/-- The bytes of the extension of a file name that is no text. -/
def rawExtension? (bytes : List UInt8) : Option (List UInt8) :=
  match bytes.reverse.dropWhile (· != 0x2E) with
  | _ :: _ :: _ => some (bytes.reverse.takeWhile (· != 0x2E)).reverse
  | _ => none

/-- Whether a file name has an extension. -/
def hasExtension (extension : String) : Name → Bool
  | .text name => extension? name == some extension
  | .raw bytes _ => rawExtension? bytes == some extension.toUTF8.data.toList

end Path

/-! ### Paths that may be no text -/

/-- A path with names in it that may be no texts. -/
structure RawPath where
  pieces : List Name
  deriving DecidableEq

namespace RawPath

/-- A text as a path. -/
@[coe]
def ofText (path : String) : RawPath := ⟨Path.pieces path⟩

instance : Coe String RawPath := ⟨ofText⟩

/-- The path of a location from the root. -/
def ofLocation (location : Location) : RawPath :=
  ⟨.text "" :: if location = [] then [.text ""] else location⟩

/-- The path as it is shown. -/
def shown (path : RawPath) : String := Text.joinWith "/" (path.pieces.map Name.shown)

/-- Whether a path starts at the root: its first piece is empty, and others follow. -/
def isAbsolute (path : RawPath) : Bool :=
  match path.pieces with
  | .text part :: _ :: _ => part.isEmpty
  | _ => false

/-- The steps of a path. -/
def steps (path : RawPath) : List Path.Step := path.pieces.map Path.step

/-- How many bytes names take with slashes between them. -/
def bytesBetween : List Name → Nat
  | [] => 0
  | [name] => name.byteCount
  | name :: rest => name.byteCount + 1 + bytesBetween rest

/-- The number of bytes of a path. -/
def byteCount (path : RawPath) : Nat := bytesBetween path.pieces

/-- Whether the system takes a path: it is not empty, holds no null character, and has
fewer than 4096 bytes. -/
def isUsable (path : RawPath) : Bool :=
  path.byteCount != 0 && !path.pieces.any Name.hasNull && path.byteCount < 4096

/-- `path` below `base`. An absolute path is below nothing, and a slash at the end of the
base is the one between them. -/
def join (base path : RawPath) : RawPath :=
  if path.isAbsolute then path
  else if base.pieces.getLast? = some (.text "") then ⟨base.pieces.dropLast ++ path.pieces⟩
  else ⟨base.pieces ++ path.pieces⟩

end RawPath
end BuilderGen
