import BuilderGen.FileTree.Basic
import BuilderGen.Manifest.Load

/-!
# BuilderGen.Manifest.File

**Manifests in files.** A file that is not there, or whose bytes are no text, has no
manifest; all other files are read as texts are.
-/

namespace BuilderGen.FileTree

/-- The manifest in the file a path leads to. -/
def manifest (t : FileTree) (path : String) : Except ManifestError Manifest :=
  match t.readText? path with
  | some text => Manifest.parse text
  | none => .error (.unreadable path)

end BuilderGen.FileTree
