import BuilderGen.FileTree.Edit
import BuilderGen.Marker

/-!
# BuilderGen.FileTree.Orphan

**Orphans**: generated files below a directory that are not expected there.

An orphan carries the marker of generated files and has the extension of builders.
It is reached from the directory without going through a link, a hidden directory
or one for build output. The search goes by paths: every directory is opened, and every
file read and removed, through the path of the directory with the names on the way, and
what that is too long for is passed over. What is listed is the path as it is shown.
Cleaning removes the orphans and nothing else; the directories they were in stay.
-/

namespace BuilderGen

/-- A generated file that is not expected. -/
structure Orphan where
  /-- The path relative to the directory that was searched, as it is shown. -/
  path : String
  /-- The path below the path of that directory. -/
  fullPath : RawPath
  deriving DecidableEq

/-- Whether a directory that is shown like this is not searched: it is hidden, or holds
build output. -/
def isSkippedDirectory (name : String) : Bool :=
  name == "target" || name.toList.head? == some '.'

namespace RawPath

/-- The path of an entry of a directory. -/
def child (path : RawPath) (name : Name) : RawPath := path.join ⟨[name]⟩

/-- Names on the way down, as they are shown. -/
def shownNames (names : List Name) : String := Text.joinWith "/" (names.map Name.shown)

end RawPath

namespace FileTree

/-- The files below the directory a path leads to, at most `depth` levels down, by the
names on the way to them and by their paths. Links and skipped directories are passed
over. -/
def filesBelow (t : FileTree) : (depth : Nat) → RawPath → List (List Name × RawPath)
  | 0, _ => []
  | depth + 1, path =>
    match t.directory? path with
    | none => []
    | some directory =>
      (t.children directory).flatMap fun (name, entry) =>
        match entry with
        | .file _ => [([name], path.child name)]
        | .link _ => []
        | .directory =>
          if isSkippedDirectory name.shown then []
          else (t.filesBelow depth (path.child name)).map fun (names, fullPath) =>
            (name :: names, fullPath)

/-- Whether a file is an orphan. One that cannot be read, or is no text, is none. -/
def isOrphan (t : FileTree) (extension : String) (expected : List String) (names : List Name)
    (fullPath : RawPath) : Bool :=
  names.getLast?.any (Path.hasExtension extension) &&
    !expected.contains (RawPath.shownNames names) &&
    isGenerated ((t.readText? fullPath).getD "")

/-- The orphans below the directory a path leads to, in the order of their paths. -/
def orphans (t : FileTree) (base extension : String) (expected : List String) : List Orphan :=
  let files := (t.filesBelow t.height base).filter fun (names, fullPath) =>
    t.isOrphan extension expected names fullPath
  let found := files.map fun (names, fullPath) =>
    ({ path := RawPath.shownNames names, fullPath } : Orphan)
  found.mergeSort fun a b => decide (a.path ≤ b.path)

end FileTree

namespace Filing

/-- Removes the orphans below a directory, or with `dryRun` leaves them, and lists
their paths. -/
def clean (base extension : String) (expected : List String) (dryRun : Bool) :
    Filing (List String) := do
  let orphans := (← get).orphans base extension expected
  unless dryRun do orphans.forM fun orphan => removeFile orphan.fullPath
  return orphans.map (·.path)

end Filing
end BuilderGen
