import BuilderGen.Failure
import BuilderGen.FileTree.Basic

/-!
# BuilderGen.FileTree.Edit

**Writing to a file tree**: making directories and links, and writing files.

Files are written *atomically*: the content is staged in a new file beside the
destination, which then takes the destination's place. Whatever goes wrong, the
destination holds what it held before, and the staged file is gone. A link at the
destination is replaced, and what it points to is left alone; a directory is not
replaced.

Files can also be written *through*: a link at the destination is followed, and the
content takes the place of what is there.
-/

namespace BuilderGen
namespace FileTree

/-! ### Directories -/

/-- Follows steps from a directory through at most `links` links, and makes the
directories that are missing. The location is missing if something else than a
directory stands in the way, or if a directory cannot have its name; the directories
made before stay. -/
def makeSteps (t : FileTree) (links : Nat) (here : Location) :
    List Path.Step → FileTree × Option Location
  | [] => (t, some here)
  | .stay :: rest => makeSteps t links here rest
  | .up :: rest => makeSteps t links here.dropLast rest
  | .into name :: rest =>
    match t.get? (here ++ [name]) with
    | none =>
      if name.isUsable then
        makeSteps (t.put (here ++ [name]) .directory) links (here ++ [name]) rest
      else (t, none)
    | some .directory => makeSteps t links (here ++ [name]) rest
    | some (.file _) => (t, none)
    | some (.link _) =>
      match t.follow false links here [.into name] with
      | some reached =>
        match t.get? reached.location with
        | some .directory => makeSteps t reached.links reached.location rest
        | _ => (t, none)
      | none => (t, none)

/-- Makes the directories of a path. -/
def makeDirectories (t : FileTree) (path : String) : FileTree × Option Location :=
  if Path.isUsable path then makeSteps t maxLinks (t.start path) (Path.steps path) else (t, none)

/-! ### Links -/

/-- Makes a link where nothing stands yet. -/
def makeLink? (t : FileTree) (path target : String) : Option FileTree := do
  guard (Path.isUsable target)
  let location ← t.place? path
  guard (t.get? location).isNone
  return t.put location (.link (target : RawPath))

/-! ### Files -/

/-- How many bytes the names of entries have together. -/
def namesLength : List (Name × Entry) → Nat
  | [] => 0
  | (name, _) :: rest => name.byteCount + namesLength rest

/-- A name that nothing in a directory has: it is longer than all names there. -/
def freshName (t : FileTree) (directory : Location) : Name :=
  .text (String.ofList (['.', 't', 'm', 'p'] ++
    List.replicate (namesLength (t.children directory)) '0'))

/-- Whether a file can be staged in the directory of a path: the name of the staged
file has ten characters, and its path from the root has to be usable. -/
def canStage (t : FileTree) (directory : String) : Bool :=
  (((RawPath.ofLocation t.workingDirectory).join directory).join ".tmp000000").isUsable

/-- Stages bytes in a new file in a directory. -/
def stage (t : FileTree) (directory : Location) (bytes : ByteArray) : FileTree × Location :=
  let location := directory ++ [t.freshName directory]
  (t.put location (.file bytes), location)

/-- Moves the staged file to its destination, unless a directory stands there. -/
def persist? (t : FileTree) (staged destination : Location) : Option FileTree :=
  match t.get? staged, t.get? destination with
  | some entry, some .directory => let _ := entry; none
  | some entry, _ => some ((t.erase staged).put destination entry)
  | none, _ => none

/-- Removes the file or link that a path names. Fails if there is none, or if a directory
stands in its place. -/
def removeFile? (t : FileTree) (path : RawPath) : Option FileTree := do
  let location ← t.entryAt? path
  match t.get? location with
  | none | some .directory => none
  | some _ => return t.erase location

/-- Writes a file through links. Fails if its directory is not there, or if a
directory stands in its place. -/
def writeThrough? (t : FileTree) (path : String) (bytes : ByteArray) : Option FileTree := do
  let location ← t.walk true path
  match t.get? location with
  | some .directory => none
  | _ => return t.put location (.file bytes)

end FileTree

/-- Writing to a file tree. -/
abbrev Filing := Effect FileTree

namespace Filing

/-- Makes the directories of a path. -/
def makeDirectories (path : String) : Filing Location := do
  let (t, location) := (← get).makeDirectories path
  set t
  match location with
  | some location => return location
  | none => Effect.fail (.createDirectory path)

/-- Writes a file atomically, and makes the directories above it first. -/
def writeAtomic (path content : String) : Filing Unit := do
  let directory ← makeDirectories (Path.directoryOf path)
  unless (← get).canStage (Path.directoryOf path) do Effect.fail (.openFile path)
  let (t, staged) := (← get).stage directory content.toUTF8
  set t
  let name? := if Path.isUsable path then Path.lastName? path else none
  match name?.bind fun name => t.persist? staged (directory ++ [name]) with
  | some t => set t
  | none =>
    set (t.erase staged)
    Effect.fail (.write path)

/-- Removes a file. -/
def removeFile (path : RawPath) : Filing Unit := do
  match (← get).removeFile? path with
  | some t => set t
  | none => Effect.fail (.delete path.shown)

/-- Writes a file through links. -/
def writeThrough (path content : String) : Filing Unit := do
  match (← get).writeThrough? path content.toUTF8 with
  | some t => set t
  | none => Effect.fail (.write path)

end Filing
end BuilderGen
