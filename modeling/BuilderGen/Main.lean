import BuilderGen.CommandLine.Reading
import BuilderGen.CommandLine.Run
import Std.Time.Format

/-!
# BuilderGen.Main

The **program**. It reads what a command is about from the disk into a file tree,
runs the command on the tree, and carries the changes over to the disk.
-/

namespace BuilderGen.Disk

/-- The path of a location. -/
def pathOf (location : Location) : String := (RawPath.ofLocation location).shown

/-- The location of an absolute path without detours. -/
def locationOf (path : String) : Location :=
  (Path.steps path).filterMap fun
    | .into name => some name
    | .up | .stay => none

/-- The directories above a location. -/
def above (location : Location) : List (Location × Entry) :=
  (List.range location.length).map fun n => (location.take n, .directory)

/-- What stands at a location; of a link the location it points to. -/
def readEntry (location : Location) : IO (Option Entry) := do
  let path := location.foldl (fun path name => path / name.shown) (← IO.FS.realPath "/")
  match ← path.symlinkMetadata.toBaseIO with
  | .error _ => return none
  | .ok metadata =>
    match metadata.type with
    | .dir => return some .directory
    | .file => return some (.file (← IO.FS.readBinFile path))
    | .symlink =>
      match ← (IO.FS.realPath path).toBaseIO with
      | .ok target => return some (.link target.toString)
      | .error _ => return some (.link (pathOf location))
    | .other => return some (.file ByteArray.empty)

/-- The names in a directory. -/
def readNames (location : Location) : IO (List Name) := do
  let path := location.foldl (fun path name => path / name.shown) (← IO.FS.realPath "/")
  return (← path.readDir).toList.map (.text ·.fileName)

/-- What stands at a location and below it. Behind a link, what it points to is
read too, unless that is being read already. -/
partial def readBelow (links : List Location) (location : Location) :
    IO (List (Location × Entry)) := do
  match ← readEntry location with
  | none => return []
  | some .directory =>
    let below ← (← readNames location).mapM fun name => readBelow links (location ++ [name])
    return (location, .directory) :: below.flatten
  | some (.link target) =>
    let there := locationOf target.shown
    let behind ← if (location :: links).contains there then pure []
      else readBelow (location :: there :: links) there
    return (location, .link target) :: behind ++ above there
  | some entry => return [(location, entry)]

/-- What stands along a path, and at its end and below. -/
def readPath (start : Location) (path : String) : IO (List (Location × Entry)) := do
  let mut here := start
  let mut found := []
  for step in Path.steps path do
    match step with
    | .stay => pure ()
    | .up => here := here.dropLast
    | .into name =>
      here := here ++ [name]
      match ← readEntry here with
      | none => return found
      | some entry =>
        found := found ++ [(here, entry)]
        if let .link target := entry then
          here := locationOf target.shown
          found := found ++ above here
  return found ++ (← readBelow [] here)

/-- The tree of what stands along paths and at their ends. -/
def read (paths : List String) : IO FileTree := do
  let workingDirectory := locationOf (← IO.currentDir).toString
  let found ← paths.mapM fun path =>
    readPath (if Path.isAbsolute path then [] else workingDirectory) path
  let here := above workingDirectory ++ [(workingDirectory, .directory)]
  return { workingDirectory, entries := found.flatten ++ here }

/-- Writes the difference between two trees to the disk. Files take the place of what
was there once they are complete. -/
def write (old new : FileTree) : IO Unit := do
  for location in (old.entries.map (·.1)).eraseDups do
    if (new.get? location).isNone then IO.FS.removeFile (pathOf location)
  for (location, entry) in new.entries do
    if old.get? location != some entry then
      match entry with
      | .directory => IO.FS.createDirAll (pathOf location)
      | .file bytes =>
        let directory := location.dropLast
        let staged := pathOf (directory ++ [new.freshName directory])
        IO.FS.writeBinFile staged bytes
        IO.FS.rename staged (pathOf location)
      | .link _ => pure ()

/-- The stamp of the current time. -/
def now : IO Stamp := do
  let text := (← Std.Time.DateTime.now).format "uuuu-MM-dd'T'HH:mm:ssxxx"
  match Stamp.ofText text with
  | .ok stamp => return stamp
  | .error fault => throw (IO.userError fault.message)

/-- Says the lines of a report. -/
def say (report : Report) : IO Unit :=
  report.forM fun line =>
    match line.channel with
    | .result => IO.println line.text
    | .trouble => IO.eprintln line.text

/-- Runs a command on the disk; its exit status. -/
def run (command : Command) : IO UInt32 := do
  let stamp ← now
  let old ← read command.paths
  let (ending, new) := (command.run stamp).run old
  write old new
  say ending.report
  return ending.status.toUInt32

end BuilderGen.Disk

/-- Reads the command line and runs the command it names. -/
def main (words : List String) : IO UInt32 := do
  match BuilderGen.Command.read words with
  | .ok command =>
    try BuilderGen.Disk.run command
    catch e =>
      IO.eprintln ("Error: " ++ toString e)
      return 1
  | .error refusal =>
    if refusal.status = 0 then IO.println refusal.message else IO.eprintln refusal.message
    return refusal.status.toUInt32
