import BuilderGen.Emit.BuilderFile
import BuilderGen.FileTree.Orphan
import BuilderGen.FileTree.Output

/-!
# BuilderGen.Generator

**Generators** write the builders of lowered records below an output directory, one
file a record, and remove the builders of records that are gone.

Nothing is written if two records have the same file. Otherwise the files are
written in the order of the records, up to the first that cannot be written.
-/

namespace BuilderGen

/-- What builders are generated from. -/
structure Generator where
  language : Language
  records : List Record
  deriving DecidableEq, Repr

namespace Generator

/-- The builders, in the order of the records. -/
def files (g : Generator) (stamp : Stamp) : List BuilderFile :=
  g.records.map fun record => record.builderFile g.language stamp

/-- The paths of the builders, relative to an output directory. -/
def paths (g : Generator) : List String := g.records.map fun record => record.builderPath g.language

/-- The first path that occurs for a second time, where `seen` are the paths
before. -/
def repeated? (seen : List String) : List String → Option String
  | [] => none
  | path :: rest => if seen.contains path then some path else repeated? (path :: seen) rest

/-- Writes the builders below a directory and lists their paths. -/
def generate (g : Generator) (stamp : Stamp) (output : String) : Filing (List String) := do
  match repeated? [] g.paths with
  | some path => Effect.fail (.collision path)
  | none =>
    (g.files stamp).forM fun file => do
      let _ ← Filing.writeOutput .always (Path.join output file.path) file.content
    return g.paths

/-- Removes the builders below a directory that belong to no record, and lists
their paths. -/
def clean (g : Generator) (output : String) (dryRun : Bool) : Filing (List String) :=
  Filing.clean output g.language.extension g.paths dryRun

/-- Builders lie at the paths that are said, whatever their stamp. -/
@[simp] theorem map_path_files (g : Generator) (stamp : Stamp) :
    (g.files stamp).map (·.path) = g.paths := by
  simp [paths, files, Record.builderFile]

end Generator
end BuilderGen
