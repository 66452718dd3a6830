import BuilderGen.FileTree.Edit

/-!
# BuilderGen.FileTree.Output

**Output files**: files written below an output directory. Builders are written
anew every time; a starter manifest never takes the place of something that is
already there.
-/

namespace BuilderGen

/-- When an output file is written. -/
inductive Overwrite
  | always
  /-- Only if its path leads to nothing. -/
  | ifMissing
  deriving DecidableEq, Repr

/-- What became of an output file. -/
inductive WriteResult
  | written
  | skipped
  deriving DecidableEq, Repr

namespace Filing

/-- Writes a file, or leaves what is there. -/
def writeOutput (overwrite : Overwrite) (path content : String) : Filing WriteResult := do
  if overwrite = .ifMissing ∧ (← get).holds path then return .skipped
  writeAtomic path content
  return .written

end Filing
end BuilderGen
