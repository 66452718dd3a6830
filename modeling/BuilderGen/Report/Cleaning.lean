import BuilderGen.Report.Generation

/-!
# BuilderGen.Report.Cleaning

**Cleaning** an output directory: the builders below it that no marked record of a
manifest accounts for are removed, or only listed.
-/

namespace BuilderGen

/-- What became of orphaned builders. -/
structure Cleaning where
  /-- Whether they were only listed. -/
  dryRun : Bool
  /-- What the lints warned about. -/
  warnings : List String
  /-- The paths of the builders, relative to the output directory. -/
  removed : List String
  deriving DecidableEq, Repr

/-- Removes the builders below a directory that a manifest does not account for. -/
def Manifest.clean (m : Manifest) (output : String) (dryRun : Bool) : Filing Cleaning := do
  let round ← Effect.during .pipeline (({} : Pipeline FileTree).run m)
  let generator ← round.generator
  let removed ← Effect.during (.cleaning output) (generator.clean output dryRun)
  return { dryRun, warnings := round.details .warning, removed }

/-- What is said about orphaned builders. -/
def Cleaning.report (c : Cleaning) : Report :=
  c.warnings.map ReportLine.warning ++
    if c.removed.isEmpty then [.line "No orphaned builders found."]
    else
      .heading (if c.dryRun then "Would delete" else "Deleted") :: c.removed.map ReportLine.removed

end BuilderGen
