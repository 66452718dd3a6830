import BuilderGen.Generator
import BuilderGen.Report.Basic
import BuilderGen.Snapshot

/-!
# BuilderGen.Report.Generation

**Generating** the builders of a manifest, or only previewing them, and what is said
about it. If asked to, the round leaves a snapshot of itself after every phase, in a
directory of its own below the output directory.
-/

namespace BuilderGen

/-- How builders are generated. -/
structure GenerationOptions where
  /-- The output directory. -/
  output : String
  /-- Whether to render the builders only. -/
  dryRun : Bool := false
  /-- Whether to leave snapshots. -/
  visualize : Bool := false
  deriving DecidableEq, Repr

/-- What became of the builders. -/
inductive GenerationOutcome
  /-- They were written below a directory; `snapshots` is where the snapshots are. -/
  | written (output : String) (paths : List String) (snapshots : Option String)
  | preview (files : List BuilderFile)
  deriving DecidableEq, Repr

/-- What became of a manifest. -/
structure Generation where
  project : Project
  /-- What the lints warned about. -/
  warnings : List String
  outcome : GenerationOutcome
  deriving DecidableEq, Repr

/-! ### Snapshots -/

/-- The directory of the snapshots. -/
def snapshotDirectory (output : String) : String := Path.join output ".rebar/debug"

/-- Writes a snapshot into a directory. -/
def Snapshot.write (directory : String) (s : Snapshot) : Filing Unit := do
  let _ ← Filing.makeDirectories directory
  Filing.writeThrough (Path.join directory (s.phase ++ ".json")) s.toJson.pretty

/-- The pipeline of the built-in phases; with `visualize` it writes snapshots. -/
def generationPipeline (options : GenerationOptions) : Pipeline FileTree where
  plugins :=
    if options.visualize then
      [Snapshot.recorder (Snapshot.write (snapshotDirectory options.output)) fun _ t => t]
    else []

/-! ### Generating -/

/-- The generator of a round, which takes the records of the round. -/
def Round.generator {σ : Type} (r : Round) : Effect σ Generator :=
  match r.takeRecords with
  | .ok (records, _) => return { language := r.manifest.project.language, records }
  | .error cause => Effect.fail cause

/-- Generates the builders of a manifest. -/
def Manifest.generate (m : Manifest) (stamp : Stamp) (options : GenerationOptions) :
    Filing Generation := do
  let round ← Effect.during .pipeline ((generationPipeline options).run m)
  let generator ← round.generator
  let outcome ←
    if options.dryRun then pure (.preview (generator.files stamp))
    else do
      let paths ← Effect.during .generation (generator.generate stamp options.output)
      let snapshots := if options.visualize then some (snapshotDirectory options.output) else none
      pure (.written options.output paths snapshots)
  return { project := m.project, warnings := round.details .warning, outcome }

/-! ### What is said -/

/-- A project in words. -/
def Project.report (p : Project) : Report :=
  [.line (p.name ++ " (" ++ p.language.name ++ ")")] ++ p.description.toList.map ReportLine.line ++
    [.blank]

/-- What is said about the builders of a project. -/
def GenerationOutcome.report (project : Project) : GenerationOutcome → Report
  | written output paths snapshots =>
    snapshots.toList.flatMap (fun directory =>
      [.field "Pipeline snapshots written to" directory, .blank]) ++
    project.report ++
    if paths.isEmpty then [.line "No marked records, nothing generated."]
    else
      [.heading ("Builders (" ++ toString paths.length ++ ")")] ++ paths.map ReportLine.added ++
        [.blank, .field "Generated" output]
  | preview files =>
    files.flatMap (fun file => [.divider file.path, .line file.content]) ++
      [.divider "Summary",
        .line (Report.plural files.length "builder" ++ " would be generated")]

/-- What is said about a manifest. -/
def Generation.report (g : Generation) : Report :=
  g.warnings.map ReportLine.warning ++ g.outcome.report g.project

end BuilderGen
