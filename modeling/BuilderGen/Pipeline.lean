import BuilderGen.Round

/-!
# BuilderGen.Pipeline

**Pipelines** run rounds: the phase that validates, the one that lowers, and then
any others, each between the hooks of all plugins.

Design points:

* Phases and hooks are computations on a round and on a state `σ` of the outside
  world. They may change both and may fail; a failure ends the run, and what
  happened to `σ` until then stays.
* A hook gets the name of the phase it is called for.
-/

namespace BuilderGen

/-- A step of a round. -/
structure Phase (σ : Type) where
  name : String
  run : Round → Effect σ Round

/-- Hooks around every phase; one that is not given does nothing. -/
structure Plugin (σ : Type) where
  before : String → Round → Effect σ Round := fun _ round => pure round
  after : String → Round → Effect σ Round := fun _ round => pure round

namespace Phase

/-- The phase that lints the manifest and fails if there are errors, also errors of
somebody else. -/
def validate {σ : Type} (lints : List Lint) : Phase σ where
  name := Lint.phase
  run round :=
    let round := round.lint lints
    match round.errorCount with
    | 0 => pure round
    | errors => Effect.fail (.validation errors)

/-- The phase that lowers the marked records. -/
def lower {σ : Type} : Phase σ where
  name := "lower"
  run round := pure round.lower

end Phase

/-- A pipeline: how it validates, the phases behind lowering, and its plugins. -/
structure Pipeline (σ : Type) where
  validate : Phase σ := Phase.validate Lint.builtin
  extra : List (Phase σ) := []
  plugins : List (Plugin σ) := []

namespace Pipeline

/-- The phases in the order they run. -/
def phases {σ : Type} (p : Pipeline σ) : List (Phase σ) := p.validate :: Phase.lower :: p.extra

/-- Runs a phase between the hooks of all plugins. -/
def step {σ : Type} (p : Pipeline σ) (round : Round) (phase : Phase σ) : Effect σ Round := do
  let round ← p.plugins.foldlM (fun round plugin => plugin.before phase.name round) round
  let round ← phase.run round
  p.plugins.foldlM (fun round plugin => plugin.after phase.name round) round

/-- Runs a round for a manifest. -/
def run {σ : Type} (p : Pipeline σ) (manifest : Manifest) : Effect σ Round :=
  p.phases.foldlM p.step { manifest }

end Pipeline
end BuilderGen
