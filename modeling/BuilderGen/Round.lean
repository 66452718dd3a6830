import BuilderGen.Diagnostic
import BuilderGen.Failure
import BuilderGen.Lint
import BuilderGen.Record
import BuilderGen.Text.Blank

/-!
# BuilderGen.Round

**Rounds.** A round takes one manifest through the phases: they leave diagnostics
in it, and lowering leaves the records that builders are generated for. Two phases
are always there, validating and lowering; both are functions on rounds here.
-/

namespace BuilderGen

/-- The state of a round. -/
structure Round where
  manifest : Manifest
  /-- The lowered records, from lowering until they are taken. -/
  records : Option (List Record) := none
  /-- What the phases remarked so far, in order. -/
  diagnostics : List Diagnostic := []
  deriving DecidableEq, Repr

namespace Round

/-- The diagnostics of a severity, in order. -/
def ofSeverity (r : Round) (severity : Severity) : List Diagnostic :=
  r.diagnostics.filter (·.severity == severity)

/-- What the diagnostics of a severity say, in order. -/
def details (r : Round) (severity : Severity) : List String :=
  (r.ofSeverity severity).map Diagnostic.detail

/-- The number of errors. -/
def errorCount (r : Round) : Nat := (r.ofSeverity .error).length

/-- Whether there is an error. -/
def hasErrors (r : Round) : Bool := 0 < r.errorCount

/-- Adds diagnostics behind those there are. -/
def remark (r : Round) (diagnostics : List Diagnostic) : Round :=
  { r with diagnostics := r.diagnostics ++ diagnostics }

/-- Takes the lowered records out. -/
def takeRecords (r : Round) : Except Cause (List Record × Round) :=
  match r.records with
  | some records => .ok (records, { r with records := none })
  | none => .error .noRecords

/-! ### Validating -/

/-- The round with the remarks of lints. -/
def lint (r : Round) (lints : List Lint) : Round :=
  r.remark (lints.flatMap fun lint => lint.check r.manifest)

/-! ### Lowering -/

/-- The component of a record for a declared one. -/
def lowerComponent (c : ComponentDecl) : Component :=
  { name := Text.trim c.name, type := Text.trim c.type }

/-- The constructor of a record for a declared one. -/
def lowerConstructor : Option ConstructorDecl → Constructor
  | some c => .function c.name c.returns
  | none => .literal

/-- The record of a declared type. -/
def lowerRecord (name : String) (decl : TypeDecl) : Record :=
  { package := Text.trim decl.package
    name
    components := decl.components.map lowerComponent
    constructor := lowerConstructor decl.constructor }

/-- The records of a manifest: one for every marked type, unless it is no record. -/
def lowerManifest (m : Manifest) : List Record :=
  m.marked.filterMap fun (name, decl) =>
    if decl.wantsBuilder then some (lowerRecord name decl) else none

/-- The round with its manifest lowered. -/
def lower (r : Round) : Round := { r with records := some (lowerManifest r.manifest) }

/-! ### Small lemmas -/

@[simp] theorem diagnostics_remark (r : Round) (ds : List Diagnostic) :
    (r.remark ds).diagnostics = r.diagnostics ++ ds := rfl

@[simp] theorem diagnostics_lower (r : Round) : r.lower.diagnostics = r.diagnostics := rfl

@[simp] theorem manifest_lint (r : Round) (lints : List Lint) :
    (r.lint lints).manifest = r.manifest := rfl

/-- Lowering keeps the buildable records, in order. -/
theorem lowerManifest_eq (m : Manifest) :
    lowerManifest m = m.buildable.map fun t => lowerRecord t.1 t.2 := by
  simp only [lowerManifest, Manifest.marked, Manifest.buildable]
  induction m.types with
  | nil => rfl
  | cons t types ih =>
    by_cases hb : t.2.builder <;> by_cases hw : t.2.wantsBuilder
    · simp [hb, hw, ih]
    · simp [hb, hw, ih]
    · exact absurd hw (by simp [TypeDecl.wantsBuilder, hb])
    · simp [hb, hw, ih]

end Round
end BuilderGen
