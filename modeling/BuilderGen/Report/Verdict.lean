import BuilderGen.Report.Basic
import BuilderGen.Round

/-!
# BuilderGen.Report.Verdict

The **verdict** on a manifest: what the lints say about it, and how many builders it
would give. A manifest is valid when no lint found an error.
-/

namespace BuilderGen

/-- What the lints say about a manifest. -/
structure Verdict where
  /-- The path of the manifest. -/
  path : String
  /-- The number of builders there would be. -/
  buildable : Nat
  errors : List String
  warnings : List String
  infos : List String
  deriving DecidableEq, Repr

/-- The verdict on the manifest at a path. -/
def Manifest.verdict (m : Manifest) (path : String) : Verdict :=
  let round := ({ manifest := m } : Round).lint Lint.builtin
  { path
    buildable := m.buildable.length
    errors := round.details .error
    warnings := round.details .warning
    infos := round.details .info }

namespace Verdict

/-- Whether there are no errors. -/
def isValid (v : Verdict) : Bool := v.errors.isEmpty

/-- What the lints said. -/
def remarks (v : Verdict) : Report :=
  v.errors.map ReportLine.error ++ v.warnings.map ReportLine.warning ++
    v.infos.map fun info => ReportLine.line ("info: " ++ info)

/-- Whether the manifest is valid, in words. -/
def conclusion (v : Verdict) : Report :=
  if v.isValid then
    [.line ("✓ " ++ v.path ++ " is valid"),
      .line ("  " ++ Report.plural v.buildable "builder" ++ " to generate")]
  else [.trouble ("✗ " ++ v.path ++ " has " ++ Report.plural v.errors.length "error")]

/-- The verdict in words. -/
def report (v : Verdict) : Report :=
  v.remarks ++ (if v.remarks.isEmpty then [] else [ReportLine.blank]) ++ v.conclusion

end Verdict
end BuilderGen
