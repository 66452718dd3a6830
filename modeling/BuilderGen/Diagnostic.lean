import BuilderGen.Json

/-!
# BuilderGen.Diagnostic

**Diagnostics**: what phases have to say about a manifest, by severity, with the
phase that said it and, if there is one, the place it is about.
-/

namespace BuilderGen

/-- How serious a diagnostic is. -/
inductive Severity
  | error
  | warning
  | info
  deriving DecidableEq, Repr

/-- The name of a severity. -/
def Severity.label : Severity → String
  | error => "error"
  | warning => "warning"
  | info => "info"

/-- A remark of a phase. -/
structure Diagnostic where
  severity : Severity
  phase : String
  message : String
  location : Option String := none
  deriving DecidableEq, Repr

namespace Diagnostic

/-- The message and, on a line of its own, the location. -/
def detail (d : Diagnostic) : String :=
  match d.location with
  | some location => d.message ++ "\n  --> " ++ location
  | none => d.message

/-- The whole diagnostic. -/
def text (d : Diagnostic) : String :=
  d.severity.label ++ "[" ++ d.phase ++ "]: " ++ d.detail

/-- The diagnostic as JSON; a missing location is left out. -/
def toJson (d : Diagnostic) : Json :=
  .object ([("severity", .text d.severity.label), ("phase", .text d.phase),
    ("message", .text d.message)] ++ Json.member? "location" (d.location.map .text))

end Diagnostic
end BuilderGen
