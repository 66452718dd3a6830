/-!
# BuilderGen.Failure

**Failures** of commands: a cause, and what was being undertaken when it came up,
outermost first. Operations that fail keep the effects they had before, so they
are computations on a state with failures on top (`Effect`).
-/

namespace BuilderGen

/-- Why something failed. -/
inductive Cause
  /-- The lints found errors. -/
  | validation (errors : Nat)
  /-- The lowered records were asked for, and there are none. -/
  | noRecords
  /-- Two records have the same builder file. -/
  | collision (path : String)
  /-- A directory cannot be created. -/
  | createDirectory (path : String)
  /-- A file cannot be opened for writing. -/
  | openFile (path : String)
  /-- A file cannot be written. -/
  | write (path : String)
  /-- A file cannot be deleted. -/
  | delete (path : String)
  /-- No target language was given, and none could be asked for. -/
  | noLanguageChosen
  /-- The working directory has no name. -/
  | namelessDirectory
  /-- A lint, phase or plugin from outside refused to go on. -/
  | refused (message : String)
  deriving DecidableEq, Repr

/-- What is said about a cause. -/
def Cause.message : Cause → String
  | validation errors => "Validation failed with " ++ toString errors ++ " error(s)"
  | noRecords => "no records to take; the lower phase has not run"
  | collision path => "more than one record maps to the builder file '" ++ path ++ "'"
  | createDirectory path => "failed to create directory '" ++ path ++ "'"
  | openFile path => "failed to open '" ++ path ++ "' for writing"
  | write path => "failed to write '" ++ path ++ "'"
  | delete path => "failed to delete '" ++ path ++ "'"
  | noLanguageChosen => "failed to read language selection"
  | namelessDirectory => "current directory has no usable name"
  | refused message => message

/-- What was being undertaken. -/
inductive Undertaking
  | pipeline
  | generation
  | cleaning (directory : String)
  deriving DecidableEq, Repr

/-- What is said about an undertaking that failed. -/
def Undertaking.message : Undertaking → String
  | pipeline => "pipeline failed"
  | generation => "failed to generate builders"
  | cleaning directory => "failed to clean '" ++ directory ++ "'"

/-- A failure: the undertakings that failed with it, outermost first, and its cause. -/
structure Failure where
  undertakings : List Undertaking := []
  cause : Cause
  deriving DecidableEq, Repr

namespace Failure

/-- Everything that is said about a failure, outermost first. -/
def chain (f : Failure) : List String := f.undertakings.map Undertaking.message ++ [f.cause.message]

/-- What is said about a failure first. -/
def message (f : Failure) : String :=
  match f.undertakings with
  | undertaking :: _ => undertaking.message
  | [] => f.cause.message

/-- The failure as the failure of an undertaking. -/
def of (undertaking : Undertaking) (f : Failure) : Failure :=
  { f with undertakings := undertaking :: f.undertakings }

end Failure

/-- A computation on a state that may fail; its effects on the state stay. -/
abbrev Effect (σ : Type) := ExceptT Failure (StateM σ)

namespace Effect

/-- Fails with a cause. -/
def fail {σ α : Type} (cause : Cause) : Effect σ α := throw { cause }

/-- Failures of `x` are failures of an undertaking. -/
def during {σ α : Type} (undertaking : Undertaking) (x : Effect σ α) : Effect σ α := fun s =>
  match x s with
  | (.ok a, s) => (.ok a, s)
  | (.error f, s) => (.error (f.of undertaking), s)

/-- The outcome of a computation and the state it leaves. -/
def runOn {σ α : Type} (x : Effect σ α) (s : σ) : Except Failure α × σ := x s

end Effect
end BuilderGen
