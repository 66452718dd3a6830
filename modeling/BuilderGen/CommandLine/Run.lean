import BuilderGen.CommandLine.Command
import BuilderGen.Manifest.File
import BuilderGen.Report.Cleaning
import BuilderGen.Report.Inventory
import BuilderGen.Report.Verdict
import BuilderGen.Starter

/-!
# BuilderGen.CommandLine.Run

**Running a command** on a file tree: what it does to the tree, what it says, and
with which status it ends. Commands that need a manifest and fail to read it say so
and end; commands that generate or clean do the same for a manifest with errors.
-/

namespace BuilderGen

/-- What a command says, and the status it ends with. -/
structure Ending where
  report : Report
  status : Nat := 0
  deriving DecidableEq, Repr

/-- What is said about a manifest that cannot be read. -/
def ManifestError.report (e : ManifestError) : Report :=
  [.error e.message] ++ e.code?.toList.map (fun code => .trouble ("code: " ++ code)) ++
    e.help?.toList.map fun help => .trouble ("help: " ++ help)

/-- What is said about a failure. -/
def Failure.report (f : Failure) : Report :=
  [.trouble ("Error: " ++ Text.joinWith ": " f.chain)]

/-- The end of a command that did what it should. -/
def Ending.done (report : Report) : Ending := { report }

/-- The end of a command that did not. -/
def Ending.failed (report : Report) : Ending := { report, status := 1 }

/-- Runs an operation on a file tree to the end of a command. -/
def Filing.finish {α : Type} (operation : Filing α) (report : α → Report) : StateM FileTree Ending :=
  fun t =>
    match operation.runOn t with
    | (.ok result, t) => (.done (report result), t)
    | (.error f, t) => (.failed f.report, t)

namespace FileTree

/-- The manifest at a path, or the end of the command that needs it. -/
def open? (t : FileTree) (config : String) : Except Ending Manifest :=
  (t.manifest config).mapError fun e => .failed e.report

/-- The manifest of a target, if it is valid, or the end of the command that needs
it. -/
def load (t : FileTree) (target : Target) : Except Ending Manifest := do
  let m := (← t.open? target.config).withLanguage target.language
  let verdict := m.verdict target.config
  if verdict.isValid then return m else .error (.failed verdict.report)

end FileTree

/-! ### Starting a project -/

/-- The name of a project and the directory of its manifest. That of the working directory
has to be a text. -/
def projectPlace (name : String) (output : Option String) : Filing (String × String) := do
  if name != "." then return (name, output.getD name)
  match (← get).workingDirectory.getLast? with
  | some (.text name) => return (name, output.getD ".")
  | _ => Effect.fail .namelessDirectory

/-- Writes a starter manifest, unless there is something already. There is nobody to
ask for a language. -/
def startProject (name : String) (output : Option String) (language : Option Language) :
    Filing Report := do
  let (name, directory) ← projectPlace name output
  match language with
  | none => Effect.fail .noLanguageChosen
  | some language =>
    let path := Starter.path directory
    match ← ({ name, language } : Starter).write .ifMissing directory with
    | .skipped => return [.line (path ++ " already exists, left untouched")]
    | .written =>
      return [.line ("Created " ++ path), .blank, .line "Next steps:",
        .item ("rebar generate -c " ++ path ++ " -o <source dir>")]

/-! ### Running -/

/-- Goes on with a manifest, or ends. -/
def withManifest (m : Except Ending Manifest) (next : Manifest → StateM FileTree Ending) :
    StateM FileTree Ending :=
  match m with
  | .ok m => next m
  | .error ending => pure ending

namespace Command

/-- The paths of what a command is about. -/
def paths : Command → List String
  | start name output _ => [output.getD name]
  | generate target .. | clean target _ => [target.config, target.output]
  | check config | list config _ => [config]
  | completions _ => []

/-- Runs a command. Builders without a stamp of their own are stamped `now`.
Completions are not part of this program; asking for them does nothing. -/
def run (now : Stamp) : Command → StateM FileTree Ending
  | start name output language => (startProject name output language).finish id
  | generate target dryRun visualize stamp => do
    withManifest ((← get).load target) fun m =>
      (m.generate (stamp.getD now) { output := target.output, dryRun, visualize }).finish
        Generation.report
  | check config => do
    withManifest ((← get).open? config) fun m =>
      let verdict := m.verdict config
      pure { report := verdict.report, status := if verdict.isValid then 0 else 1 }
  | list config json => do
    withManifest ((← get).open? config) fun m =>
      let inventory := m.inventory
      pure (.done (if json then [.line inventory.toJson.pretty] else inventory.report))
  | clean target dryRun => do
    withManifest ((← get).load target) fun m =>
      (m.clean target.output dryRun).finish Cleaning.report
  | completions _ => pure (.done [])

end Command
end BuilderGen
