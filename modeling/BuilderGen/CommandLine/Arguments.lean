import BuilderGen.CommandLine.Command

/-!
# BuilderGen.CommandLine.Arguments

The **arguments** of a command: which options and operands each command takes, and
what has been given so far. An option is given at most once, unless it is counted.
-/

namespace BuilderGen

/-- What can be given by name. -/
inductive Parameter
  | config
  | output
  | language
  | dryRun
  | visualize
  | stamp
  | json
  | verbose
  | help
  | version
  deriving DecidableEq, Repr

namespace Parameter

/-- The name behind two dashes. -/
def long : Parameter → String
  | config => "config"
  | output => "output"
  | language => "language"
  | dryRun => "dry-run"
  | visualize => "visualize"
  | stamp => "stamp"
  | json => "json"
  | verbose => "verbose"
  | help => "help"
  | version => "version"

/-- The letter behind one dash. -/
def short? : Parameter → Option Char
  | config => some 'c'
  | output => some 'o'
  | language => some 'l'
  | verbose => some 'v'
  | help => some 'h'
  | version => some 'V'
  | _ => none

/-- Whether a value has to follow. -/
def takesValue : Parameter → Bool
  | config | output | language | stamp => true
  | _ => false

/-- Parameters that can be given before a command. -/
def general : List Parameter := [verbose, help, version]

end Parameter

/-- What can be given by position. -/
inductive Operand
  | project
  | shell
  deriving DecidableEq, Repr

/-- The names of commands. -/
inductive CommandName
  | start
  | generate
  | check
  | list
  | clean
  | completions
  deriving DecidableEq, Repr

namespace CommandName

/-- Every name, and the word it is given by. -/
def words : List (String × CommandName) :=
  [("init", start), ("generate", generate), ("check", check), ("list", list), ("clean", clean),
    ("completions", completions)]

/-- The command a word names. -/
def ofWord? (word : String) : Option CommandName := words.lookup word

/-- The parameters of a command. -/
def parameters (name : CommandName) : List Parameter :=
  (match name with
  | start => [.output, .language]
  | generate => [.config, .output, .language, .dryRun, .visualize, .stamp]
  | check => [.config]
  | list => [.config, .json]
  | clean => [.config, .output, .language, .dryRun]
  | completions => []) ++ [.verbose, .help]

/-- The operands of a command, in order. -/
def operands : CommandName → List Operand
  | start => [.project]
  | completions => [.shell]
  | _ => []

end CommandName

/-- What has been given. -/
structure Arguments where
  config : Option String := none
  output : Option String := none
  language : Option Language := none
  stamp : Option Stamp := none
  project : Option String := none
  shell : Option Shell := none
  dryRun : Bool := false
  visualize : Bool := false
  json : Bool := false
  verbosity : Nat := 0
  deriving DecidableEq, Repr

namespace Arguments

/-- The value of a parameter that has none so far. -/
def once {α : Type} (given : Option α) (value : Except Refusal α) : Except Refusal (Option α) :=
  if given.isSome then .error .repeated else value.map some

/-- A switch that is off so far. -/
def switch (on : Bool) : Except Refusal Bool := if on then .error .repeated else .ok true

/-- A path, which is not empty. -/
def path (value : String) : Except Refusal String :=
  if value.isEmpty then .error .invalidValue else .ok value

/-- Gives a parameter a value. Parameters without one are switched on instead. -/
def give (a : Arguments) (value : String) : Parameter → Except Refusal Arguments
  | .config => do return { a with config := ← once a.config (path value) }
  | .output => do return { a with output := ← once a.output (path value) }
  | .language => do
    let language := (Language.ofText value).mapError fun _ => .unreadableValue
    return { a with language := ← once a.language language }
  | .stamp => do
    let stamp := (Stamp.ofText value).mapError fun _ => .unreadableValue
    return { a with stamp := ← once a.stamp stamp }
  | .dryRun => do return { a with dryRun := ← switch a.dryRun }
  | .visualize => do return { a with visualize := ← switch a.visualize }
  | .json => do return { a with json := ← switch a.json }
  | .verbose => .ok { a with verbosity := a.verbosity + 1 }
  | .help => .error .help
  | .version => .error .version

/-- Gives an operand. -/
def giveOperand (a : Arguments) (value : String) : Operand → Except Refusal Arguments
  | .project => .ok { a with project := some value }
  | .shell =>
    match Shell.ofName? value with
    | some shell => .ok { a with shell := some shell }
    | none => .error .invalidValue

/-- What builders are generated from, and where. -/
def target (a : Arguments) : Target where
  config := a.config.getD "rebar.toml"
  output := a.output.getD "."
  language := a.language

/-- The command of a name. -/
def command (a : Arguments) : CommandName → Except Refusal Command
  | .start => .ok (.start (a.project.getD ".") a.output a.language)
  | .generate => .ok (.generate a.target a.dryRun a.visualize a.stamp)
  | .check => .ok (.check a.target.config)
  | .list => .ok (.list a.target.config a.json)
  | .clean => .ok (.clean a.target a.dryRun)
  | .completions =>
    match a.shell with
    | some shell => .ok (.completions shell)
    | none => .error .missingArgument

end Arguments
end BuilderGen
