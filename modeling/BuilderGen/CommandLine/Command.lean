import BuilderGen.Language
import BuilderGen.Stamp

/-!
# BuilderGen.CommandLine.Command

The **commands** of the program, with the arguments they were given, and why a
command line may name none (`Refusal`).
-/

namespace BuilderGen

/-- Shells that completions can be asked for. -/
inductive Shell
  | bash
  | elvish
  | fish
  | powershell
  | zsh
  deriving DecidableEq, Repr

namespace Shell

/-- Every shell. -/
def all : List Shell := [bash, elvish, fish, powershell, zsh]

/-- The name of a shell. -/
def name : Shell → String
  | bash => "bash"
  | elvish => "elvish"
  | fish => "fish"
  | powershell => "powershell"
  | zsh => "zsh"

/-- The shell of a name. -/
def ofName? (name : String) : Option Shell := all.find? (·.name == name)

end Shell

/-- What builders are generated from, and where. -/
structure Target where
  /-- The path of the manifest. -/
  config : String := "rebar.toml"
  /-- The directory the builders are below. -/
  output : String := "."
  /-- The language instead of the one the manifest names. -/
  language : Option Language := none
  deriving DecidableEq, Repr

/-- A command. -/
inductive Command
  /-- Writes a starter manifest for a project; a dot names the project after the
  working directory. -/
  | start (name : String) (output : Option String) (language : Option Language)
  /-- Writes the builders, or shows them only. -/
  | generate (target : Target) (dryRun visualize : Bool) (stamp : Option Stamp)
  /-- Says whether a manifest is valid. -/
  | check (config : String)
  /-- Lists the types of a manifest. -/
  | list (config : String) (json : Bool)
  /-- Removes the builders that belong to no record, or lists them only. -/
  | clean (target : Target) (dryRun : Bool)
  /-- Writes the completions for a shell. -/
  | completions (shell : Shell)
  deriving DecidableEq, Repr

/-- Why a command line names no command. -/
inductive Refusal
  /-- It asks for help. -/
  | help
  /-- It asks for the version. -/
  | version
  /-- It is empty, and help is the answer. -/
  | empty
  /-- It has options and no command. -/
  | missingCommand
  /-- It names a command that is none. -/
  | unknownCommand
  /-- It holds an argument that is not expected. -/
  | unknownArgument
  /-- A value is missing, empty, or not one of a fixed set. -/
  | invalidValue
  /-- A value is not what its option takes. -/
  | unreadableValue
  /-- An option is given twice. -/
  | repeated
  /-- An argument that has to be given is missing. -/
  | missingArgument
  /-- A value is given to an option that takes none. -/
  | surplusValue
  deriving DecidableEq, Repr

namespace Refusal

/-- What is said about a command line. -/
def message : Refusal → String
  | help | empty => "usage: rebar [options] init|generate|check|list|clean|completions [arguments]"
  | version => "rebar 0.3.0"
  | missingCommand => "error: a command is missing"
  | unknownCommand => "error: there is no such command"
  | unknownArgument => "error: unexpected argument"
  | invalidValue => "error: a value is missing or not allowed"
  | unreadableValue => "error: a value cannot be read"
  | repeated => "error: an option is given more than once"
  | missingArgument => "error: an argument is missing"
  | surplusValue => "error: an option takes no value"

/-- The exit status: asking for help or the version is no mistake. -/
def status : Refusal → Nat
  | help | version => 0
  | _ => 2

end Refusal
end BuilderGen
