import BuilderGen.FileTree.Output
import BuilderGen.Language
import BuilderGen.Toml.Written

/-!
# BuilderGen.Starter

**Starter manifests**: what a new project begins with. A starter manifest names the
project and its language, and declares one marked record as an example.
-/

namespace BuilderGen

/-- A starter manifest. -/
structure Starter where
  name : String
  language : Language
  deriving DecidableEq, Repr

namespace Starter

/-- The example of a language. -/
def exampleLines : Language → List String
  | .java => [
    "# Every type with `builder = true` gets a <Name>Builder class.",
    "[types.Person]",
    "package = \"com.example\"",
    "builder = true",
    "components = [",
    "    \x7b name = \"firstName\", type = \"String\" \x7d,",
    "    \x7b name = \"lastName\", type = \"String\" \x7d,",
    "    \x7b name = \"birthDate\", type = \"java.time.LocalDate\" \x7d,",
    "    \x7b name = \"heightInCentimeters\", type = \"int\" \x7d,",
    "]"]
  | .rust => [
    "# Every type with `builder = true` gets a <Name>Builder struct.",
    "[types.Person]",
    "builder = true",
    "components = [",
    "    \x7b name = \"first_name\", type = \"String\" \x7d,",
    "    \x7b name = \"last_name\", type = \"String\" \x7d,",
    "    \x7b name = \"height_in_centimeters\", type = \"u32\" \x7d,",
    "]",
    "",
    "# Uncomment to build through a validating constructor:",
    "# [types.Person.constructor]",
    "# name = \"new\"",
    "# returns = \"Result<Person, PersonError>\""]

/-- The lines of a starter manifest. -/
def lines (s : Starter) : List String :=
  ["[project]", "name = " ++ Toml.written s.name, "language = \"" ++ s.language.name ++ "\"", ""] ++
    exampleLines s.language

/-- The text of a starter manifest. -/
def render (s : Starter) : String := String.join (s.lines.map (· ++ "\n"))

/-- Where the starter manifest of a project in a directory is. -/
def path (directory : String) : String := Path.join directory "rebar.toml"

/-- Writes a starter manifest into a directory. -/
def write (s : Starter) (overwrite : Overwrite) (directory : String) : Filing WriteResult :=
  Filing.writeOutput overwrite (path directory) s.render

end Starter
end BuilderGen
