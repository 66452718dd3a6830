import BuilderGen.Language
import BuilderGen.Text.Casing

/-!
# BuilderGen.Emit.Naming

The **names inside generated builders**: the file of a builder, the fields that
hold component values, and the setters. A component keeps its name as a field,
unless the name is reserved; then it is escaped the way its language allows.
Setter names carry a leading word, so they are never reserved.
-/

namespace BuilderGen.Language

/-- The name of a builder's file without its extension. -/
def fileStem : Language → String → String
  | java, record => record ++ "Builder"
  | rust, record => Text.snakeCase record ++ "_builder"

/-- The name of a builder's file. -/
def fileName (language : Language) (record extension : String) : String :=
  language.fileStem record ++ "." ++ extension

/-- The way out for a reserved word: a raw name, or, where the language has none,
a name with an underscore behind it. -/
def escape : Language → String → String
  | java, name => name ++ "_"
  | rust, name => "r#" ++ name

/-- `name`, escaped if it is reserved. -/
def safeName (language : Language) (name : String) : String :=
  if language.isReserved name then language.escape name else name

/-- The field, and the parameter, for a component. -/
def fieldName (language : Language) (component : String) : String :=
  language.safeName component

/-- The setter for a component. -/
def setterName : Language → String → String
  | java, component => "with" ++ Text.capitalize component
  | rust, component => "with_" ++ component

theorem safeName_of_not_reserved {language : Language} {name : String}
    (h : language.isReserved name = false) : language.safeName name = name := by
  simp [safeName, h]

theorem safeName_of_reserved {language : Language} {name : String}
    (h : language.isReserved name = true) : language.safeName name = language.escape name := by
  simp [safeName, h]

end BuilderGen.Language
