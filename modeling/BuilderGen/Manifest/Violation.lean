import BuilderGen.Manifest.Basic
import BuilderGen.Text.Blank
import BuilderGen.Text.Identifier
import BuilderGen.Text.Segments

/-!
# BuilderGen.Manifest.Violation

The **rules every manifest keeps**, and the first violation of one that does not:

* the project has a name;
* types, components and constructors are named by identifiers, and a package is
  empty or consists of identifiers, in the syntax of the project's language;
* a component has a type, and no two components of a type share a name.

Violations are looked for in declaration order: the project, then type by type its
name, its package, its components one by one, and its constructor.
-/

namespace BuilderGen

/-- A rule that is not kept, and by what. -/
inductive Violation
  /-- The project's name is blank. -/
  | namelessProject
  /-- A type is not named by an identifier. -/
  | typeName (name : String)
  /-- The package of a type does not consist of identifiers. -/
  | package (record package : String)
  /-- A component is not named by an identifier. -/
  | componentName (record name : String)
  /-- The type of a component is blank. -/
  | missingType (record component : String)
  /-- A component has the name of an earlier one. -/
  | duplicateComponent (record name : String)
  /-- A constructor is not named by an identifier. -/
  | constructorName (record name : String)
  deriving DecidableEq, Repr

/-- Whether a package is empty or consists of identifiers. -/
def isPackage (separator package : String) : Bool :=
  package.isEmpty || (Text.segments separator package).all Text.isIdentifier

/-- `violation`, unless `ok` holds. -/
def violationUnless (ok : Bool) (violation : Violation) : Option Violation :=
  if ok then none else some violation

/-- The first violation among components, where `seen` are the names of the ones
before. -/
def componentViolation? (record : String) (seen : List String) :
    List ComponentDecl → Option Violation
  | [] => none
  | c :: rest =>
    violationUnless (Text.isIdentifier c.name) (.componentName record c.name) <|>
    violationUnless (!Text.isBlankText c.type) (.missingType record c.name) <|>
    violationUnless (!seen.contains c.name) (.duplicateComponent record c.name) <|>
    componentViolation? record (c.name :: seen) rest

/-- The first violation of a constructor. -/
def constructorViolation? (record : String) : Option ConstructorDecl → Option Violation
  | some c => violationUnless (Text.isIdentifier c.name) (.constructorName record c.name)
  | none => none

/-- The first violation of a type. -/
def typeViolation? (separator name : String) (decl : TypeDecl) : Option Violation :=
  violationUnless (Text.isIdentifier name) (.typeName name) <|>
  violationUnless (isPackage separator decl.package) (.package name decl.package) <|>
  componentViolation? name [] decl.components <|>
  constructorViolation? name decl.constructor

/-- The first violation of a manifest. -/
def Manifest.violation? (m : Manifest) : Option Violation :=
  violationUnless (!Text.isBlankText m.project.name) .namelessProject <|>
  m.types.findSome? fun (name, decl) => typeViolation? m.project.language.separator name decl

@[simp] theorem violationUnless_true (v : Violation) : violationUnless true v = none := rfl

@[simp] theorem violationUnless_false (v : Violation) : violationUnless false v = some v := rfl

@[simp] theorem violationUnless_eq_none_iff {ok : Bool} {v : Violation} :
    violationUnless ok v = none ↔ ok = true := by
  cases ok <;> simp

@[simp] theorem violationUnless_eq_some_iff {ok : Bool} {v w : Violation} :
    violationUnless ok v = some w ↔ ok = false ∧ v = w := by
  cases ok <;> simp

end BuilderGen
