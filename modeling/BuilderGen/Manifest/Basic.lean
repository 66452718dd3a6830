import BuilderGen.Json
import BuilderGen.Language

/-!
# BuilderGen.Manifest.Basic

**Manifests**: what a project declares. A manifest names the project and its
target language and declares types in order; builders are generated for the
records among them that are marked.
-/

namespace BuilderGen

/-- The kinds of declared types. -/
inductive TypeKind
  | record
  | «class»
  | enum
  | interface
  deriving DecidableEq, Repr

/-- The name of a kind. -/
def TypeKind.name : TypeKind → String
  | .record => "record"
  | .class => "class"
  | .enum => "enum"
  | .interface => "interface"

/-- A declared component: its name and the text of its type. -/
structure ComponentDecl where
  name : String
  type : String
  deriving DecidableEq, Repr

/-- A declared constructor: the function to call, and its return type if it does
not return the record. -/
structure ConstructorDecl where
  name : String
  returns : Option String := none
  deriving DecidableEq, Repr

/-- A declared type. -/
structure TypeDecl where
  kind : TypeKind := .record
  package : String := ""
  /-- Whether the type is marked for a builder. -/
  builder : Bool := false
  components : List ComponentDecl := []
  constructor : Option ConstructorDecl := none
  deriving DecidableEq, Repr

/-- A project. -/
structure Project where
  name : String
  language : Language := .java
  description : Option String := none
  deriving DecidableEq, Repr

/-- A manifest: a project and its types, in the order they are declared. -/
structure Manifest where
  project : Project
  types : List (String × TypeDecl) := []
  deriving DecidableEq, Repr

namespace TypeDecl

/-- Whether a builder is generated for the type: it is marked and a record. -/
def wantsBuilder (decl : TypeDecl) : Bool := decl.builder && decl.kind == .record

end TypeDecl

namespace Manifest

/-- The declaration of a type. -/
def type? (m : Manifest) (name : String) : Option TypeDecl := m.types.lookup name

/-- The types that are marked for a builder. -/
def marked (m : Manifest) : List (String × TypeDecl) := m.types.filter fun t => t.2.builder

/-- The records that are marked for a builder. -/
def buildable (m : Manifest) : List (String × TypeDecl) :=
  m.types.filter fun t => t.2.wantsBuilder

/-- The manifest for another target language. -/
def withLanguage (m : Manifest) (language : Option Language) : Manifest :=
  match language with
  | some language => { m with project := { m.project with language } }
  | none => m

/-- A record is buildable just if it is marked. -/
theorem buildable_eq_filter (m : Manifest) :
    m.buildable = m.types.filter fun t => t.2.builder = true ∧ t.2.kind = .record := by
  refine List.filter_congr fun t _ => Bool.eq_iff_iff.mpr ?_
  simp [TypeDecl.wantsBuilder]

end Manifest

/-! ### As JSON -/

/-- A component as JSON. -/
def ComponentDecl.toJson (c : ComponentDecl) : Json :=
  .object [("name", .text c.name), ("type", .text c.type)]

/-- A constructor as JSON; a missing return type is left out. -/
def ConstructorDecl.toJson (c : ConstructorDecl) : Json :=
  .object (("name", .text c.name) :: Json.member? "returns" (c.returns.map .text))

/-- A type as JSON; a missing constructor is left out. -/
def TypeDecl.toJson (d : TypeDecl) : Json :=
  .object ([("kind", .text d.kind.name), ("package", .text d.package), ("builder", .boolean d.builder),
    ("components", .list (d.components.map ComponentDecl.toJson))] ++
    Json.member? "constructor" (d.constructor.map ConstructorDecl.toJson))

/-- A project as JSON; a missing description is left out. -/
def Project.toJson (p : Project) : Json :=
  .object ([("name", .text p.name), ("language", .text p.language.name)] ++
    Json.member? "description" (p.description.map .text))

end BuilderGen
