import BuilderGen.Json

/-!
# BuilderGen.Record

**Record descriptors**: what a builder is generated from. A record has a name in
a package, an ordered list of components, and the constructor its builder calls.
-/

namespace BuilderGen

/-- A component of a record: its name and its declared type, as text. -/
structure Component where
  name : String
  type : String
  deriving DecidableEq, Repr

/-- How a builder makes a record from the values of its components. -/
inductive Constructor
  /-- By naming every component. -/
  | literal
  /-- By calling a function of the record with the values in order. `returns` is
  its declared return type; without one it returns the record. -/
  | function (name : String) (returns : Option String)
  deriving DecidableEq, Repr

/-- A record a builder is generated for. -/
structure Record where
  package : String
  name : String
  components : List Component
  constructor : Constructor := .literal
  deriving DecidableEq, Repr

namespace Component

/-- The component as JSON. -/
def toJson (c : Component) : Json :=
  .object [("name", .text c.name), ("type", .text c.type)]

end Component

namespace Constructor

/-- The constructor as JSON. -/
def toJson : Constructor → Json
  | literal => .object [("kind", .text "literal")]
  | function name returns =>
    .object [("kind", .text "function"), ("name", .text name), ("returns", .ofText? returns)]

end Constructor

namespace Record

/-- The name of the record's builder. -/
def builderName (r : Record) : String := r.name ++ "Builder"

/-- The name of the record after its package, if it has one. -/
def qualifiedName (r : Record) (separator : String) : String :=
  if r.package.isEmpty then r.name else r.package ++ separator ++ r.name

/-- The record as JSON. -/
def toJson (r : Record) : Json :=
  .object [
    ("package", .text r.package),
    ("name", .text r.name),
    ("components", .list (r.components.map Component.toJson)),
    ("constructor", r.constructor.toJson)]

end Record
end BuilderGen
