import BuilderGen.Emit.Blueprint
import BuilderGen.Layout
import BuilderGen.Marker
import BuilderGen.Stamp
import BuilderGen.Text.Segments

/-!
# BuilderGen.Emit.ClassUnit

**Class units**: source files of classes with fields and methods, and the builder
class of a record.

The syntax is only as rich as builders need. Types and body lines are text; a
method without return type is a constructor of its class. Each node turns into
fragments, and `render` lays them out.
-/

namespace BuilderGen.ClassUnit

/-- Who may use a member. -/
inductive Visibility
  | «public»
  | «private»
  /-- No modifier: everyone in the package. -/
  | package
  deriving DecidableEq, Repr

/-- The modifier and the blank behind it, if there is one. -/
def Visibility.modifier : Visibility → String
  | .public => "public "
  | .private => "private "
  | .package => ""

/-- A parameter of a method. -/
structure Parameter where
  name : String
  type : String
  deriving DecidableEq, Repr

/-- A field, left at the default value of its type. -/
structure Field where
  name : String
  type : String
  visibility : Visibility := .private
  deriving DecidableEq, Repr

/-- A method, or a constructor if it has no return type. -/
structure Method where
  name : String
  doc : List String := []
  visibility : Visibility := .public
  isStatic : Bool := false
  returns : Option String := none
  parameters : List Parameter := []
  body : List String := []
  deriving DecidableEq, Repr

/-- A class. -/
structure Class where
  name : String
  doc : List String := []
  visibility : Visibility := .public
  fields : List Field := []
  methods : List Method := []
  deriving DecidableEq, Repr

/-- A source file: an optional package and classes. -/
structure File where
  package : Option String := none
  classes : List Class := []
  deriving DecidableEq, Repr

/-! ### Fragments -/

/-- A parameter as it is declared. -/
def Parameter.declaration (p : Parameter) : String := p.type ++ " " ++ p.name

/-- A field as it is declared. -/
def Field.declaration (f : Field) : String :=
  f.visibility.modifier ++ f.type ++ " " ++ f.name ++ ";"

/-- Whether the method is a constructor. -/
def Method.isConstructor (m : Method) : Bool := m.returns.isNone

/-- The line that opens a method. A constructor is never static. -/
def Method.signature (m : Method) : String :=
  let parameters := Text.joinWith ", " (m.parameters.map Parameter.declaration)
  match m.returns with
  | some type =>
    m.visibility.modifier ++ (if m.isStatic then "static " else "") ++ type ++ " " ++ m.name ++
      "(" ++ parameters ++ ") \x7b"
  | none => m.visibility.modifier ++ m.name ++ "(" ++ parameters ++ ") \x7b"

/-- A documentation block, left out when it has no line. -/
def docFragments (doc : List String) : List Fragment :=
  if doc.isEmpty then [] else [.blockDoc doc]

/-- A method as fragments. -/
def Method.fragments (m : Method) : List Fragment :=
  docFragments m.doc ++ [.braced m.signature (m.body.map .line)]

/-- Methods, each after an empty line unless `first` holds, that is, unless
nothing stands before it. -/
def methodFragments (first : Bool) : List Method → List Fragment
  | [] => []
  | m :: ms => (if first then [] else [.blank]) ++ m.fragments ++ methodFragments false ms

/-- The inside of a class: its fields, then its methods. -/
def Class.body (c : Class) : List Fragment :=
  c.fields.map (fun f => .line f.declaration) ++ methodFragments c.fields.isEmpty c.methods

/-- A class as fragments. -/
def Class.fragments (c : Class) : List Fragment :=
  docFragments c.doc ++ [.braced (c.visibility.modifier ++ "class " ++ c.name ++ " \x7b") c.body]

/-- The file in a package; an empty name stands for no package. -/
def File.inPackage (f : File) (package : String) : File :=
  { f with package := if package.isEmpty then none else some package }

/-- A file as fragments: the marker, the package and the classes, each after an
empty line. -/
def File.fragments (f : File) : List Fragment :=
  let package : List Fragment :=
    match f.package with
    | some package => [.blank, .line ("package " ++ package ++ ";")]
    | none => []
  .line ("// " ++ marker) :: package ++ f.classes.flatMap fun c => .blank :: c.fragments

/-- The text of a method on its own. -/
def Method.render (m : Method) : String := Fragment.render m.fragments

/-- The text of a class on its own. -/
def Class.render (c : Class) : String := Fragment.render c.fragments

/-- The text of a file. -/
def File.render (f : File) : String := Fragment.render f.fragments

/-! ### Builder classes -/

/-- The private constructor, which only says that it is not to be called. -/
def hiddenConstructor (builder : String) : Method :=
  { name := builder
    visibility := .private
    body := ["// Instances of this class should be created with the static method 'builder()', " ++
      "not the constructor"] }

/-- The static factory. -/
def factory (builder : String) : Method :=
  { name := "builder"
    isStatic := true
    returns := some builder
    body := ["return new " ++ builder ++ "();"] }

/-- The method that makes the record from the fields. -/
def buildMethod (b : Blueprint) : Method :=
  { name := "build"
    returns := some b.record
    body := ["return new " ++ b.record ++ "(" ++ Text.joinWith ", " b.arguments ++ ");"] }

/-- The method of a setter. -/
def setterMethod (builder : String) (s : Setter) : Method :=
  { name := s.name
    returns := some builder
    parameters := [{ name := s.parameter, type := s.type }]
    body := ["this." ++ s.slot ++ " = " ++ s.parameter ++ ";", "return this;"] }

/-- The documentation of a builder class. -/
def builderDoc (r : Record) (stamp : Stamp) : List String :=
  ["This class is an implementation of the builder pattern for the record " ++
      r.qualifiedName "." ++ ".",
    "It was automatically generated on " ++ stamp.timestamp ++ " in timezone " ++ stamp.zone ++ "."]

/-- The builder class of a record. -/
def builderClass (r : Record) (stamp : Stamp) : Class :=
  let b := Blueprint.ofRecord .java r
  { name := b.builder
    doc := builderDoc r stamp
    fields := b.slots.map fun s => { name := s.name, type := s.type }
    methods := [hiddenConstructor b.builder, factory b.builder, buildMethod b] ++
      b.setters.map (setterMethod b.builder) }

/-- The file of a record's builder class. -/
def builderFile (r : Record) (stamp : Stamp) : File :=
  { classes := [builderClass r stamp] : File }.inPackage r.package

end BuilderGen.ClassUnit
