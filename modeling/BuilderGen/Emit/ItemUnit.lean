import BuilderGen.Emit.Blueprint
import BuilderGen.Layout
import BuilderGen.Marker
import BuilderGen.Stamp
import BuilderGen.Text.Segments

/-!
# BuilderGen.Emit.ItemUnit

**Item units**: source files of structs, their inherent implementations and
functions, and the builder items of a record.

Only comments stand before the first item, so that the file can be included into
the module that declares the record. Types and body lines are text.
-/

namespace BuilderGen.ItemUnit

/-- A parameter of a function. -/
inductive Parameter
  /-- The value the method is called on, as it is written: `&self`, `&mut self` or `self`. -/
  | receiver (text : String)
  | typed (name type : String)
  deriving DecidableEq, Repr

/-- A public function or method. -/
structure Function where
  name : String
  doc : Option String := none
  parameters : List Parameter := []
  returns : Option String := none
  body : List String := []
  deriving DecidableEq, Repr

/-- A private field of a struct. -/
structure Field where
  name : String
  type : String
  deriving DecidableEq, Repr

/-- A public struct with named fields. -/
structure Struct where
  name : String
  doc : Option String := none
  derives : List String := []
  fields : List Field := []
  deriving DecidableEq, Repr

/-- The inherent implementation of a type. -/
structure Implementation where
  type : String
  methods : List Function := []
  deriving DecidableEq, Repr

/-- What a file holds. -/
inductive Item
  | function (function : Function)
  | struct (struct : Struct)
  | implementation (implementation : Implementation)
  deriving DecidableEq, Repr

/-- A source file: the module it belongs to, unless that is the root, and items. -/
structure File where
  module : Option String := none
  items : List Item := []
  deriving DecidableEq, Repr

/-! ### Fragments -/

/-- A parameter as it is declared. -/
def Parameter.declaration : Parameter → String
  | receiver text => text
  | typed name type => name ++ ": " ++ type

/-- The line that opens a function. -/
def Function.signature (f : Function) : String :=
  let returns :=
    match f.returns with
    | some type => " -> " ++ type
    | none => ""
  "pub fn " ++ f.name ++ "(" ++ Text.joinWith ", " (f.parameters.map Parameter.declaration) ++ ")" ++
    returns ++ " \x7b"

/-- A documentation comment, if there is one. -/
def docFragments : Option String → List Fragment
  | some doc => [.lineDoc doc]
  | none => []

/-- A function as fragments. -/
def Function.fragments (f : Function) : List Fragment :=
  docFragments f.doc ++ [.braced f.signature (f.body.map .line)]

/-- A field as it is declared. -/
def Field.declaration (f : Field) : String := f.name ++ ": " ++ f.type ++ ","

/-- A struct as fragments. A struct without fields stays on one line. -/
def Struct.fragments (s : Struct) : List Fragment :=
  let derives : List Fragment :=
    if s.derives.isEmpty then []
    else [.line ("#[derive(" ++ Text.joinWith ", " s.derives ++ ")]")]
  let item : Fragment :=
    if s.fields.isEmpty then .line ("pub struct " ++ s.name ++ " \x7b\x7d")
    else .braced ("pub struct " ++ s.name ++ " \x7b") (s.fields.map fun f => .line f.declaration)
  docFragments s.doc ++ derives ++ [item]

/-- Methods, each after an empty line unless `first` holds, that is, unless
nothing stands before it. -/
def methodFragments (first : Bool) : List Function → List Fragment
  | [] => []
  | f :: fs => (if first then [] else [.blank]) ++ f.fragments ++ methodFragments false fs

/-- An implementation as fragments. -/
def Implementation.fragments (i : Implementation) : List Fragment :=
  [.braced ("impl " ++ i.type ++ " \x7b") (methodFragments true i.methods)]

/-- An item as fragments. -/
def Item.fragments : Item → List Fragment
  | function f => f.fragments
  | struct s => s.fragments
  | implementation i => i.fragments

/-- The file as part of a module; an empty name stands for the root. -/
def File.inModule (f : File) (module : String) : File :=
  { f with module := if module.isEmpty then none else some module }

/-- A file as fragments: the marker, a note of the module, and the items, each
after an empty line. -/
def File.fragments (f : File) : List Fragment :=
  let note : List Fragment :=
    match f.module with
    | some module => [.line ("// Module: " ++ module)]
    | none => []
  .line ("// " ++ marker) :: note ++ f.items.flatMap fun i => .blank :: i.fragments

/-- The text of an item on its own. -/
def Item.render (i : Item) : String := Fragment.render i.fragments

/-- The text of a file. -/
def File.render (f : File) : String := Fragment.render f.fragments

/-! ### Builder items -/

/-- The documentation of a builder struct. -/
def builderDoc (r : Record) (stamp : Stamp) : String :=
  "Builder for [\x60" ++ r.name ++ "\x60].\n\nGenerated on " ++ stamp.timestamp ++ " in timezone " ++
    stamp.zone ++ "."

/-- The struct that holds the values. -/
def builderStruct (r : Record) (stamp : Stamp) (b : Blueprint) : Struct :=
  { name := b.builder
    doc := some (builderDoc r stamp)
    derives := ["Clone", "Default"]
    fields := b.slots.map fun s => { name := s.name, type := s.type } }

/-- The function that returns an empty builder. -/
def factory : Function :=
  { name := "builder"
    doc := some "Returns a builder with every field at its default value."
    returns := some "Self"
    body := ["Self::default()"] }

/-- A copy of what a slot holds. -/
def copied (slot : String) : String := "self." ++ slot ++ ".clone()"

/-- What `build` returns and the lines it consists of. -/
def construction (b : Blueprint) : String × List String :=
  match b.construction with
  | .positional arguments =>
    (b.record, [b.record ++ "(" ++ Text.joinWith ", " (arguments.map copied) ++ ")"])
  | .named [] => (b.record, [b.record ++ " \x7b\x7d"])
  | .named fields =>
    (b.record, (b.record ++ " \x7b") ::
      fields.map (fun f => "    " ++ f.1 ++ ": " ++ copied f.2 ++ ",") ++ ["\x7d"])
  | .call function returns arguments =>
    (returns,
      [b.record ++ "::" ++ function ++ "(" ++ Text.joinWith ", " (arguments.map copied) ++ ")"])

/-- The method that makes the record from copies of the values. -/
def buildFunction (b : Blueprint) : Function :=
  { name := "build"
    doc := some "Calls the constructor with the current field values."
    parameters := [.receiver "&self"]
    returns := some (construction b).1
    body := (construction b).2 }

/-- The method of a setter. -/
def setterFunction (s : Setter) : Function :=
  { name := s.name
    parameters := [.receiver "&mut self", .typed s.parameter s.type]
    returns := some "&mut Self"
    body := ["self." ++ s.slot ++ " = " ++ s.parameter ++ ";", "self"] }

/-- The implementation of the builder struct. -/
def builderImplementation (b : Blueprint) : Implementation :=
  { type := b.builder
    methods := [factory, buildFunction b] ++ b.setters.map setterFunction }

/-- The file of a record's builder struct. -/
def builderFile (r : Record) (stamp : Stamp) : File :=
  let b := Blueprint.ofRecord .rust r
  { items := [.struct (builderStruct r stamp b), .implementation (builderImplementation b)] :
      File }.inModule r.package

end BuilderGen.ItemUnit
