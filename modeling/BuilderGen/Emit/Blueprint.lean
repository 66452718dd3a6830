import BuilderGen.Emit.Naming
import BuilderGen.Record

/-!
# BuilderGen.Emit.Blueprint

The **blueprint of a builder**, before it is written in a language: the slots that
hold component values, the setters that fill them, and what `build` makes of
them.

Design points:

* Slots, setters and the arguments of `build` are listed separately, as they are
  in the source text. That they belong together, position by position, is a fact
  about `Blueprint.ofRecord` and not built into the type.
* The setters of a blueprint can be *run* (`Blueprint.run`): each call stores its
  argument in the slot that the setter names.
-/

namespace BuilderGen

/-- A field of a builder, which holds the value of one component. -/
structure Slot where
  name : String
  type : String
  deriving DecidableEq, Repr

/-- A method that stores its parameter in a slot and returns the builder. -/
structure Setter where
  name : String
  parameter : String
  type : String
  slot : String
  deriving DecidableEq, Repr

/-- How `build` makes the record. -/
inductive Construction
  /-- `new` with the slots in order. -/
  | positional (arguments : List String)
  /-- A literal that gives every field the value of a slot. -/
  | named (fields : List (String × String))
  /-- A function of the record, called with the slots in order. -/
  | call (function returns : String) (arguments : List String)
  deriving DecidableEq, Repr

/-- A builder, independent of the syntax it is written in. -/
structure Blueprint where
  builder : String
  record : String
  slots : List Slot
  setters : List Setter
  construction : Construction
  deriving DecidableEq, Repr

namespace Blueprint

/-- The slot of a component. -/
def slotOf (language : Language) (c : Component) : Slot :=
  { name := language.fieldName c.name, type := c.type }

/-- The setter of a component. Its parameter has the name of the slot. -/
def setterOf (language : Language) (c : Component) : Setter :=
  { name := language.setterName c.name
    parameter := language.fieldName c.name
    type := c.type
    slot := language.fieldName c.name }

/-- How the builder of a record makes it. Classes always call the canonical
constructor; structs call the declared function, or are written as a literal. -/
def constructionOf (language : Language) (r : Record) : Construction :=
  let fields := r.components.map fun c => language.fieldName c.name
  match language, r.constructor with
  | .java, _ => .positional fields
  | .rust, .literal => .named (fields.map fun f => (f, f))
  | .rust, .function name returns => .call name (returns.getD r.name) fields

/-- The builder of a record. -/
def ofRecord (language : Language) (r : Record) : Blueprint :=
  { builder := r.builderName
    record := r.name
    slots := r.components.map (slotOf language)
    setters := r.components.map (setterOf language)
    construction := constructionOf language r }

/-! ### Running a blueprint

Values are of any type `α`; `none` stands for a slot that nothing was stored in. -/

/-- What the slots of a builder hold. -/
abbrev Slots (α : Type) := List (String × α)

/-- Stores a value in a slot. -/
def Slots.store {α : Type} (slots : Slots α) (name : String) (value : α) : Slots α :=
  (name, value) :: slots

/-- The value of a slot, if something was stored in it. -/
def Slots.value? {α : Type} (slots : Slots α) (name : String) : Option α :=
  slots.lookup name

/-- A call of the setter at a position with a value. A position behind the last
setter names none. -/
def call {α : Type} (b : Blueprint) (slots : Slots α) (position : Nat) (value : α) : Slots α :=
  match b.setters[position]? with
  | some setter => slots.store setter.slot value
  | none => slots

/-- The slots after a sequence of calls. -/
def run {α : Type} (b : Blueprint) (calls : List (Nat × α)) : Slots α :=
  calls.foldl (fun slots c => b.call slots c.1 c.2) []

/-- The slots `build` reads, in order. -/
def arguments (b : Blueprint) : List String :=
  match b.construction with
  | .positional arguments => arguments
  | .named fields => fields.map Prod.snd
  | .call _ _ arguments => arguments

end Blueprint
end BuilderGen
