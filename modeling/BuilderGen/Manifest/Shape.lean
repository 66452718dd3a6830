import BuilderGen.Manifest.Basic
import BuilderGen.Text.Quoted
import BuilderGen.Toml.Usable

/-!
# BuilderGen.Manifest.Shape

The **shape of a manifest**: which values a document must have at which keys to be
one, and the manifest it then is.

Values are looked at in document order and the first fault is reported; that a
key is missing is noticed at the end of its table. Besides the usual form, a
structure may be given as a list of its fields in order, where trailing fields
with a default may be left off and further items are not looked at, and a name out
of a fixed set as a table with that name as its only key. Numbers that cannot be
used are at fault wherever they are looked at, also under keys that mean nothing.
-/

namespace BuilderGen

/-- Why a document has not the shape of a manifest. -/
inductive ShapeFault
  | missingField (field : String)
  | unknownField (field : String) (expected : List String)
  | unknownVariant (variant : String) (expected : List String)
  /-- A value of the wrong kind; both sides are said in words. -/
  | invalidType (found expected : String)
  /-- A list that ends before its required fields do. -/
  | invalidLength (length : Nat) (expected : String)
  /-- A table in place of a name that has no key, or more than one. -/
  | notOneKey (isEmpty : Bool)
  /-- A value in place of a name that is neither text nor table. -/
  | neitherTextNorTable
  /-- The value beside a name in a table is not empty. -/
  | nonemptyContent (container : String)
  /-- The value beside a name in a table is no table. -/
  | noTable (found : String)
  /-- An integer that does not fit, or is illegible. -/
  | integerOverflow
  /-- A decimal that does not fit. -/
  | decimalOverflow
  deriving DecidableEq, Repr

namespace ShapeFault

/-- A name between backticks. -/
def ticked (name : String) : String := "`" ++ name ++ "`"

/-- The names of which one was expected. -/
def oneOf : List String → String
  | [a] => ticked a
  | [a, b] => ticked a ++ " or " ++ ticked b
  | names => "one of " ++ ", ".intercalate (names.map ticked)

/-- What is said about a fault. -/
def message : ShapeFault → String
  | missingField field => "missing field " ++ ticked field
  | unknownField field expected => "unknown field " ++ ticked field ++ ", expected " ++ oneOf expected
  | unknownVariant variant expected =>
    "unknown variant " ++ ticked variant ++ ", expected " ++ oneOf expected
  | invalidType found expected => "invalid type: " ++ found ++ ", expected " ++ expected
  | invalidLength length expected =>
    "invalid length " ++ toString length ++ ", expected " ++ expected
  | notOneKey true => "wanted exactly 1 element, found 0 elements"
  | notOneKey false => "wanted exactly 1 element, more than 1 element"
  | neitherTextNorTable => "wanted string or table"
  | nonemptyContent container => "expected empty " ++ container
  | noTable found => "expected table, found " ++ found
  | integerOverflow => "integer number overflowed"
  | decimalOverflow => "floating-point number overflowed"

end ShapeFault

namespace Shape

open Toml (Value Entries momentKey)

/-- A value, or the first fault. -/
abbrev Result := Except ShapeFault

/-- A value in words, as one that was not expected. -/
def inWords : Value → String
  | .text value => "string " ++ Text.quoted value
  | .integer n => "integer `" ++ toString n ++ "`"
  | .illegible => "integer"
  | .decimal d => "floating point `" ++ (Binary64.ofDecimal d).text ++ "`"
  | .boolean b => "boolean `" ++ (if b then "true" else "false") ++ "`"
  | .list _ | .tables _ => "sequence"
  | .moment _ | .table _ _ => "map"

/-- The kind of a value. -/
def kindName : Value → String
  | .text _ => "string"
  | .integer _ | .illegible => "integer"
  | .decimal _ => "float"
  | .boolean _ => "boolean"
  | .moment _ => "datetime"
  | .list _ | .tables _ => "array"
  | .table _ _ => "table"

/-- The fault of a number that cannot be used. Integers may have up to 128 bits
where they are only passed over. -/
def legible : Value → Result Unit
  | .illegible => .error .integerOverflow
  | .integer n => if Toml.isDoubleWord n then .ok () else .error .integerOverflow
  | .decimal d => if Toml.isUsableDecimal d then .ok () else .error .decimalOverflow
  | _ => .ok ()

mutual

/-- A value that means nothing: only its numbers are looked at. -/
def ignored : Value → Result Unit
  | .list items => ignoredItems items
  | .tables items => ignoredTables items
  | .table _ entries => ignoredEntries entries
  | value => legible value

/-- The items of a list that mean nothing. -/
def ignoredItems : List Value → Result Unit
  | [] => .ok ()
  | item :: rest => do ignored item; ignoredItems rest

/-- The tables of a list that mean nothing. -/
def ignoredTables : List Entries → Result Unit
  | [] => .ok ()
  | entries :: rest => do ignoredEntries entries; ignoredTables rest

/-- The entries of a table that mean nothing. -/
def ignoredEntries : Entries → Result Unit
  | [] => .ok ()
  | (_, value) :: rest => do ignored value; ignoredEntries rest

end

/-- The fault of a value that is not what was expected. -/
def unexpected {α : Type} (value : Value) (expected : String) : Result α := do
  legible value
  .error (.invalidType (inWords value) expected)

/-- A text. -/
def text : Value → Result String
  | .text value => .ok value
  | value => unexpected value "a string"

/-- A truth value. -/
def boolean : Value → Result Bool
  | .boolean b => .ok b
  | value => unexpected value "a boolean"

/-- The items of a list. -/
def items : Value → Result (List Value)
  | .list items => .ok items
  | .tables items => .ok (items.map (.table .header))
  | value => unexpected value "a sequence"

/-- The entries of a table. A date or time counts as a table with one entry. -/
def entries : Value → Result Entries
  | .table _ entries => .ok entries
  | .moment value => .ok [(momentKey, .text value)]
  | value => unexpected value "a map"

/-- A name out of a fixed set. -/
def variant {α : Type} (variants : List (String × α)) (name : String) : Result α :=
  match variants.lookup name with
  | some value => .ok value
  | none => .error (.unknownVariant name (variants.map Prod.fst))

/-- The value beside a name in a table, which has to be empty. -/
def emptyContent : Value → Result Unit
  | .list [] | .table _ [] => .ok ()
  | .list _ | .tables _ => .error (.nonemptyContent "array")
  | .table _ _ => .error (.nonemptyContent "table")
  | value => .error (.noTable (kindName value))

/-- A choice out of a fixed set of names. -/
def choice {α : Type} (variants : List (String × α)) : Value → Result α
  | .text name => variant variants name
  | .table _ [] => .error (.notOneKey true)
  | .table _ [(name, content)] => do
    let value ← variant variants name
    emptyContent content
    return value
  | .table _ _ => .error (.notOneKey false)
  | _ => .error .neitherTextNorTable

/-! ### Structures

A structure is described by its name and its fields. Its draft holds what has been
read; `set` reads the value of a field into it. -/

/-- How a structure is read, field by field, into a draft. -/
structure Fields (δ : Type) where
  /-- The structure in words. -/
  name : String
  /-- The fields in order, and whether each one may be left off. -/
  fields : List (String × Bool)
  /-- The draft before anything is read. -/
  start : δ
  /-- Reads the value of one of the fields. -/
  set : δ → String → Value → Result δ
  /-- The fields that the draft lacks. -/
  has : δ → String → Bool

/-- Reads the entries of a table; then no required field may be missing. -/
def Fields.ofEntries {δ : Type} (f : Fields δ) (entries : Entries) : Result δ := do
  let draft ← entries.foldlM (fun draft (key, value) =>
    if (f.fields.map Prod.fst).contains key then f.set draft key value
    else .error (.unknownField key (f.fields.map Prod.fst))) f.start
  match f.fields.find? fun field => !field.2 && !f.has draft field.1 with
  | some (field, _) => .error (.missingField field)
  | none => return draft

/-- Reads the fields in order from a list; `position` of them have been read. -/
def Fields.ofItems {δ : Type} (f : Fields δ) (position : Nat) (draft : δ) :
    List (String × Bool) → List Value → Result δ
  | [], _ => .ok draft
  | (field, _) :: fields, value :: values => do
    let draft ← f.set draft field value
    f.ofItems (position + 1) draft fields values
  | (_, true) :: fields, [] => f.ofItems (position + 1) draft fields []
  | (_, false) :: _, [] =>
    .error (.invalidLength position
      (f.name ++ " with " ++ toString f.fields.length ++ " elements"))

/-- Reads a structure. -/
def Fields.read {δ : Type} (f : Fields δ) : Value → Result δ
  | .table _ entries => f.ofEntries entries
  | .moment value => f.ofEntries [(momentKey, .text value)]
  | .list items => f.ofItems 0 f.start f.fields items
  | .tables items => f.ofItems 0 f.start f.fields (items.map (.table .header))
  | value => unexpected value f.name

/-! ### The parts of a manifest -/

/-- The names of the target languages. -/
def languages : List (String × Language) := Language.all.map fun l => (l.name, l)

/-- The names of the kinds of types. -/
def kinds : List (String × TypeKind) :=
  [TypeKind.record, .class, .enum, .interface].map fun k => (k.name, k)

/-- What has been read of a structure with a required name. -/
structure Named (α : Type) where
  name : Option String := none
  rest : α

/-- How a project is read. -/
def projectFields : Fields (Named Project) where
  name := "struct ProjectConfig"
  fields := [("name", false), ("language", true), ("description", true)]
  start := { rest := { name := "" } }
  set draft field value :=
    match field with
    | "name" => do return { draft with name := some (← text value) }
    | "language" => do
      let language ← choice languages value
      return { draft with rest := { draft.rest with language } }
    | _ => do
      let description ← text value
      return { draft with rest := { draft.rest with description := some description } }
  has draft _ := draft.name.isSome

/-- A project. -/
def project (value : Value) : Result Project := do
  let draft ← projectFields.read value
  return { draft.rest with name := draft.name.getD "" }

/-- What has been read of a component. -/
structure ComponentDraft where
  name : Option String := none
  type : Option String := none

/-- How a component is read. -/
def componentFields : Fields ComponentDraft where
  name := "struct ComponentDecl"
  fields := [("name", false), ("type", false)]
  start := {}
  set draft field value :=
    match field with
    | "name" => do return { draft with name := some (← text value) }
    | _ => do return { draft with type := some (← text value) }
  has draft field := if field = "name" then draft.name.isSome else draft.type.isSome

/-- A component. -/
def component (value : Value) : Result ComponentDecl := do
  let draft ← componentFields.read value
  return { name := draft.name.getD "", type := draft.type.getD "" }

/-- How a constructor is read. -/
def constructorFields : Fields (Named ConstructorDecl) where
  name := "struct ConstructorDecl"
  fields := [("name", false), ("returns", true)]
  start := { rest := { name := "" } }
  set draft field value :=
    match field with
    | "name" => do return { draft with name := some (← text value) }
    | _ => do
      let returns ← text value
      return { draft with rest := { draft.rest with returns := some returns } }
  has draft _ := draft.name.isSome

/-- A constructor. -/
def constructor (value : Value) : Result ConstructorDecl := do
  let draft ← constructorFields.read value
  return { draft.rest with name := draft.name.getD "" }

/-- How a type is read. -/
def typeFields : Fields TypeDecl where
  name := "struct TypeDecl"
  fields := [("kind", true), ("package", true), ("builder", true), ("components", true),
    ("constructor", true)]
  start := {}
  set draft field value :=
    match field with
    | "kind" => do return { draft with kind := ← choice kinds value }
    | "package" => do return { draft with package := ← text value }
    | "builder" => do return { draft with builder := ← boolean value }
    | "components" => do return { draft with components := ← (← items value).mapM component }
    | _ => do return { draft with constructor := some (← constructor value) }
  has _ _ := true

/-- A type. -/
def type (value : Value) : Result TypeDecl := typeFields.read value

/-- The types, in order. -/
def types (value : Value) : Result (List (String × TypeDecl)) := do
  (← entries value).mapM fun (name, value) => do return (name, ← type value)

/-- What has been read of a manifest. -/
structure Draft where
  project : Option Project := none
  types : List (String × TypeDecl) := []

/-- A manifest. Other keys than its own mean nothing. -/
def manifest (root : Entries) : Result Manifest := do
  let draft ← root.foldlM (fun (draft : Draft) (key, value) =>
    match key with
    | "project" => do return { draft with project := some (← project value) }
    | "types" => do return { draft with types := ← types value }
    | _ => do
      ignored value
      return draft) {}
  match draft.project with
  | some project => return { project, types := draft.types }
  | none => .error (.missingField "project")

end Shape
end BuilderGen
