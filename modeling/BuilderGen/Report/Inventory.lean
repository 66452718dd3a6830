import BuilderGen.Manifest.Basic
import BuilderGen.Report.Basic

/-!
# BuilderGen.Report.Inventory

The **inventory** of a manifest: the types it declares with their components, in
order, for reading and as JSON.
-/

namespace BuilderGen

/-- A type in an inventory. -/
structure InventoryItem where
  name : String
  decl : TypeDecl
  deriving DecidableEq, Repr

/-- What a manifest declares. -/
structure Inventory where
  project : String
  language : Language
  items : List InventoryItem
  deriving DecidableEq, Repr

/-- The inventory of a manifest. -/
def Manifest.inventory (m : Manifest) : Inventory where
  project := m.project.name
  language := m.project.language
  items := m.types.map fun (name, decl) => { name, decl }

/-- A constructor in words. -/
def ConstructorDecl.signature (c : ConstructorDecl) : String :=
  match c.returns with
  | some returns => c.name ++ " -> " ++ returns
  | none => c.name

namespace InventoryItem

/-- The name of the type after its package. -/
def qualifiedName (i : InventoryItem) : String :=
  if i.decl.package.isEmpty then i.name else i.decl.package ++ "." ++ i.name

/-- The type in one line. -/
def headline (i : InventoryItem) : String :=
  i.qualifiedName ++ " (" ++ i.decl.kind.name ++ (if i.decl.builder then ", builder" else "") ++ ")"

/-- The type and its parts, line by line. -/
def report (i : InventoryItem) : Report :=
  [.item i.headline] ++
    i.decl.components.map (fun c => ReportLine.item ("  " ++ c.name ++ ": " ++ c.type)) ++
    i.decl.constructor.toList.map fun c => ReportLine.item ("  constructor: " ++ c.signature)

/-- The type as JSON; an empty package and a missing constructor are left out. -/
def toJson (i : InventoryItem) : Json :=
  .object ([("name", .text i.name), ("kind", .text i.decl.kind.name)] ++
    (if i.decl.package.isEmpty then [] else [("package", .text i.decl.package)]) ++
    [("builder", .boolean i.decl.builder),
      ("components", .list (i.decl.components.map ComponentDecl.toJson))] ++
    Json.member? "constructor" (i.decl.constructor.map fun c => .text c.signature))

end InventoryItem

namespace Inventory

/-- The inventory for reading. -/
def report (i : Inventory) : Report :=
  if i.items.isEmpty then [.line "No types declared"]
  else
    .heading ("Types (" ++ toString i.items.length ++ ")") :: i.items.flatMap InventoryItem.report

/-- The inventory as JSON. -/
def toJson (i : Inventory) : Json :=
  .object [("project", .text i.project), ("language", .text i.language.name),
    ("types", .list (i.items.map InventoryItem.toJson))]

end Inventory
end BuilderGen
