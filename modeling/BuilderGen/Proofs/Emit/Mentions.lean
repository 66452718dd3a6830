import BuilderGen.Proofs.Emit.ClassReading
import BuilderGen.Proofs.Emit.ItemReading
import BuilderGen.Proofs.Emit.Names

/-!
# BuilderGen.Proofs.Emit.Mentions

**The names in the source of a builder.** A `Mention` is a name that is written in the
source, with what it is the name of. All of them are collected from the declarations and
from the bodies of methods (`ClassUnit.File.mentions?`, `ItemUnit.File.mentions?`), and
they are exactly those that the record calls for (`Record.Mentions`).

Three things keep reserved words out: names that cannot be written are reported by the
lints, components of structs that are reserved are written raw, and setters and builders
have a word of their own in their names. None of the three looks at the function that a
struct may be made by, which is called by the identifier it was declared with.
-/

namespace BuilderGen

open Text (IsIdentifier isIdentifier isIdentifier_iff)

/-- What a name is the name of. -/
inductive Role
  | package
  | record
  | builder
  | field
  | parameter
  | setter
  /-- The function that a record is made by. -/
  | constructor
  deriving DecidableEq, Repr

/-- A name that is written in the source of a builder. -/
structure Mention where
  role : Role
  name : String
  deriving DecidableEq, Repr

/-- The names in the invocation of a constructor. -/
def Invocation.mentions : Invocation String → List Mention
  | create type arguments => ⟨.record, type⟩ :: arguments.map (Mention.mk .field)
  | literal type fields =>
      ⟨.record, type⟩ :: fields.flatMap fun f => [⟨.field, f.1⟩, ⟨.field, f.2⟩]
  | call type function arguments =>
      ⟨.record, type⟩ :: ⟨.constructor, function⟩ :: arguments.map (Mention.mk .field)

/-- The names in the body of a method, and the name of the method, unless it is the same in
every builder. -/
def Member.mentions (method : String) : Member → List Mention
  | hidden => [⟨.builder, method⟩]
  | factory => []
  | maker makes => makes.mentions
  | setter slot => [⟨.setter, method⟩, ⟨.field, slot⟩]

/-- The names in the method of a setter. -/
def Setter.mentions (s : Setter) : List Mention :=
  [⟨.parameter, s.parameter⟩, ⟨.setter, s.name⟩, ⟨.field, s.slot⟩]

namespace ClassUnit

/-- What a method of a class returns. -/
def returnRole : Member → Role
  | .maker _ => .record
  | _ => .builder

/-- The names in a method of a class. -/
def Method.mentions? (builder : String) (m : Method) : Option (List Mention) := do
  let member ← m.member? builder
  return m.returns.toList.map (Mention.mk (returnRole member)) ++
    m.parameters.map (fun p => ⟨.parameter, p.name⟩) ++ member.mentions m.name

/-- The names in a class. -/
def Class.mentions? (c : Class) : Option (List Mention) := do
  let methods ← c.methods.mapM (Method.mentions? c.name)
  return ⟨.builder, c.name⟩ :: c.fields.map (fun f => ⟨.field, f.name⟩) ++ methods.flatten

/-- The names in the declaration of a package. -/
def packageMentions (package : Option String) : List Mention :=
  package.toList.flatMap fun package =>
    (Text.segments Language.java.separator package).map (Mention.mk .package)

/-- The names in a file with one class. -/
def File.mentions? (f : File) : Option (List Mention) :=
  match f.classes with
  | [c] => c.mentions?.map (packageMentions f.package ++ ·)
  | _ => none

end ClassUnit

namespace ItemUnit

/-- The names in a function of a struct. What it returns is a type of any form. -/
def Function.mentions? (f : Function) : Option (List Mention) := do
  let member ← f.member?
  return f.parameters.filterMap (fun
      | .receiver _ => none
      | .typed name _ => some ⟨.parameter, name⟩) ++ member.mentions f.name

/-- The names in a file with one struct and its implementation. -/
def File.mentions? (f : File) : Option (List Mention) :=
  match f.items with
  | [.struct s, .implementation i] => do
      let methods ← i.methods.mapM Function.mentions?
      return ⟨.builder, s.name⟩ :: ⟨.builder, i.type⟩ ::
        s.fields.map (fun f => ⟨.field, f.name⟩) ++ methods.flatten
  | _ => none

end ItemUnit

/-- The names that the builder of a record is written with. Only classes declare their
package, and only structs are made by a function. -/
def Record.Mentions (language : Language) (r : Record) (x : Mention) : Prop :=
  match x.role with
  | .package => language = .java ∧ r.package ≠ "" ∧
      x.name ∈ Text.segments language.separator r.package
  | .record => x.name = r.name
  | .builder => x.name = r.builderName
  | .field | .parameter => x.name ∈ r.fieldNames language
  | .setter => x.name ∈ r.components.map fun c => language.setterName c.name
  | .constructor => language = .rust ∧ ∃ returns, r.constructor = .function x.name returns

/-! ### What is collected -/

variable {r : Record}

/-- The invocation of a record's constructor is written with the names of the record, of its
fields and, where there is one, of the function it is made by. -/
theorem Record.mem_mentions_invocation {language : Language} {x : Mention} :
    x ∈ (r.invocation language (r.fieldNames language)).mentions ↔
      (x.role = .record ∨ x.role = .field ∨ x.role = .constructor) ∧ r.Mentions language x := by
  obtain ⟨role, name⟩ := x
  cases language with
  | java => cases role <;> simp [invocation, Invocation.mentions, Mentions]
  | rust =>
      cases hc : r.constructor with
      | literal =>
          have hzip : (r.fieldNames .rust).zip (r.fieldNames .rust) =
              (r.fieldNames .rust).map fun f => (f, f) := by
            simpa using List.zip_map' (f := id) (g := id) (l := r.fieldNames .rust)
          cases role <;> simp [invocation, Invocation.mentions, Mentions, hc, hzip]
      | function function returns =>
          cases role with
          | constructor =>
              simp [invocation, Invocation.mentions, Mentions, hc, @eq_comm _ function name]
          | _ => simp [invocation, Invocation.mentions, Mentions, hc]

/-- The setters of a record are written with the names of its fields, and their own. -/
theorem Record.mem_mentions_setters {language : Language} {x : Mention} :
    (∃ s ∈ (Blueprint.ofRecord language r).setters, x ∈ s.mentions) ↔
      (x.role = .parameter ∨ x.role = .setter ∨ x.role = .field) ∧ r.Mentions language x := by
  obtain ⟨role, name⟩ := x
  cases role <;>
    simp [Blueprint.ofRecord, Blueprint.setterOf, Setter.mentions, Mentions, fieldNames,
      @eq_comm _ name]

theorem Record.mem_mentions_slots {language : Language} {x : Mention} :
    x ∈ (Blueprint.ofRecord language r).slots.map (fun s => ⟨.field, s.name⟩) ↔
      x.role = .field ∧ r.Mentions language x := by
  obtain ⟨role, name⟩ := x
  cases role <;> simp [← Blueprint.slotNames_ofRecord, Mentions, @eq_comm _ name]

namespace ClassUnit

theorem mentions?_hiddenConstructor (builder : String) :
    (hiddenConstructor builder).mentions? builder = some [⟨.builder, builder⟩] := by
  rw [Method.mentions?, member?_hiddenConstructor]
  rfl

theorem mentions?_factory (builder : String) :
    (factory builder).mentions? builder = some [⟨.builder, builder⟩] := by
  rw [Method.mentions?, member?_factory]
  rfl

theorem mentions?_buildMethod (h : r.IsUsable .java) (builder : String) :
    (buildMethod (Blueprint.ofRecord .java r)).mentions? builder =
      some (⟨.record, r.name⟩ :: (r.invocation .java (r.fieldNames .java)).mentions) := by
  rw [Method.mentions?, member?_buildMethod h]
  rfl

theorem mentions?_setterMethod {s : Setter} (h : s.parameter = s.slot)
    (hname : Language.java.isName s.slot = true) (hblank : ' ' ∉ s.slot.toList) (builder : String) :
    (setterMethod builder s).mentions? builder = some (⟨.builder, builder⟩ :: s.mentions) := by
  rw [Method.mentions?, member?_setterMethod h hname hblank]
  rfl

/-- The names in the file of a builder class are those that its record calls for. -/
theorem exists_mentions (h : r.IsUsable .java) (stamp : Stamp) :
    ∃ mentions, (builderFile r stamp).mentions? = some mentions ∧
      ∀ x, x ∈ mentions ↔ r.Mentions .java x := by
  have hsetters : ((Blueprint.ofRecord .java r).setters.map (setterMethod r.builderName)).mapM
      (Method.mentions? r.builderName) = some ((Blueprint.ofRecord .java r).setters.map
        fun s => ⟨.builder, r.builderName⟩ :: s.mentions) := by
    rw [List.mapM_map]
    refine mapM_eq_some_map fun s hs => ?_
    obtain ⟨hparameter, hfield⟩ := Blueprint.slot_mem_of_mem_setters hs
    exact mentions?_setterMethod hparameter (h.isName_field hfield)
      (h.not_mem_field hfield (by decide) (by decide)) _
  have hclass : (builderFile r stamp).mentions? =
      (builderClass r stamp).mentions?.map (packageMentions (builderFile r stamp).package ++ ·) :=
    rfl
  simp only [hclass, Class.mentions?, builderClass, Blueprint.builder_ofRecord, List.mapM_append,
    List.mapM_cons, List.mapM_nil, mentions?_hiddenConstructor, mentions?_factory,
    mentions?_buildMethod h, hsetters]
  refine ⟨_, rfl, fun x => ?_⟩
  simp only [List.map_map, Function.comp_def, List.flatten_append, List.flatten_cons,
    List.flatten_nil, ← List.flatMap_def, List.mem_append, List.mem_cons, List.mem_flatMap,
    and_or_left, exists_or, Record.mem_mentions_slots, Record.mem_mentions_setters,
    Record.mem_mentions_invocation]
  obtain ⟨role, name⟩ := x
  cases role <;> simp [Record.Mentions, packageMentions, package_builderFile]

end ClassUnit

namespace ItemUnit

theorem mentions?_factory : factory.mentions? = some [] := by
  rw [Function.mentions?, member?_factory]
  rfl

theorem mentions?_buildFunction (h : r.IsUsable .rust) :
    (buildFunction (Blueprint.ofRecord .rust r)).mentions? =
      some (r.invocation .rust (r.fieldNames .rust)).mentions := by
  rw [Function.mentions?, member?_buildFunction h]
  rfl

theorem mentions?_setterFunction {s : Setter} (h : s.parameter = s.slot)
    (hname : Language.rust.isName s.slot = true) (hblank : ' ' ∉ s.slot.toList) :
    (setterFunction s).mentions? = some s.mentions := by
  rw [Function.mentions?, member?_setterFunction h hname hblank]
  rfl

/-- The names in the file of a builder struct are those that its record calls for. -/
theorem exists_mentions (h : r.IsUsable .rust) (stamp : Stamp) :
    ∃ mentions, (builderFile r stamp).mentions? = some mentions ∧
      ∀ x, x ∈ mentions ↔ r.Mentions .rust x := by
  have hsetters : ((Blueprint.ofRecord .rust r).setters.map setterFunction).mapM
      Function.mentions? = some ((Blueprint.ofRecord .rust r).setters.map Setter.mentions) := by
    rw [List.mapM_map]
    refine mapM_eq_some_map fun s hs => ?_
    obtain ⟨hparameter, hfield⟩ := Blueprint.slot_mem_of_mem_setters hs
    exact mentions?_setterFunction hparameter (h.isName_field hfield)
      (h.not_mem_field hfield (by decide) (by decide))
  have hfile : (builderFile r stamp).mentions? = do
      let methods ← (builderImplementation (Blueprint.ofRecord .rust r)).methods.mapM
        Function.mentions?
      return ⟨.builder, r.builderName⟩ :: ⟨.builder, r.builderName⟩ ::
        (builderStruct r stamp (Blueprint.ofRecord .rust r)).fields.map
          (fun f => ⟨.field, f.name⟩) ++ methods.flatten := rfl
  simp only [hfile, builderImplementation, builderStruct, List.mapM_append, List.mapM_cons,
    List.mapM_nil, mentions?_factory, mentions?_buildFunction h, hsetters]
  refine ⟨_, rfl, fun x => ?_⟩
  simp only [List.map_map, Function.comp_def, List.flatten_append, List.flatten_cons,
    List.flatten_nil, ← List.flatMap_def, List.mem_append, List.mem_cons, List.mem_flatMap,
    Record.mem_mentions_slots, Record.mem_mentions_setters, Record.mem_mentions_invocation]
  obtain ⟨role, name⟩ := x
  cases role <;> simp [Record.Mentions]

end ItemUnit

/-! ### What is written is a name -/

/-- All that the builder of a usable record is written with are names, except for the function
that makes it, if there is one. -/
theorem Record.Mentions.isName {language : Language} (h : r.IsUsable language)
    (hpackage : language = .java → FitsLanguage language r.package) {x : Mention}
    (hx : r.Mentions language x) (hrole : x.role ≠ .constructor) : language.IsName x.name := by
  obtain ⟨role, name⟩ := x
  rw [← Language.isName_iff]
  cases role with
  | package =>
      obtain ⟨rfl, hempty, hname⟩ := hx
      obtain ⟨hid, hfree⟩ := (hpackage rfl).resolve_left hempty name hname
      exact Language.isName_of_isFree (isIdentifier_iff.mpr hid) (by simp [Language.isFree, hfree])
  | record => exact hx ▸ h.isName
  | builder => exact hx ▸ Language.isName_builderName h.name
  | field => exact h.isName_field hx
  | parameter => exact h.isName_field hx
  | setter =>
      obtain ⟨c, hc, rfl⟩ := List.mem_map.mp hx
      exact Language.isName_setterName (h.components c hc)
  | constructor => exact absurd rfl hrole

/-- The package of a record fits the language of its manifest. -/
theorem Round.fitsLanguage_of_mem_lowerManifest {m : Manifest} (hm : m.Conforms)
    (hlint : (({ manifest := m } : Round).lint Lint.builtin).hasErrors = false)
    (hr : r ∈ lowerManifest m) : FitsLanguage m.project.language r.package := by
  rw [lowerManifest_eq, List.mem_map] at hr
  obtain ⟨t, ht, rfl⟩ := hr
  have hpackage := (hm.of_mem_buildable ht).package
  rw [lowerRecord, trim_of_isPackage hpackage]
  exact (fitsLanguage_iff hpackage (hasUsableNames_of_no_errors hlint ht).package).mpr (Or.inl rfl)

/-- **The names in a builder struct.** They are those that the record calls for. All of them
are names of the language, with one exception: a function that makes the record is called
by the identifier it was declared with, and that is a name only if it is not reserved. -/
theorem Manifest.struct_names {text : String} {m : Manifest} (hparse : Manifest.parse text = .ok m)
    (hlanguage : m.project.language = .rust)
    (hlint : (({ manifest := m } : Round).lint Lint.builtin).hasErrors = false)
    {r : Record} (hr : r ∈ Round.lowerManifest m) (stamp : Stamp) :
    ∃ mentions, (ItemUnit.builderFile r stamp).mentions? = some mentions ∧
      (∀ x, x ∈ mentions ↔ r.Mentions .rust x) ∧
      (∀ x ∈ mentions, x.role ≠ .constructor → Language.rust.IsName x.name) ∧
      (∀ name returns, r.constructor = .function name returns →
        ⟨.constructor, name⟩ ∈ mentions ∧ IsIdentifier name ∧
        (Language.rust.IsName name ↔
          name ∉ Language.rust.reservedWords ∧ name ∉ Language.neverRawWords)) := by
  have hconforms := violation?_eq_none_iff.mp (parse_eq_ok_iff.mp hparse).2
  have husable := Round.isUsable_of_mem_lowerManifest hconforms hlint hr
  rw [hlanguage] at husable
  obtain ⟨mentions, hmentions, hmem⟩ := ItemUnit.exists_mentions husable stamp
  refine ⟨mentions, hmentions, hmem, fun x hx hrole => ?_, fun name returns hconstructor => ?_⟩
  · exact ((hmem x).mp hx).isName husable (fun hjava => nomatch hjava) hrole
  · have hid := husable.constructor name returns hconstructor
    exact ⟨(hmem _).mpr ⟨rfl, returns, hconstructor⟩, isIdentifier_iff.mp hid,
      Language.isName_iff_of_isIdentifier hid⟩

/-- The manifest of a struct that is made by a function with a reserved word for a name. The
component has the same name, but is written raw. -/
def reservedConstructor : Manifest where
  project := { name := "p", language := .rust }
  types := [("Point", {
    builder := true
    components := [{ name := "type", type := "u8" }]
    constructor := some { name := "type" } })]

/-- The record of that manifest. -/
def reservedConstructorRecord : Record where
  package := ""
  name := "Point"
  components := [{ name := "type", type := "u8" }]
  constructor := .function "type" none

set_option maxRecDepth 100000 in
/-- Nothing is wrong with the manifest, and yet the function is called by a reserved word. -/
theorem reserved_word_called :
    ∃ text mentions, Manifest.parse text = .ok reservedConstructor ∧
      (({ manifest := reservedConstructor } : Round).lint Lint.builtin).hasErrors = false ∧
      reservedConstructorRecord ∈ Round.lowerManifest reservedConstructor ∧
      (ItemUnit.builderFile reservedConstructorRecord ⟨2024, 5, 1, 12, 0, 0, 0⟩).mentions? =
        some mentions ∧
      ⟨.field, "r#type"⟩ ∈ mentions ∧ Language.rust.IsName "r#type" ∧
      ⟨.constructor, "type"⟩ ∈ mentions ∧ ¬ Language.rust.IsName "type" := by
  have hparse : Manifest.parse
      ("[project]\nname = \"p\"\nlanguage = \"rust\"\n\n[types.Point]\nbuilder = true\n" ++
        "components = [\x7b name = \"type\", type = \"u8\" \x7d]\n" ++
        "constructor = \x7b name = \"type\" \x7d\n") = .ok reservedConstructor := by rfl
  have hlint : (({ manifest := reservedConstructor } : Round).lint Lint.builtin).hasErrors =
      false := by rfl
  have hrecord : reservedConstructorRecord ∈ Round.lowerManifest reservedConstructor := by decide
  obtain ⟨mentions, hmentions, hmem, hnames, hconstructor⟩ :=
    Manifest.struct_names hparse rfl hlint hrecord ⟨2024, 5, 1, 12, 0, 0, 0⟩
  have hfield : ⟨.field, "r#type"⟩ ∈ mentions := (hmem _).mpr
    (show "r#type" ∈ reservedConstructorRecord.fieldNames .rust by decide)
  obtain ⟨hcalled, -, hiff⟩ := hconstructor "type" none rfl
  refine ⟨_, mentions, hparse, hlint, hrecord, hmentions, hfield, hnames _ hfield (by decide),
    hcalled, fun hname => (hiff.mp hname).1 (by decide)⟩

/-- **The names in a builder class.** They are those that the record calls for, all of them
identifiers that are not reserved, and the fields have the names of the components as they
were declared. -/
theorem Manifest.class_names {text : String} {m : Manifest} (hparse : Manifest.parse text = .ok m)
    (hlanguage : m.project.language = .java)
    (hlint : (({ manifest := m } : Round).lint Lint.builtin).hasErrors = false)
    {t : String × TypeDecl} (ht : t ∈ m.buildable) (stamp : Stamp) :
    let record := Round.lowerRecord t.1 t.2
    ∃ mentions, (ClassUnit.builderFile record stamp).mentions? = some mentions ∧
      (∀ x, x ∈ mentions ↔ record.Mentions .java x) ∧
      (∀ x ∈ mentions, IsIdentifier x.name ∧ x.name ∉ Language.java.reservedWords) ∧
      (∀ x ∈ mentions, x.role = .field ∨ x.role = .parameter →
        x.name ∈ t.2.components.map ComponentDecl.name) ∧
      ((ClassUnit.builderFile record stamp).classes.flatMap fun c => c.fields.map (·.name)) =
        t.2.components.map ComponentDecl.name ∧
      (∀ c ∈ t.2.components, Language.java.safeName c.name = c.name) := by
  intro record
  have hconforms := violation?_eq_none_iff.mp (parse_eq_ok_iff.mp hparse).2
  have hr : record ∈ Round.lowerManifest m := by
    rw [Round.lowerManifest_eq]
    exact List.mem_map_of_mem ht
  have husable := Round.isUsable_of_mem_lowerManifest hconforms hlint hr
  have hfits := Round.fitsLanguage_of_mem_lowerManifest hconforms hlint hr
  rw [hlanguage] at husable hfits
  have hverbatim : ∀ c ∈ t.2.components, (Round.lowerComponent c).name = c.name ∧
      Language.java.safeName c.name = c.name := by
    intro c hc
    have hname := Round.name_lowerComponent ((hconforms.of_mem_buildable ht).components c hc)
    have hfree := husable.componentNames _ (List.mem_map_of_mem hc)
    rw [isBadComponentName, hname] at hfree
    exact ⟨hname, Language.safeName_of_not_reserved hfree⟩
  have hfields : record.fieldNames .java = t.2.components.map ComponentDecl.name := by
    rw [Record.fieldNames, show record.components = t.2.components.map Round.lowerComponent from rfl,
      List.map_map]
    refine List.map_congr_left fun c hc => ?_
    rw [Function.comp_apply, (hverbatim c hc).1, Language.fieldName, (hverbatim c hc).2]
  obtain ⟨mentions, hmentions, hmem⟩ := ClassUnit.exists_mentions husable stamp
  refine ⟨mentions, hmentions, hmem, fun x hx => ?_, fun x hx hrole => ?_, ?_,
    fun c hc => (hverbatim c hc).2⟩
  · have hx' := (hmem x).mp hx
    have hrole : x.role ≠ .constructor := by
      intro hrole
      simp [Record.Mentions, hrole] at hx'
    rcases hx'.isName husable (fun _ => hfits) hrole with ⟨hid, hfree, -⟩ | ⟨hrust, -⟩
    · exact ⟨hid, hfree⟩
    · cases hrust
  · rw [← hfields]
    have hx' := (hmem x).mp hx
    rcases hrole with hrole | hrole <;> simpa [Record.Mentions, hrole] using hx'
  · rw [← hfields, ← Blueprint.slotNames_ofRecord]
    simp [ClassUnit.builderFile, ClassUnit.File.inPackage, ClassUnit.builderClass]

/-- The declaration of a class in a package. -/
def orderDecl : TypeDecl where
  package := "com.shop"
  builder := true
  components := [{ name := "type", type := "int" }, { name := "withClass", type := "int" }]

/-- The manifest with that declaration. -/
def orderInShop : Manifest where
  project := { name := "p" }
  types := [("Order", orderDecl)]

set_option maxRecDepth 100000 in
/-- A name that is reserved elsewhere is left alone, and so is one that looks like a setter. -/
theorem order_names_free :
    ∃ text mentions, Manifest.parse text = .ok orderInShop ∧
      (ClassUnit.builderFile (Round.lowerRecord "Order" orderDecl)
        ⟨2024, 5, 1, 12, 0, 0, 0⟩).mentions? = some mentions ∧
      ⟨.package, "shop"⟩ ∈ mentions ∧ ⟨.field, "type"⟩ ∈ mentions ∧
      ⟨.setter, "withWithClass"⟩ ∈ mentions ∧
      ∀ x ∈ mentions, IsIdentifier x.name ∧ x.name ∉ Language.java.reservedWords := by
  have hparse : Manifest.parse
      ("[project]\nname = \"p\"\n[types.Order]\npackage = \"com.shop\"\nbuilder = true\n" ++
        "components = [\x7bname=\"type\",type=\"int\"\x7d,\x7bname=\"withClass\",type=\"int\"\x7d]\n") =
        .ok orderInShop := by rfl
  have hlint : (({ manifest := orderInShop } : Round).lint Lint.builtin).hasErrors = false := by rfl
  have hbuildable : ("Order", orderDecl) ∈ orderInShop.buildable := by decide
  obtain ⟨mentions, hmentions, hmem, hnames, -⟩ :=
    Manifest.class_names hparse rfl hlint hbuildable ⟨2024, 5, 1, 12, 0, 0, 0⟩
  have hpackage : "shop" ∈ Text.segments Language.java.separator
      (Round.lowerRecord "Order" orderDecl).package := by decide
  have hfield : "type" ∈ (Round.lowerRecord "Order" orderDecl).fieldNames .java := by decide
  have hsetter : "withWithClass" ∈ (Round.lowerRecord "Order" orderDecl).components.map
      fun c => Language.java.setterName c.name := by decide
  exact ⟨_, mentions, hparse, hmentions, (hmem _).mpr ⟨rfl, by decide, hpackage⟩,
    (hmem _).mpr hfield, (hmem _).mpr hsetter, hnames⟩

end BuilderGen
