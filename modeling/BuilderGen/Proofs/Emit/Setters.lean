import BuilderGen.Proofs.Emit.Names

/-!
# BuilderGen.Proofs.Emit.Setters

**The setters that a builder exposes**, as they are told apart by whoever calls them: by
name and by the type of the value. There is one for every component, in order
(`Record.exposedSetters_eq`).

In a struct their names differ, because the names of components do. In a class a setter
is named by its component with a capital for its first letter, and so components whose
names differ in the case of that letter only have setters of one name
(`Language.setterName_eq_iff`). They are still told apart if they take values of different
types. Manifests are not checked for that.
-/

namespace BuilderGen

open Text (isIdentifier isIdentifierRest)

/-! ### Names of setters -/

namespace Text

/-- Names that are the same but for the case of their first letter. -/
def DifferInFirstCase (a b : String) : Prop :=
  ∃ c d cs, a.toList = c :: cs ∧ b.toList = d :: cs ∧ c ≠ d ∧ c.toUpper = d.toUpper

/-- Capitalising makes names the same that differ in the case of their first letter. -/
theorem capitalize_eq_iff {a b : String} (ha : isIdentifier a = true) (hb : isIdentifier b = true) :
    capitalize a = capitalize b ↔ a = b ∨ DifferInFirstCase a b := by
  obtain ⟨c, cs, hac, -, -, hacap⟩ := exists_capitalizeChars ha
  obtain ⟨d, ds, hbd, -, -, hbcap⟩ := exists_capitalizeChars hb
  rw [← String.toList_inj, toList_capitalize, toList_capitalize, hacap, hbcap, List.cons.injEq,
    ← String.toList_inj, hac, hbd, List.cons.injEq]
  refine ⟨fun h => ?_, fun h => ?_⟩
  · obtain ⟨hupper, rfl⟩ := h
    by_cases hcd : c = d
    · exact Or.inl ⟨hcd, rfl⟩
    · exact Or.inr ⟨c, d, cs, hac, hbd, hcd, hupper⟩
  · rcases h with ⟨rfl, rfl⟩ | ⟨c', d', cs', hac', hbd', -, hupper⟩
    · exact ⟨rfl, rfl⟩
    · obtain ⟨rfl, rfl⟩ := List.cons.inj (hac.symm.trans hac')
      obtain ⟨rfl, rfl⟩ := List.cons.inj (hbd.symm.trans hbd')
      exact ⟨hupper, rfl⟩

end Text

/-- Setters have one name if their components do, or would with the other case of their first
letter, which is not asked for in a struct. -/
theorem Language.setterName_eq_iff {language : Language} {a b : String}
    (ha : isIdentifier a = true) (hb : isIdentifier b = true) :
    language.setterName a = language.setterName b ↔
      a = b ∨ language = .java ∧ Text.DifferInFirstCase a b := by
  cases language with
  | java => simpa [setterName] using Text.capitalize_eq_iff ha hb
  | rust => simp [setterName]

/-! ### What a builder exposes -/

/-- How a setter is called: by its name, with a value of a type. -/
structure SetterHead where
  name : String
  type : String
  deriving DecidableEq, Repr

/-- A public method of a class that takes one value. -/
def ClassUnit.Method.setterHead? (m : ClassUnit.Method) : Option SetterHead :=
  match m.visibility, m.isStatic, m.parameters with
  | .public, false, [p] => some ⟨m.name, p.type⟩
  | _, _, _ => none

/-- A function of a struct that takes one value. -/
def ItemUnit.Function.setterHead? (f : ItemUnit.Function) : Option SetterHead :=
  match f.parameters with
  | [.receiver _, .typed _ type] => some ⟨f.name, type⟩
  | _ => none

/-- The functions of an item that take one value. -/
def ItemUnit.Item.setterHeads : ItemUnit.Item → List SetterHead
  | .implementation i => i.methods.filterMap ItemUnit.Function.setterHead?
  | _ => []

/-- Setters that are written so that they can be read back are read back for every component,
in order. -/
theorem Blueprint.filterMap_setters {α : Type} (language : Language) (r : Record)
    (write : Setter → α) (head? : α → Option SetterHead)
    (h : ∀ s, head? (write s) = some ⟨s.name, s.type⟩) :
    ((ofRecord language r).setters.map write).filterMap head? =
      r.components.map fun c => ⟨language.setterName c.name, c.type⟩ := by
  have hread : head? ∘ write = some ∘ fun s => ⟨s.name, s.type⟩ := funext h
  rw [List.filterMap_map, hread, List.filterMap_eq_map, ofRecord, List.map_map]
  rfl

namespace Record

/-- The setters in the source of a record's builder. -/
def exposedSetters (language : Language) (stamp : Stamp) (r : Record) : List SetterHead :=
  match language with
  | .java => (ClassUnit.builderFile r stamp).classes.flatMap fun c =>
      c.methods.filterMap ClassUnit.Method.setterHead?
  | .rust => (ItemUnit.builderFile r stamp).items.flatMap ItemUnit.Item.setterHeads

/-- A builder exposes a setter for every component, in order. -/
theorem exposedSetters_eq (language : Language) (stamp : Stamp) (r : Record) :
    r.exposedSetters language stamp =
      r.components.map fun c => ⟨language.setterName c.name, c.type⟩ := by
  cases language with
  | java =>
      have hothers : [ClassUnit.hiddenConstructor r.builderName, ClassUnit.factory r.builderName,
          ClassUnit.buildMethod (Blueprint.ofRecord .java r)].filterMap
            ClassUnit.Method.setterHead? = [] := rfl
      have hsetters := Blueprint.filterMap_setters .java r (ClassUnit.setterMethod r.builderName)
        ClassUnit.Method.setterHead? fun _ => rfl
      simp only [exposedSetters, ClassUnit.builderFile, ClassUnit.File.inPackage,
        ClassUnit.builderClass, Blueprint.builder_ofRecord, List.flatMap_singleton,
        List.filterMap_append, hothers, hsetters, List.nil_append]
  | rust =>
      have hothers : [ItemUnit.factory, ItemUnit.buildFunction (Blueprint.ofRecord .rust r)].filterMap
          ItemUnit.Function.setterHead? = [] := rfl
      have hsetters := Blueprint.filterMap_setters .rust r ItemUnit.setterFunction
        ItemUnit.Function.setterHead? fun _ => rfl
      simp only [exposedSetters, ItemUnit.builderFile, ItemUnit.File.inModule, List.flatMap_cons,
        List.flatMap_nil, ItemUnit.Item.setterHeads, ItemUnit.builderImplementation,
        List.filterMap_append, hothers, hsetters, List.nil_append, List.append_nil]

/-- Setters of a sound record are all different as long as no two components of one type
differ in the case of their first letter only, or the record is a struct. -/
theorem IsSound.nodup_exposedSetters_iff {r : Record} (h : r.IsSound) (language : Language)
    (stamp : Stamp) :
    (r.exposedSetters language stamp).Nodup ↔
      (language = .java → r.components.Pairwise fun a b =>
        a.type = b.type → ¬ Text.DifferInFirstCase a.name b.name) := by
  have hdistinct : r.components.Pairwise fun a b => a.name ≠ b.name := by
    simpa [List.Nodup, List.pairwise_map] using h.distinct
  have hiff : ∀ {a b}, a ∈ r.components → b ∈ r.components → a.name ≠ b.name →
      ((⟨language.setterName a.name, a.type⟩ : SetterHead) ≠ ⟨language.setterName b.name, b.type⟩ ↔
        (language = .java → a.type = b.type → ¬ Text.DifferInFirstCase a.name b.name)) := by
    intro a b ha hb hne
    rw [ne_eq, SetterHead.mk.injEq,
      Language.setterName_eq_iff (h.components a ha) (h.components b hb)]
    tauto
  rw [exposedSetters_eq, List.Nodup, List.pairwise_map]
  refine ⟨fun hsetters hjava => ?_, fun hcomponents => ?_⟩
  · refine (hsetters.and hdistinct).imp_of_mem fun ha hb hab => ?_
    exact (hiff ha hb hab.2).mp hab.1 hjava
  · by_cases hjava : language = .java
    · refine ((hcomponents hjava).and hdistinct).imp_of_mem fun ha hb hab => ?_
      exact (hiff ha hb hab.2).mpr fun _ => hab.1
    · exact hdistinct.imp_of_mem fun ha hb hne => (hiff ha hb hne).mpr fun h => absurd h hjava

end Record

/-- **The setters of a builder.** It exposes one for every component. In a struct they have
different names. In a class, two of them are called alike exactly if their components have
one type and names that differ in the case of their first letter only. -/
theorem Manifest.setters_distinct_iff {text : String} {m : Manifest}
    (hparse : Manifest.parse text = .ok m) {r : Record} (hr : r ∈ Round.lowerManifest m)
    (language : Language) (stamp : Stamp) :
    (r.exposedSetters language stamp).length = r.components.length ∧
    (language = .rust → ((r.exposedSetters language stamp).map SetterHead.name).Nodup) ∧
    ((r.exposedSetters language stamp).Nodup ↔
      (language = .java → r.components.Pairwise fun a b =>
        a.type = b.type → ¬ Text.DifferInFirstCase a.name b.name)) := by
  have hsound := Round.isSound_of_mem_lowerManifest
    (violation?_eq_none_iff.mp (parse_eq_ok_iff.mp hparse).2) hr
  refine ⟨by simp [Record.exposedSetters_eq], ?_, hsound.nodup_exposedSetters_iff language stamp⟩
  rintro rfl
  have hnames : ((r.exposedSetters .rust stamp).map SetterHead.name) =
      (r.components.map Component.name).map Language.rust.setterName := by
    simp [Record.exposedSetters_eq]
  rw [hnames]
  exact hsound.distinct.map fun a b hab => (String.append_right_inj "with_").mp hab

/-- The manifest of a class with two components whose setters are called alike. -/
def twinSetters : Manifest where
  project := { name := "p" }
  types := [("Point", {
    builder := true
    components := [{ name := "x", type := "int" }, { name := "X", type := "int" }] })]

/-- The record of that manifest. -/
def twinSettersRecord : Record where
  package := ""
  name := "Point"
  components := [{ name := "x", type := "int" }, { name := "X", type := "int" }]

set_option maxRecDepth 100000 in
/-- Nothing is wrong with the manifest, and yet both setters are called alike. -/
theorem twin_setters_clash :
    ∃ text, Manifest.parse text = .ok twinSetters ∧
      (({ manifest := twinSetters } : Round).lint Lint.builtin).hasErrors = false ∧
      twinSettersRecord ∈ Round.lowerManifest twinSetters ∧
      twinSettersRecord.exposedSetters .java ⟨2024, 5, 1, 12, 0, 0, 0⟩ =
        [⟨"withX", "int"⟩, ⟨"withX", "int"⟩] ∧
      ¬ (twinSettersRecord.exposedSetters .java ⟨2024, 5, 1, 12, 0, 0, 0⟩).Nodup ∧
      ((twinSettersRecord.exposedSetters .rust ⟨2024, 5, 1, 12, 0, 0, 0⟩).map
        SetterHead.name).Nodup := by
  have hparse : Manifest.parse
      ("[project]\nname = \"p\"\n\n[types.Point]\nbuilder = true\n" ++
        "components = [\x7b name = \"x\", type = \"int\" \x7d, \x7b name = \"X\", type = \"int\" \x7d]\n") =
        .ok twinSetters := by rfl
  have hlint : (({ manifest := twinSetters } : Round).lint Lint.builtin).hasErrors = false := by rfl
  have hrecord : twinSettersRecord ∈ Round.lowerManifest twinSetters := by decide
  obtain ⟨-, -, hjava⟩ :=
    Manifest.setters_distinct_iff hparse hrecord .java ⟨2024, 5, 1, 12, 0, 0, 0⟩
  obtain ⟨-, hrust, -⟩ :=
    Manifest.setters_distinct_iff hparse hrecord .rust ⟨2024, 5, 1, 12, 0, 0, 0⟩
  refine ⟨_, hparse, hlint, hrecord, by decide, fun hnodup => ?_, hrust rfl⟩
  have hcomponents := List.pairwise_cons.mp (hjava.mp hnodup rfl)
  exact hcomponents.1 ⟨"X", "int"⟩ (by simp) rfl ⟨'x', 'X', [], rfl, rfl, by decide, by decide⟩

end BuilderGen
