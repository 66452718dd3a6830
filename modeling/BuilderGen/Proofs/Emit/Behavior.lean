import BuilderGen.Proofs.Emit.ClassReading
import BuilderGen.Proofs.Emit.ItemReading

/-!
# BuilderGen.Proofs.Emit.Behavior

**What generated builders do.** Any builder that is generated for a manifest without
errors is read as a program (`Record.builderProgram?`), and running that program makes
the record from the values last passed to its setters. What is read is the syntax tree of
the builder, with types as they are written; what the setters are called is not read.
-/

namespace BuilderGen

/-- The syntax tree of a record's builder, read as a program. -/
def Record.builderProgram? (language : Language) (stamp : Stamp) (r : Record) : Option Program :=
  match language with
  | .java => (ClassUnit.builderFile r stamp).program?
  | .rust => (ItemUnit.builderFile r stamp).program?

theorem Record.builderProgram?_eq {language : Language} {r : Record} (h : r.IsUsable language)
    (stamp : Stamp) : r.builderProgram? language stamp = some (r.program language) := by
  cases language with
  | java => exact ClassUnit.program?_builderFile h stamp
  | rust => exact ItemUnit.program?_builderFile h stamp

/-- **Builders pass on what was last passed to their setters.** The builder of a record
with `n` components has `n` slots of distinct names, `n` setters, one factory and one
`build`. After any calls of setters, `build` invokes the constructor of the record with
`n` arguments. Each is the value last passed to the setter at its position, or else the
default of its slot. -/
theorem Manifest.builder_passes_last_values {text : String} {m : Manifest}
    (hparse : Manifest.parse text = .ok m)
    (hlint : (({ manifest := m } : Round).lint Lint.builtin).hasErrors = false)
    {r : Record} (hr : r ∈ Round.lowerManifest m) (stamp : Stamp) :
    ∃ p, r.builderProgram? m.project.language stamp = some p ∧
      p.slots.length = r.components.length ∧ p.setters.length = r.components.length ∧
      p.factories = 1 ∧ p.makers.length = 1 ∧ (p.slots.map Slot.name).Nodup ∧
      ∀ (α : Type) (default : String → α) (calls : List (Nat × α)),
        (∀ c ∈ calls, c.1 < p.setters.length) →
        ∃ arguments : List α, arguments.length = r.components.length ∧
          p.session? default calls = some (r.invocation m.project.language arguments) ∧
          ∀ (i : Nat) (slot : Slot), p.slots[i]? = some slot →
            arguments[i]? = some ((lastPassed calls i).getD (default slot.type)) := by
  have hconforms := violation?_eq_none_iff.mp (parse_eq_ok_iff.mp hparse).2
  have husable := Round.isUsable_of_mem_lowerManifest hconforms hlint hr
  have hdistinct := husable.nodup_fieldNames
  have hsetters : (r.program m.project.language).setters.length = r.components.length := by
    simp [Record.fieldNames]
  refine ⟨_, Record.builderProgram?_eq husable stamp, by simp [Blueprint.ofRecord], hsetters,
    by simp, by simp, ?_, fun α default calls hcalls => ?_⟩
  · rwa [Record.slots_program, Blueprint.slotNames_ofRecord]
  · rw [hsetters] at hcalls
    refine ⟨_, by simp, Record.session?_program hdistinct hcalls, fun i slot hslot => ?_⟩
    simp only [Record.slots_program, Blueprint.ofRecord, List.getElem?_map,
      Option.map_eq_some_iff] at hslot
    obtain ⟨c, hc, rfl⟩ := hslot
    simp [hc, Blueprint.slotOf]

/-- The manifest of a struct with a component whose name is written raw. -/
def rawField : Manifest where
  project := { name := "p", language := .rust }
  types := [("Key", {
    builder := true
    components := [{ name := "id", type := "u64" }, { name := "type", type := "u8" }] })]

/-- The record of that manifest. -/
def rawFieldRecord : Record where
  package := ""
  name := "Key"
  components := [{ name := "id", type := "u64" }, { name := "type", type := "u8" }]

set_option maxRecDepth 100000 in
/-- The first setter is called twice and the second not at all. -/
theorem raw_field_keeps_default :
    ∃ text p, Manifest.parse text = .ok rawField ∧
      rawFieldRecord.builderProgram? .rust ⟨2024, 5, 1, 12, 0, 0, 0⟩ = some p ∧
      p.session? (fun _ => 0) [(0, 5), (0, 7)] =
        some (.literal "Key" [("id", 7), ("r#type", 0)]) := by
  have hparse : Manifest.parse
      ("[project]\nname = \"p\"\nlanguage = \"rust\"\n[types.Key]\nbuilder = true\n" ++
        "components = [\x7bname=\"id\",type=\"u64\"\x7d,\x7bname=\"type\",type=\"u8\"\x7d]\n") =
        .ok rawField := by rfl
  have hlint : (({ manifest := rawField } : Round).lint Lint.builtin).hasErrors = false := by rfl
  have hrecord : rawFieldRecord ∈ Round.lowerManifest rawField := by decide
  obtain ⟨p, hp, hslots, hsetters, -, -, -, hsession⟩ :=
    Manifest.builder_passes_last_values hparse hlint hrecord ⟨2024, 5, 1, 12, 0, 0, 0⟩
  change p.slots.length = 2 at hslots
  change p.setters.length = 2 at hsetters
  obtain ⟨arguments, hlength, hmade, hvalues⟩ :=
    hsession Nat (fun _ => 0) [(0, 5), (0, 7)] (by simp [hsetters])
  have harguments : arguments = [7, 0] := by
    have hfirst := hvalues 0 _ (List.getElem?_eq_getElem (by omega))
    have hsecond := hvalues 1 _ (List.getElem?_eq_getElem (by omega))
    match arguments, hlength with
    | [a, b], _ =>
        obtain rfl := Option.some.inj hfirst
        obtain rfl := Option.some.inj hsecond
        rfl
  refine ⟨_, p, hparse, hp, ?_⟩
  rw [hmade, harguments]
  rfl

end BuilderGen
