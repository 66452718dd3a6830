import BuilderGen.Pipeline
import BuilderGen.Proofs.Effect
import BuilderGen.Proofs.Record
import Mathlib.Data.List.Forall2
import Mathlib.Data.List.TakeWhile

/-!
# BuilderGen.Proofs.Lowering

**Lowering loses and alters nothing** (`Manifest.lowering_faithful`). There is a record for
every type that a builder is wanted for, in the order of the types, and it says what the type
says (`Record.Describes`): names, packages and constructors as they are declared, and the types
of components without the blanks around them.

Lowering trims whatever it takes over. A trimmed text is what is left between blanks
(`Text.strips_trim`). Of a name nothing is lost, because identifiers hold no blanks, and of a
type something is left, because manifests in which one is blank are refused.
-/

namespace BuilderGen

open Text (IsIdentifier isIdentifier_iff)

/-! ### Trimming -/

namespace Text

/-- A text is stripped of the blanks around it: what stands before and after the rest is blank,
and the rest neither starts nor ends with a blank. -/
structure Strips (text rest : String) : Prop where
  around : ∃ front back, text.toList = front ++ rest.toList ++ back ∧
    (∀ c ∈ front, isBlank c = true) ∧ ∀ c ∈ back, isBlank c = true
  first : ∀ c, rest.toList.head? = some c → isBlank c = false
  last : ∀ c, rest.toList.getLast? = some c → isBlank c = false

/-- Only blanks are dropped at the end. -/
theorem exists_append_dropEndBlanks (cs : List Char) :
    ∃ back, cs = dropEndBlanks cs ++ back ∧ ∀ c ∈ back, isBlank c = true := by
  induction cs with
  | nil => exact ⟨[], rfl, by simp⟩
  | cons c cs ih =>
      obtain ⟨back, hcs, hback⟩ := ih
      rw [dropEndBlanks]
      cases hrest : dropEndBlanks cs with
      | nil =>
          rw [hrest, List.nil_append] at hcs
          by_cases hc : isBlank c = true
          · exact ⟨c :: back, by simp [hc, hcs], by simpa [hc] using hback⟩
          · exact ⟨back, by simp [hc, hcs], hback⟩
      | cons d ds =>
          rw [hrest] at hcs
          exact ⟨back, by rw [List.cons_append, ← hcs], hback⟩

theorem not_isBlank_of_getLast?_dropEndBlanks {d : Char} (cs : List Char) :
    (dropEndBlanks cs).getLast? = some d → isBlank d = false := by
  induction cs with
  | nil => intro h; cases h
  | cons c cs ih =>
      rw [dropEndBlanks]
      cases hrest : dropEndBlanks cs with
      | nil =>
          by_cases hc : isBlank c = true
          · simp [hc]
          · intro h
            obtain rfl : c = d := by simpa [hc] using h
            simpa using hc
      | cons e es =>
          rw [hrest] at ih
          simpa using ih

/-- **Trimming** strips a text of the blanks around it. -/
theorem strips_trim (text : String) : Strips text (trim text) := by
  obtain ⟨back, hback, hblank⟩ := exists_append_dropEndBlanks (text.toList.dropWhile isBlank)
  refine ⟨⟨text.toList.takeWhile isBlank, back, ?_, ?_, hblank⟩, fun c hc => ?_, fun c hc => ?_⟩
  · rw [toList_trim, trimChars, List.append_assoc, ← hback, List.takeWhile_append_dropWhile]
  · exact fun c hc => List.mem_takeWhile_imp hc
  · -- the first character is the one at which dropping blanks stopped
    rw [toList_trim, trimChars] at hc
    have hfirst : (text.toList.dropWhile isBlank).head? = some c := by
      rw [hback, List.head?_append, hc]
      rfl
    have hstop := List.head?_dropWhile_not isBlank text.toList
    rw [hfirst] at hstop
    simpa using hstop
  · rw [toList_trim, trimChars] at hc
    exact not_isBlank_of_getLast?_dropEndBlanks _ hc

end Text

/-! ### Records -/

/-- A record says what a declared type says. -/
structure Record.Describes (name : String) (decl : TypeDecl) (r : Record) : Prop where
  name : r.name = name
  package : r.package = decl.package
  componentNames : r.components.map Component.name = decl.components.map ComponentDecl.name
  componentTypes : List.Forall₂ (fun declared c => Text.Strips declared.type c.type)
    decl.components r.components
  literal : decl.constructor = none → r.constructor = .literal
  function : ∀ c, decl.constructor = some c → r.constructor = .function c.name c.returns

/-- What builders rely on: components have different names, which are identifiers, and types
that neither are empty nor start or end with a blank. -/
structure Record.IsClean (r : Record) : Prop where
  distinct : (r.components.map Component.name).Nodup
  name : ∀ c ∈ r.components, IsIdentifier c.name
  type : ∀ c ∈ r.components, c.type ≠ ""
  first : ∀ c ∈ r.components, ∀ ch, c.type.toList.head? = some ch → Text.isBlank ch = false
  last : ∀ c ∈ r.components, ∀ ch, c.type.toList.getLast? = some ch → Text.isBlank ch = false

namespace Round

section Conforming

variable {language : Language} {name : String} {decl : TypeDecl}
  (h : decl.Conforms language.separator name)
include h

/-- A type that keeps the rules is described by the record it is lowered to. -/
theorem describes_lowerRecord : (lowerRecord name decl).Describes name decl where
  name := rfl
  package := trim_of_isPackage h.package
  componentNames := by
    rw [lowerRecord, List.map_map]
    exact List.map_congr_left fun c hc => name_lowerComponent (h.components c hc)
  componentTypes := by
    rw [lowerRecord, List.forall₂_map_right_iff, List.forall₂_same]
    exact fun c _ => Text.strips_trim c.type
  literal hnone := by
    rw [lowerRecord, hnone]
    rfl
  function c hsome := by
    rw [lowerRecord, hsome]
    rfl

/-- The types of its components are more than blanks. -/
theorem isClean_lowerRecord : (lowerRecord name decl).IsClean := by
  have hsound := isSound_lowerRecord h
  have hstrips : ∀ c ∈ (lowerRecord name decl).components, ∃ declared ∈ decl.components,
      c.type = Text.trim declared.type := by
    intro c hc
    obtain ⟨declared, hdeclared, rfl⟩ := List.mem_map.mp hc
    exact ⟨declared, hdeclared, rfl⟩
  refine ⟨hsound.distinct, fun c hc => isIdentifier_iff.mp (hsound.components c hc),
    fun c hc hempty => ?_, fun c hc => ?_, fun c hc => ?_⟩
  · obtain ⟨declared, hdeclared, htype⟩ := hstrips c hc
    rw [htype, Text.trim_eq_empty_iff, Text.isBlankText, List.all_eq_true] at hempty
    obtain ⟨ch, hmem, hblank⟩ := h.types declared hdeclared
    rw [hempty ch hmem] at hblank
    cases hblank
  · obtain ⟨declared, -, htype⟩ := hstrips c hc
    rw [htype]
    exact (Text.strips_trim declared.type).first
  · obtain ⟨declared, -, htype⟩ := hstrips c hc
    rw [htype]
    exact (Text.strips_trim declared.type).last

end Conforming
end Round

/-- **Lowering loses and alters nothing.** In a round for a manifest, in its own language or in
another one, the phase leaves one record for each type that is marked for a builder and is a
record, in the order of the types, and nothing else changes. Each record describes its type and
has what builders rely on. -/
theorem Manifest.lowering_faithful {text : String} {m : Manifest} (hparse : parse text = .ok m)
    (language : Option Language) {round : Round}
    (hround : round.manifest = m.withLanguage language) {σ : Type} (s : σ) :
    ∃ records, (Phase.lower.run round : Effect σ Round).runOn s =
        (.ok { round with records := some records }, s) ∧
      List.Forall₂ (fun t r => Record.Describes t.1 t.2 r)
        (m.types.filter fun t => t.2.builder = true ∧ t.2.kind = .record) records ∧
      ∀ r ∈ records, r.IsClean := by
  have hconforms := violation?_eq_none_iff.mp (parse_eq_ok_iff.mp hparse).2
  have hlowered : Round.lowerManifest round.manifest =
      m.buildable.map fun t => Round.lowerRecord t.1 t.2 := by
    rw [hround, Round.lowerManifest_eq, buildable_withLanguage]
  refine ⟨_, rfl, ?_, fun r hr => ?_⟩
  · rw [← buildable_eq_filter, hlowered, List.forall₂_map_right_iff, List.forall₂_same]
    exact fun t ht => Round.describes_lowerRecord (hconforms.of_mem_buildable ht)
  · rw [hlowered] at hr
    obtain ⟨t, ht, rfl⟩ := List.mem_map.mp hr
    exact Round.isClean_lowerRecord (hconforms.of_mem_buildable ht)

/-- The manifest of a class that is only marked, and of a record with blanks around the type of
its component. -/
def paddedType : Manifest where
  project := { name := "p" }
  types := [
    ("Shape", { kind := .class, builder := true }),
    ("Point", {
      package := "a.b"
      builder := true
      components := [{ name := "x", type := "\u00a0 List<int>\u3000" }] })]

set_option maxRecDepth 100000 in
/-- The record is lowered without the blanks, and the class is not. -/
theorem padded_type_lowered :
    ∃ text records, Manifest.parse text = .ok paddedType ∧
      (Phase.lower.run { manifest := paddedType } : Effect Unit Round).runOn () =
        (.ok { manifest := paddedType, records := some records }, ()) ∧
      records = [{
        package := "a.b"
        name := "Point"
        components := [{ name := "x", type := "List<int>" }] }] ∧
      ∀ r ∈ records, r.IsClean := by
  have hparse : Manifest.parse
      ("[project]\nname = \"p\"\n[types.Shape]\nkind = \"class\"\nbuilder = true\n" ++
        "[types.Point]\npackage = \"a.b\"\nbuilder = true\n" ++
        "components = [\x7bname=\"x\",type=\"\u00a0 List<int>\u3000\"\x7d]\n") =
        .ok paddedType := by rfl
  have hround : ({ manifest := paddedType } : Round).manifest = paddedType.withLanguage none := rfl
  obtain ⟨records, hrun, -, hclean⟩ := Manifest.lowering_faithful hparse none hround ()
  refine ⟨_, records, hparse, hrun, ?_, hclean⟩
  have hrecords := congrArg (fun outcome => outcome.1.toOption.bind Round.records) hrun
  rw [← Option.some.inj hrecords]
  decide +kernel

end BuilderGen
