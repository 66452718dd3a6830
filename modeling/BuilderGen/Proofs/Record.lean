import BuilderGen.Proofs.Lint
import BuilderGen.Proofs.Manifest.Package
import Mathlib.Data.List.Nodup

/-!
# BuilderGen.Proofs.Record

**What is known of lowered records.** A record that was lowered from a checked manifest
has names that are identifiers (`Record.IsSound`), whatever language builders are
written in. If the manifest also passes the lints for that language, the names can be
used in it (`Record.IsUsable`).

Lowering trims names and packages. That changes nothing: identifiers hold no blanks, and
neither do packages.
-/

namespace BuilderGen

open Text (IsIdentifier isIdentifier isIdentifier_iff)

/-- A record whose names keep the rules of manifests. -/
structure Record.IsSound (r : Record) : Prop where
  name : isIdentifier r.name = true
  /-- Its package is one in the language of its manifest. -/
  package : ∃ language : Language, IsPackage language.separator r.package
  components : ∀ c ∈ r.components, isIdentifier c.name = true
  distinct : (r.components.map Component.name).Nodup
  constructor : ∀ name returns, r.constructor = .function name returns → isIdentifier name = true

/-- A sound record whose names can be written in a language. -/
structure Record.IsUsable (language : Language) (r : Record) : Prop extends r.IsSound where
  recordName : Lint.isBadRecordName language r.name = false
  componentNames : ∀ c ∈ r.components, isBadComponentName language c.name = false

namespace Round

/-- Lowering keeps the name of a component that is an identifier. -/
theorem name_lowerComponent {c : ComponentDecl} (h : IsIdentifier c.name) :
    (lowerComponent c).name = c.name :=
  Text.trim_of_isIdentifier (isIdentifier_iff.mpr h)

/-- A type that keeps the rules is lowered to a sound record. -/
theorem isSound_lowerRecord {language : Language} {name : String} {decl : TypeDecl}
    (h : decl.Conforms language.separator name) : (lowerRecord name decl).IsSound where
  name := isIdentifier_iff.mpr h.name
  package := ⟨language, by
    rw [lowerRecord, trim_of_isPackage h.package]
    exact h.package⟩
  components := by
    intro lowered hmem
    obtain ⟨c, hc, rfl⟩ := List.mem_map.mp hmem
    rw [name_lowerComponent (h.components c hc)]
    exact isIdentifier_iff.mpr (h.components c hc)
  distinct := by
    have hnames : decl.components.map (Component.name ∘ lowerComponent) =
        decl.components.map (·.name) :=
      List.map_congr_left fun c hc => name_lowerComponent (h.components c hc)
    rw [lowerRecord, List.map_map, hnames]
    exact h.distinct
  constructor := by
    intro k returns hk
    rw [lowerRecord] at hk
    -- only a declared constructor is lowered to a function
    cases hc : decl.constructor with
    | none => simp [hc, lowerConstructor] at hk
    | some d =>
        simp only [hc, lowerConstructor, Constructor.function.injEq] at hk
        exact isIdentifier_iff.mpr (hk.1 ▸ h.constructor d hc)

theorem isSound_of_mem_lowerManifest {m : Manifest} (hm : m.Conforms) {r : Record}
    (hr : r ∈ lowerManifest m) : r.IsSound := by
  rw [lowerManifest_eq, List.mem_map] at hr
  obtain ⟨t, ht, rfl⟩ := hr
  exact isSound_lowerRecord (hm.of_mem_buildable ht)

/-- The package of a record whose manifest is for a language consists of identifiers. -/
theorem isIdentifier_of_mem_packageSegments {m : Manifest} (hm : m.Conforms) {r : Record}
    (hr : r ∈ lowerManifest m) {segment : String}
    (hsegment : segment ∈ r.packageSegments m.project.language) : isIdentifier segment = true := by
  rw [lowerManifest_eq, List.mem_map] at hr
  obtain ⟨type, htype, rfl⟩ := hr
  have hpackage := (hm.of_mem_buildable htype).package
  rw [← trim_of_isPackage hpackage] at hpackage
  exact isIdentifier_iff.mpr ((Record.packageSegments_of_isPackage hpackage).1 segment hsegment)

/-- The record is usable if the names of its type can be used, in whatever language. -/
theorem isUsable_lowerRecord {language target : Language} {name : String} {decl : TypeDecl}
    (h : decl.Conforms language.separator name) (hnames : HasUsableNames target name decl) :
    (lowerRecord name decl).IsUsable target := by
  refine { isSound_lowerRecord h with recordName := hnames.record, componentNames := ?_ }
  intro lowered hmem
  obtain ⟨c, hc, rfl⟩ := List.mem_map.mp hmem
  rw [name_lowerComponent (h.components c hc)]
  exact hnames.components c hc

/-- Records of a manifest that also passes the lints are usable. -/
theorem isUsable_of_mem_lowerManifest {m : Manifest} (hm : m.Conforms)
    (hlint : (({ manifest := m } : Round).lint Lint.builtin).hasErrors = false) {r : Record}
    (hr : r ∈ lowerManifest m) : r.IsUsable m.project.language := by
  rw [lowerManifest_eq, List.mem_map] at hr
  obtain ⟨t, ht, rfl⟩ := hr
  exact isUsable_lowerRecord (hm.of_mem_buildable ht) (hasUsableNames_of_no_errors hlint ht)

end Round
end BuilderGen
