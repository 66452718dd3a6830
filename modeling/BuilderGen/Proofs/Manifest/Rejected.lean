import BuilderGen.Proofs.Accounted
import BuilderGen.Proofs.Pipeline.Errors

/-!
# BuilderGen.Proofs.Manifest.Rejected

**The lints reject exactly the unusable manifests** (`Manifest.validate_builtin`): those with a
record that a builder is wanted for and that has a name, a segment of its package or a component
the target language has no way to write.

What lints remark is counted by its places (`Diagnostic.places`). `reservedWord` goes through
the buildable records in order and has one place for each offence of a record
(`Lint.errorPlaces`), and one for each component that is escaped (`Lint.escapedPlaces`); of the
other lints, only `emptyRecord` remarks anything but warnings.
-/

namespace BuilderGen

open Lint (typeLocation)

/-! ### Words that cannot be written -/

namespace Language

/-- The words that no record can be named. -/
def recordWords : Language → List String
  | java => java.reservedWords
  | rust => rust.reservedWords ++ ["crate", "self", "super", "Self", "_"]

/-- The words that no segment of a package can be. Structs do not declare their package. -/
def segmentWords : Language → List String
  | java => java.reservedWords
  | rust => []

/-- The words that no component can be named. Structs escape the other reserved words. -/
def componentWords : Language → List String
  | java => java.reservedWords
  | rust => ["crate", "self", "super", "Self", "_"]

end Language

/-- No builder can be generated for a record of this name and declaration. -/
def Unusable (language : Language) (t : String × TypeDecl) : Prop :=
  t.1 ∈ language.recordWords ∨
    (∃ segment ∈ Text.segments "." t.2.package, segment ∈ language.segmentWords) ∨
    ∃ c ∈ t.2.components, c.name ∈ language.componentWords

/-! ### Places -/

/-- One item for each entry that has a property. -/
theorem flatMap_ite_singleton {α β : Type} (p : α → Prop) [DecidablePred p] (f : α → β)
    (xs : List α) :
    (xs.flatMap fun x => if p x then [f x] else []) = (xs.filter fun x => p x).map f := by
  induction xs with
  | nil => rfl
  | cons x xs ih => by_cases hx : p x <;> simp [hx, ih]

namespace Diagnostic

/-- The places of the remarks of a severity, in order. -/
def places (severity : Severity) (ds : List Diagnostic) : List (Option String) :=
  (ds.filter (·.severity == severity)).map (·.location)

@[simp] theorem places_nil (severity : Severity) : places severity [] = [] := rfl

@[simp] theorem places_append (severity : Severity) (ds es : List Diagnostic) :
    places severity (ds ++ es) = places severity ds ++ places severity es := by
  rw [places, List.filter_append, List.map_append]
  rfl

theorem places_remark (severity severity' : Severity) (message location : String) :
    places severity [Lint.remark severity' message location] =
      if severity' = severity then [some location] else [] := by
  by_cases h : severity' = severity <;> simp [places, Lint.remark, h]

theorem places_flatMap {α : Type} (severity : Severity) (f : α → List Diagnostic) (xs : List α) :
    places severity (xs.flatMap f) = xs.flatMap fun x => places severity (f x) := by
  simp only [places, List.filter_flatMap, List.map_flatMap]

theorem places_filterMap {α : Type} (severity : Severity) (f : α → Option Diagnostic)
    (xs : List α) :
    places severity (xs.filterMap f) = xs.flatMap fun x => places severity (f x).toList := by
  rw [List.filterMap_eq_flatMap_toList, places_flatMap]

/-- Where everything is a warning, there are no remarks of another severity. -/
theorem places_of_warnings {severity : Severity} (h : severity ≠ .warning) {ds : List Diagnostic}
    (hds : ∀ d ∈ ds, d.severity = .warning) : places severity ds = [] := by
  rw [places, List.filter_eq_nil_iff.mpr, List.map_nil]
  intro d hd
  simpa [hds d hd] using h.symm

end Diagnostic

open Diagnostic (places)

namespace Lint

/-- The places of the errors in a buildable record: its name, its package, which has one
however many of its segments are reserved, and its components. -/
def errorPlaces (language : Language) (t : String × TypeDecl) : List String :=
  (if t.1 ∈ language.recordWords then [typeLocation t.1] else []) ++
    (if ∃ segment ∈ Text.segments "." t.2.package, segment ∈ language.segmentWords then
      [typeLocation t.1 ++ ".package"] else []) ++
    (t.2.components.filter (·.name ∈ language.componentWords)).map
      fun c => typeLocation t.1 ++ "." ++ c.name

/-- The places of the components of a buildable record that are reserved words and are
escaped. -/
def escapedPlaces (language : Language) (t : String × TypeDecl) : List String :=
  (t.2.components.filter fun c => language = .rust ∧
      c.name ∈ language.reservedWords ∧ c.name ∉ language.componentWords).map
    fun c => typeLocation t.1 ++ "." ++ c.name

/-! ### Remarks on a record -/

theorem isBadRecordName_iff {language : Language} {name : String} :
    isBadRecordName language name = true ↔ name ∈ language.recordWords := by
  cases language <;>
    simp [isBadRecordName, Language.recordWords, Language.isReserved_iff, Language.neverRawWords]

theorem places_recordNameRemarks (language : Language) (name : String) (severity : Severity) :
    places severity (recordNameRemarks language name) =
      if .error = severity ∧ name ∈ language.recordWords then [some (typeLocation name)] else [] := by
  unfold recordNameRemarks
  by_cases h : name ∈ language.recordWords
  · simp only [if_pos (isBadRecordName_iff.mpr h), Diagnostic.places_remark, h, and_true]
  · rw [if_neg (mt isBadRecordName_iff.mp h), if_neg (fun hboth => h hboth.2), Diagnostic.places_nil]

/-- A package is remarked on once, for the first segment that is reserved. -/
theorem places_packageRemarks (language : Language) (name package : String) (severity : Severity) :
    places severity (packageRemarks language name package) =
      if .error = severity ∧
          ∃ segment ∈ Text.segments "." package, segment ∈ language.segmentWords then
        [some (typeLocation name ++ ".package")] else [] := by
  unfold packageRemarks
  cases language with
  | rust => simp [Language.segmentWords]
  | java =>
      have hfind : ((Text.segments Language.java.separator package).find?
          Language.java.isReserved).isSome = true ↔
          ∃ segment ∈ Text.segments "." package, segment ∈ Language.java.segmentWords := by
        simp only [List.find?_isSome, Language.isReserved_iff]
        rfl
      cases hfirst : (Text.segments Language.java.separator package).find?
          Language.java.isReserved with
      | none =>
          rw [hfirst] at hfind
          rw [if_neg (fun hboth => nomatch hfind.mpr hboth.2)]
          rfl
      | some segment =>
          rw [hfirst] at hfind
          simp only [Diagnostic.places_remark, hfind.mp rfl, and_true]

theorem places_componentRemarks (language : Language) (name component : String)
    (severity : Severity) :
    places severity (componentRemarks language name component) =
      if .error = severity ∧ component ∈ language.componentWords ∨
          .info = severity ∧ language = .rust ∧
            component ∈ language.reservedWords ∧ component ∉ language.componentWords then
        [some (typeLocation name ++ "." ++ component)] else [] := by
  unfold componentRemarks
  cases language with
  | java =>
      by_cases h : component ∈ Language.java.reservedWords <;>
        simp [h, Language.isReserved_iff, Language.componentWords, Diagnostic.places_remark]
  | rust =>
      have hraw : Language.neverRawWords.contains component = true ↔
          component ∈ Language.rust.componentWords := by
        simp [Language.componentWords, Language.neverRawWords]
      by_cases hnever : component ∈ Language.rust.componentWords
      · simp [hraw.mpr hnever, hnever, Diagnostic.places_remark, -List.contains_eq_mem]
      · by_cases h : component ∈ Language.rust.reservedWords <;>
          simp [mt hraw.mp hnever, hnever, h, Language.isReserved_iff, Diagnostic.places_remark,
            -List.contains_eq_mem]

/-- The errors of `reservedWord` are the offences of buildable records. -/
theorem errors_reservedWord (m : Manifest) :
    places .error (reservedWord.check m) =
      (m.buildable.flatMap (errorPlaces m.project.language)).map some := by
  simp only [reservedWord, Diagnostic.places_flatMap, List.map_flatMap]
  refine List.flatMap_congr fun t _ => ?_
  simp only [Diagnostic.places_append, Diagnostic.places_flatMap, places_recordNameRemarks,
    places_packageRemarks, places_componentRemarks, errorPlaces, true_and, reduceCtorEq, false_and,
    or_false, flatMap_ite_singleton, List.map_append, List.map_map]
  congr 1
  split <;> split <;> rfl

/-- Its notes are the components that are escaped. -/
theorem notes_reservedWord (m : Manifest) :
    places .info (reservedWord.check m) =
      (m.buildable.flatMap (escapedPlaces m.project.language)).map some := by
  simp only [reservedWord, Diagnostic.places_flatMap, List.map_flatMap]
  refine List.flatMap_congr fun t _ => ?_
  simp only [Diagnostic.places_append, Diagnostic.places_flatMap, places_recordNameRemarks,
    places_packageRemarks, places_componentRemarks, escapedPlaces, true_and, reduceCtorEq,
    false_and, false_or, if_false, List.nil_append, flatMap_ite_singleton, List.map_map]
  rfl

/-- The number of the errors: one for each name of a record, one for each package, however many
of its segments are reserved, and one for each component. -/
theorem length_errorPlaces (language : Language) (ts : List (String × TypeDecl)) :
    (ts.flatMap (errorPlaces language)).length =
      (ts.countP fun t => t.1 ∈ language.recordWords) +
        (ts.countP fun t : String × TypeDecl => ∃ segment ∈ Text.segments "." t.2.package,
          segment ∈ language.segmentWords) +
        (ts.flatMap fun t => t.2.components).countP fun c => c.name ∈ language.componentWords := by
  induction ts with
  | nil => rfl
  | cons t ts ih =>
      rw [List.flatMap_cons, List.length_append, ih, errorPlaces, List.length_append,
        List.length_append, apply_ite List.length, apply_ite List.length, List.length_map,
        ← List.countP_eq_length_filter]
      simp only [List.countP_cons, List.flatMap_cons, List.countP_append, decide_eq_true_eq,
        List.length_singleton, List.length_nil]
      omega

/-- The other lint that remarks anything but warnings notes the records without components. -/
theorem places_emptyRecord (m : Manifest) (severity : Severity) :
    places severity (emptyRecord.check m) = if .info = severity then
      ((m.buildable.filter fun t => t.2.components = []).map fun t => typeLocation t.1).map some
    else [] := by
  simp only [emptyRecord, Diagnostic.places_filterMap, List.isEmpty_iff]
  by_cases h : .info = severity
  · simp only [if_pos h, ← flatMap_ite_singleton, List.map_flatMap]
    refine List.flatMap_congr fun t _ => ?_
    split <;> simp [Diagnostic.places_remark, h]
  · simp only [if_neg h, List.flatMap_eq_nil_iff]
    intro t _
    split <;> simp [Diagnostic.places_remark, h]

theorem errorPlaces_ne_nil_iff {language : Language} {t : String × TypeDecl} :
    errorPlaces language t ≠ [] ↔ Unusable language t := by
  by_cases hname : t.1 ∈ language.recordWords
  · simp [errorPlaces, Unusable, hname]
  by_cases hpackage : ∃ segment ∈ Text.segments "." t.2.package, segment ∈ language.segmentWords
  · simp [errorPlaces, Unusable, hpackage]
  · simp [errorPlaces, Unusable, hname, hpackage, -not_exists]

end Lint

/-! ### Remarks on a manifest -/

namespace Round

/-- The places of everything that linting remarks, besides its warnings. -/
theorem places_lint (m : Manifest) {severity : Severity} (h : severity ≠ .warning) :
    ((({ manifest := m } : Round).lint Lint.builtin).ofSeverity severity).map (·.location) =
      places severity (Lint.reservedWord.check m) ++ places severity (Lint.emptyRecord.check m) := by
  change places severity (({ manifest := m } : Round).lint Lint.builtin).diagnostics = _
  rw [lint, diagnostics_remark]
  simp only [Lint.builtin, List.nil_append, List.flatMap_cons, List.flatMap_nil, List.append_nil,
    Diagnostic.places_append]
  rw [Diagnostic.places_of_warnings h fun _ => Lint.severity_of_mem_nonRecordBuilder,
    Diagnostic.places_of_warnings h fun _ => Lint.severity_of_mem_unusedConstructor,
    List.nil_append, List.append_nil]

/-- The errors of linting are the offences of buildable records. -/
theorem errors_lint (m : Manifest) :
    ((({ manifest := m } : Round).lint Lint.builtin).ofSeverity .error).map (·.location) =
      (m.buildable.flatMap (Lint.errorPlaces m.project.language)).map some := by
  rw [places_lint m (by decide), Lint.errors_reservedWord, Lint.places_emptyRecord,
    if_neg (by decide), List.append_nil]

/-- The notes of linting are the components that are escaped and then the empty records. -/
theorem notes_lint (m : Manifest) :
    ((({ manifest := m } : Round).lint Lint.builtin).ofSeverity .info).map (·.location) =
      (m.buildable.flatMap (Lint.escapedPlaces m.project.language) ++
        (m.buildable.filter fun t => t.2.components = []).map fun t => typeLocation t.1).map
          some := by
  rw [places_lint m (by decide), Lint.notes_reservedWord, Lint.places_emptyRecord, if_pos rfl,
    List.map_append]

end Round

/-- **The lints reject exactly the unusable manifests**, whatever their language is. On a new
round the phase fails when a builder is wanted for a record that is unusable. The errors it
counts are one for each such record whose name cannot be written, one for each whose package has
segments that cannot be, and one for each of their components; no other type has errors. The
notes are one for each component that is escaped and one for each record without components. -/
theorem Manifest.validate_builtin (m : Manifest) {σ : Type} (s : σ) :
    let language := m.project.language
    let buildable := m.types.filter fun t => t.2.builder = true ∧ t.2.kind = .record
    let round := ({ manifest := m } : Round).lint Lint.builtin
    let outcome := ((Phase.validate Lint.builtin).run { manifest := m } : Effect σ Round).runOn s
    let errors :=
      (buildable.countP fun t => t.1 ∈ language.recordWords) +
        (buildable.countP fun t : String × TypeDecl =>
          ∃ segment ∈ Text.segments "." t.2.package, segment ∈ language.segmentWords) +
        (buildable.flatMap fun t => t.2.components).countP fun c =>
          c.name ∈ language.componentWords
    outcome = (if errors = 0 then .ok round else .error { cause := .validation errors }, s) ∧
    ((∃ failure, outcome.1 = .error failure) ↔ ∃ t ∈ buildable, Unusable language t) ∧
    (round.ofSeverity .error).map (·.location) =
      (buildable.flatMap (Lint.errorPlaces language)).map some ∧
    (round.ofSeverity .info).map (·.location) =
      (buildable.flatMap (Lint.escapedPlaces language) ++
        (buildable.filter fun t => t.2.components = []).map fun t => typeLocation t.1).map some := by
  intro language buildable round outcome errors
  have hbuildable : buildable = m.buildable := m.buildable_eq_filter.symm
  have hplaces := Round.errors_lint m
  rw [← hbuildable] at hplaces
  have hcount : round.errorCount = errors := by
    have hlength := congrArg List.length hplaces
    rwa [List.length_map, List.length_map, Lint.length_errorPlaces] at hlength
  have houtcome : outcome =
      (if errors = 0 then .ok round else .error { cause := .validation errors }, s) := by
    have hrun : outcome = _ := Phase.runOn_validate Lint.builtin { manifest := m } s
    rw [hrun, ← hcount, Round.hasErrors]
    by_cases hnone : round.errorCount = 0
    · simp [round, hnone]
    · simp [round, hnone, Nat.pos_of_ne_zero hnone]
  have herrors : errors ≠ 0 ↔ ∃ t ∈ buildable, Unusable language t := by
    have hlength : errors = (buildable.flatMap (Lint.errorPlaces language)).length :=
      (Lint.length_errorPlaces language buildable).symm
    rw [hlength, ne_eq, List.length_eq_zero_iff, List.flatMap_eq_nil_iff]
    simp only [not_forall, exists_prop, ← ne_eq, Lint.errorPlaces_ne_nil_iff]
  refine ⟨houtcome, ?_, hplaces, hbuildable ▸ Round.notes_lint m⟩
  rw [← herrors, houtcome]
  by_cases hnone : errors = 0 <;> simp [hnone]

end BuilderGen
