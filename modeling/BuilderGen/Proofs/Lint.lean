import BuilderGen.Report.Verdict

/-!
# BuilderGen.Proofs.Lint

**What passes the lints.** A manifest is valid when no built-in lint reports an
error, and the only one that does is `reservedWord`. So a valid manifest has usable
names (`HasUsableNames`) in all its buildable records.
-/

namespace BuilderGen

open Lint (isBadRecordName)

/-! ### No errors -/

theorem Round.hasErrors_eq_false_iff {r : Round} :
    r.hasErrors = false ↔ ∀ d ∈ r.diagnostics, d.severity ≠ .error := by
  simp [hasErrors, errorCount, ofSeverity]

/-- Linting finds no errors in a manifest when no lint reports one. -/
theorem Round.lint_hasErrors_eq_false_iff {m : Manifest} {lints : List Lint} :
    (({ manifest := m } : Round).lint lints).hasErrors = false ↔
      ∀ lint ∈ lints, ∀ d ∈ lint.check m, d.severity ≠ .error := by
  rw [hasErrors_eq_false_iff]
  simp only [lint, diagnostics_remark, List.nil_append, List.mem_flatMap]
  exact ⟨fun h lint hl d hd => h d ⟨lint, hl, hd⟩, fun h d ⟨lint, hl, hd⟩ => h lint hl d hd⟩

theorem Manifest.verdict_isValid_iff {m : Manifest} {path : String} :
    (m.verdict path).isValid = true ↔
      (({ manifest := m } : Round).lint Lint.builtin).hasErrors = false := by
  rw [Round.hasErrors_eq_false_iff]
  simp [verdict, Verdict.isValid, Round.details, Round.ofSeverity]

/-! ### Usable names -/

/-- Whether a component can be named so: reserved words are out where they cannot be
escaped. -/
def isBadComponentName (language : Language) (component : String) : Bool :=
  match language with
  | .java => language.isReserved component
  | .rust => Language.neverRawWords.contains component

/-- The names of a record that can be generated. -/
structure HasUsableNames (language : Language) (name : String) (decl : TypeDecl) : Prop where
  record : isBadRecordName language name = false
  /-- Only classes declare their package. -/
  package : language = .java →
    ∀ segment ∈ Text.segments language.separator decl.package, language.isReserved segment = false
  components : ∀ c ∈ decl.components, isBadComponentName language c.name = false

theorem recordNameRemarks_no_error_iff {language : Language} {name : String} :
    (∀ d ∈ Lint.recordNameRemarks language name, d.severity ≠ .error) ↔
      isBadRecordName language name = false := by
  unfold Lint.recordNameRemarks
  by_cases h : isBadRecordName language name = true
  · simp [h, Lint.remark]
  · simp [h]

theorem packageRemarks_no_error_iff {language : Language} {name package : String} :
    (∀ d ∈ Lint.packageRemarks language name package, d.severity ≠ .error) ↔
      (language = .java → ∀ segment ∈ Text.segments language.separator package,
        language.isReserved segment = false) := by
  unfold Lint.packageRemarks
  cases language with
  | rust => simp
  | java =>
      cases h : (Text.segments Language.java.separator package).find? Language.java.isReserved with
      | none => simpa using h
      | some segment =>
          have hfound := List.find?_some h
          have hmem := List.mem_of_find?_eq_some h
          simp only [List.mem_singleton, forall_eq, Lint.remark, ne_eq, not_true_eq_false,
            forall_const, false_iff]
          intro hall
          simp [hall segment hmem] at hfound

theorem componentRemarks_no_error_iff {language : Language} {record component : String} :
    (∀ d ∈ Lint.componentRemarks language record component, d.severity ≠ .error) ↔
      isBadComponentName language component = false := by
  unfold Lint.componentRemarks isBadComponentName
  cases language with
  | java =>
      by_cases h : Language.java.isReserved component = true
      · simp [h, Lint.remark]
      · simp [h]
  | rust =>
      by_cases hraw : Language.neverRawWords.contains component = true
      · simp only [hraw, if_true, Lint.remark, List.mem_singleton, forall_eq]
        simp
      · simp only [hraw]
        by_cases h : Language.rust.isReserved component = true
        · simp [h, Lint.remark]
        · simp [h]

/-- The lint for reserved words reports no error when all names are usable. -/
theorem reservedWord_no_error_iff {m : Manifest} :
    (∀ d ∈ Lint.reservedWord.check m, d.severity ≠ .error) ↔
      ∀ t ∈ m.buildable, HasUsableNames m.project.language t.1 t.2 := by
  have hrecord : ∀ t : String × TypeDecl,
      (∀ d ∈ Lint.recordNameRemarks m.project.language t.1 ++
        Lint.packageRemarks m.project.language t.1 t.2.package ++
        t.2.components.flatMap (fun c => Lint.componentRemarks m.project.language t.1 c.name),
        d.severity ≠ .error) ↔ HasUsableNames m.project.language t.1 t.2 := by
    intro t
    simp only [List.forall_mem_append, List.mem_flatMap, forall_exists_index, and_imp,
      recordNameRemarks_no_error_iff, packageRemarks_no_error_iff]
    refine ⟨fun h => ?_, fun h => ?_⟩
    · obtain ⟨⟨hr, hp⟩, hc⟩ := h
      exact ⟨hr, hp, fun c hmem => componentRemarks_no_error_iff.mp fun d => hc d c hmem⟩
    · obtain ⟨hr, hp, hc⟩ := h
      exact ⟨⟨hr, hp⟩, fun d c hmem => componentRemarks_no_error_iff.mpr (hc c hmem) d⟩
  simp only [Lint.reservedWord, List.mem_flatMap, forall_exists_index, and_imp]
  exact ⟨fun h t ht => (hrecord t).mp fun d => h d t ht,
    fun h d t ht => (hrecord t).mpr (h t ht) d⟩

/-- Buildable records of a manifest without errors have usable names. -/
theorem hasUsableNames_of_no_errors {m : Manifest}
    (h : (({ manifest := m } : Round).lint Lint.builtin).hasErrors = false)
    {t : String × TypeDecl} (ht : t ∈ m.buildable) :
    HasUsableNames m.project.language t.1 t.2 :=
  reservedWord_no_error_iff.mp
    (Round.lint_hasErrors_eq_false_iff.mp h Lint.reservedWord (by simp [Lint.builtin])) t ht

end BuilderGen
