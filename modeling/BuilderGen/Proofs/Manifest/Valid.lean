import BuilderGen.Proofs.Effect
import BuilderGen.Proofs.Lint
import BuilderGen.Report.Cleaning

/-!
# BuilderGen.Proofs.Manifest.Valid

**What commands do with a valid manifest.** Linting finds no errors, so the pipeline gets
through and changes nothing outside; generating and cleaning then are what the generator
of the lowered records does (`Manifest.runOn_generate`, `Manifest.runOn_clean`). A manifest
that is not valid is not even previewed (`Manifest.runOn_generate_of_invalid`).
-/

namespace BuilderGen

/-- The generator of a manifest's records. -/
def Manifest.generator (m : Manifest) : Generator where
  language := m.project.language
  records := Round.lowerManifest m

/-- The round of a manifest after linting and lowering. -/
def Manifest.loweredRound (m : Manifest) : Round :=
  (({ manifest := m } : Round).lint Lint.builtin).lower

namespace Manifest

section Valid

variable {m : Manifest} {path : String} (hvalid : (m.verdict path).isValid = true)
include hvalid

/-- Validating a valid manifest only adds what the lints remark. -/
theorem validate_run_of_isValid {σ : Type} :
    ((Phase.validate Lint.builtin).run { manifest := m } : Effect σ Round) =
      pure (({ manifest := m } : Round).lint Lint.builtin) := by
  have hnone : (({ manifest := m } : Round).lint Lint.builtin).errorCount = 0 := by
    have h := verdict_isValid_iff.mp hvalid
    simpa [Round.hasErrors] using h
  simp [Phase.validate, hnone]

/-- A valid manifest gets through the pipeline. -/
theorem runOn_pipeline {σ : Type} (s : σ) :
    (({} : Pipeline σ).run m).runOn s = (.ok m.loweredRound, s) := by
  simp [Pipeline.run, Pipeline.phases, Pipeline.step, validate_run_of_isValid hvalid, Phase.lower,
    loweredRound]

theorem runOn_generate (stamp : Stamp) (output : String) (dryRun : Bool) (t : FileTree) :
    (m.generate stamp { output, dryRun }).runOn t =
      if dryRun then
        (.ok { project := m.project, warnings := m.loweredRound.details .warning,
               outcome := .preview (m.generator.files stamp) }, t)
      else
        match (m.generator.generate stamp output).runOn t with
        | (.ok paths, t') =>
          (.ok { project := m.project, warnings := m.loweredRound.details .warning,
                 outcome := .written output paths none }, t')
        | (.error failure, t') => (.error (failure.of .generation), t') := by
  have hround : m.loweredRound.generator = (pure m.generator : Filing Generator) := rfl
  rw [generate, Effect.runOn_bind, Effect.runOn_during]
  rw [show generationPipeline { output, dryRun } = {} from rfl, runOn_pipeline hvalid]
  simp only [hround, pure_bind]
  cases dryRun with
  | true => rfl
  | false =>
      simp only [Bool.false_eq_true, if_false, Effect.runOn_bind, Effect.runOn_during]
      rcases (m.generator.generate stamp output).runOn t with ⟨failure | paths, t'⟩ <;> rfl

theorem runOn_clean (output : String) (dryRun : Bool) (t : FileTree) :
    (m.clean output dryRun).runOn t =
      match (m.generator.clean output dryRun).runOn t with
      | (.ok removed, t') =>
        (.ok { dryRun, warnings := m.loweredRound.details .warning, removed }, t')
      | (.error failure, t') => (.error (failure.of (.cleaning output)), t') := by
  have hround : m.loweredRound.generator = (pure m.generator : Filing Generator) := rfl
  rw [clean, Effect.runOn_bind, Effect.runOn_during, runOn_pipeline hvalid]
  simp only [hround, pure_bind, Effect.runOn_bind, Effect.runOn_during]
  rcases (m.generator.clean output dryRun).runOn t with ⟨failure | removed, t'⟩ <;> rfl

end Valid

section Invalid

variable {m : Manifest} {path : String} (hinvalid : (m.verdict path).isValid = false)
include hinvalid

/-- The pipeline refuses a manifest that is not valid, with the number of its errors. Hooks
that do nothing before a phase make no difference. -/
theorem runOn_pipeline_of_invalid {σ : Type} (plugins : List (Plugin σ))
    (hbefore : ∀ plugin ∈ plugins, ∀ name round, plugin.before name round = pure round) (s : σ) :
    (({ plugins } : Pipeline σ).run m).runOn s =
      (.error { cause := .validation (m.verdict path).errors.length }, s) := by
  have hcount : (({ manifest := m } : Round).lint Lint.builtin).errorCount =
      (m.verdict path).errors.length := by
    simp [verdict, Round.details, Round.errorCount]
  have hsome : (m.verdict path).errors.length ≠ 0 := by
    simpa [Verdict.isValid] using hinvalid
  obtain ⟨errors, herrors⟩ := Nat.exists_eq_succ_of_ne_zero hsome
  have hlint : ((Phase.validate Lint.builtin).run { manifest := m } : Effect σ Round) =
      Effect.fail (.validation (m.verdict path).errors.length) := by
    simp only [Phase.validate, hcount, herrors]
  have hhooks : ∀ (name : String) (round : Round),
      plugins.foldlM (fun round plugin => plugin.before name round) round =
        (pure round : Effect σ Round) := by
    intro name round
    induction plugins with
    | nil => rfl
    | cons plugin rest ih =>
        obtain ⟨hplugin, hrest⟩ := List.forall_mem_cons.mp hbefore
        rw [List.foldlM_cons, hplugin, pure_bind]
        exact ih hrest
  simp only [Pipeline.run, Pipeline.phases, List.foldlM_cons, Pipeline.step, hhooks, pure_bind,
    hlint, Effect.runOn_bind, Effect.runOn_fail]

/-- Nothing is generated from a manifest that is not valid, and it is not previewed. -/
theorem runOn_generate_of_invalid (stamp : Stamp) (options : GenerationOptions) (t : FileTree) :
    (m.generate stamp options).runOn t =
      (.error { undertakings := [.pipeline],
                cause := .validation (m.verdict path).errors.length }, t) := by
  have hbefore : ∀ plugin ∈ (generationPipeline options).plugins, ∀ name round,
      plugin.before name round = pure round := by
    intro plugin hplugin name round
    rw [generationPipeline] at hplugin
    split at hplugin
    · rw [List.mem_singleton] at hplugin
      rw [hplugin]
      rfl
    · cases hplugin
  have hpipeline := runOn_pipeline_of_invalid hinvalid _ hbefore t
  rw [generate, Effect.runOn_bind, Effect.runOn_during]
  rw [show generationPipeline options = { plugins := (generationPipeline options).plugins } from rfl,
    hpipeline]
  rfl

/-- Nothing is cleaned for a manifest that is not valid. -/
theorem runOn_clean_of_invalid (output : String) (dryRun : Bool) (t : FileTree) :
    (m.clean output dryRun).runOn t =
      (.error { undertakings := [.pipeline],
                cause := .validation (m.verdict path).errors.length }, t) := by
  have hpipeline := runOn_pipeline_of_invalid hinvalid [] (by simp) t
  rw [clean, Effect.runOn_bind, Effect.runOn_during, hpipeline]
  rfl

end Invalid

/-- The pipeline accepts just the valid manifests. -/
theorem runOn_pipeline_eq_ok_iff {m : Manifest} (path : String) {σ : Type} {s s' : σ}
    {round : Round} : (({} : Pipeline σ).run m).runOn s = (.ok round, s') ↔
      (m.verdict path).isValid = true ∧ round = m.loweredRound ∧ s' = s := by
  cases hvalid : (m.verdict path).isValid with
  | false =>
      have hrefused := runOn_pipeline_of_invalid hvalid [] (by simp) s
      rw [hrefused]
      simp
  | true =>
      rw [runOn_pipeline hvalid]
      simp [eq_comm]

end Manifest
end BuilderGen
