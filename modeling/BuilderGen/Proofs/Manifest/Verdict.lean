import BuilderGen.Proofs.Cleaning

/-!
# BuilderGen.Proofs.Manifest.Verdict

**One verdict for all commands.** The verdict on a manifest comes from linting alone, while
generating and cleaning run the whole pipeline and take the records out of its round. They
agree on every manifest: `Manifest.commands_share_verdict`.

Of a valid manifest the round is always the same one (`Manifest.comesTo_generationPipeline`):
plugins that only watch return the round they were given (`Plugin.Watches`). But a plugin may
fail, and the one that takes snapshots does where they cannot be written
(`unwritable_snapshots_stop`).
-/

namespace BuilderGen

open Effect (ComesTo)

/-! ### Failures to write -/

namespace Filing

theorem comesTo_makeDirectories (path : String) :
    (makeDirectories path).ComesTo (fun _ => True)
      (· = { cause := .createDirectory path }) where
  ok _ := trivial
  error {t t' failure} hrun := by
    rw [runOn_makeDirectories] at hrun
    split at hrun
    · cases hrun
    · cases hrun
      rfl

theorem comesTo_writeThrough (path content : String) :
    (writeThrough path content).ComesTo (fun _ => True) (· = { cause := .write path }) := by
  unfold writeThrough
  refine ComesTo.get.bind fun t _ => ?_
  split
  next t' _ => exact .set t'
  next => exact .fail rfl

/-- Why a file cannot be written atomically. -/
theorem comesTo_writeAtomic (path content : String) :
    (writeAtomic path content).ComesTo (fun _ => True) fun failure =>
      failure ∈ [{ cause := .createDirectory (Path.directoryOf path) },
        { cause := .openFile path }, { cause := .write path }] where
  ok _ := trivial
  error {t t' failure} hrun := by
    rw [runOn_writeAtomic] at hrun
    split at hrun
    · cases hrun
      simp
    · split at hrun
      · split at hrun
        · cases hrun
        · cases hrun
          simp
      · cases hrun
        simp

end Filing

namespace Snapshot

/-- A snapshot is written, or its directory or its file is not. -/
theorem comesTo_write (directory : String) (s : Snapshot) :
    (s.write directory).ComesTo (fun _ => True) fun failure =>
      failure = { cause := .createDirectory directory } ∨
        failure = { cause := .write (Path.join directory (s.phase ++ ".json")) } := by
  unfold write
  refine ((Filing.comesTo_makeDirectories directory).mono fun _ => Or.inl).bind fun _ _ => ?_
  exact (Filing.comesTo_writeThrough _ _).mono fun _ => Or.inr

end Snapshot

/-! ### Plugins that watch -/

section Plugins

variable {σ : Type} {bad : Failure → Prop}

/-- Whatever the hooks of the plugin do outside, they return the round they were given, or
fail in a `bad` way. -/
structure Plugin.Watches (plugin : Plugin σ) (bad : Failure → Prop) : Prop where
  before : ∀ name round, (plugin.before name round).ComesTo (· = round) bad
  after : ∀ name round, (plugin.after name round).ComesTo (· = round) bad

theorem Snapshot.watches_recorder {dump : Snapshot → Effect σ Unit}
    (hdump : ∀ snapshot, (dump snapshot).ComesTo (fun _ => True) bad)
    (remember : Snapshot → σ → σ) : (recorder dump remember).Watches bad where
  before _ _ := .pure rfl
  after name round := by
    have hremember : (modify (remember (capture name round)) : Effect σ Unit).ComesTo
        (fun _ => True) bad := ⟨fun _ => trivial, fun h => nomatch h⟩
    refine (hdump (capture name round)).bind fun _ _ => ?_
    exact hremember.bind fun _ _ => .pure rfl

namespace Pipeline

/-- One hook of every plugin, on a round that they all return. -/
theorem comesTo_hooks {hook : Plugin σ → Round → Effect σ Round} {plugins : List (Plugin σ)}
    {round : Round} (h : ∀ plugin ∈ plugins, (hook plugin round).ComesTo (· = round) bad) :
    (plugins.foldlM (fun round plugin => hook plugin round) round).ComesTo (· = round) bad := by
  induction plugins with
  | nil => exact .pure rfl
  | cons plugin rest ih =>
      obtain ⟨hplugin, hrest⟩ := List.forall_mem_cons.mp h
      rw [List.foldlM_cons]
      refine hplugin.bind fun returned hreturned => ?_
      rw [hreturned]
      exact ih hrest

/-- Between hooks that watch, a phase does what it does alone. -/
theorem comesTo_step {p : Pipeline σ} (h : ∀ plugin ∈ p.plugins, plugin.Watches bad)
    {phase : Phase σ} {round next : Round} (hphase : phase.run round = pure next) :
    (p.step round phase).ComesTo (· = next) bad := by
  unfold step
  refine (comesTo_hooks fun plugin hplugin => (h plugin hplugin).before phase.name round).bind ?_
  rintro _ rfl
  rw [hphase, pure_bind]
  exact comesTo_hooks fun plugin hplugin => (h plugin hplugin).after phase.name next

end Pipeline
end Plugins

/-! ### The commands -/

namespace Failure

/-- Two builders would have the same path, or a builder could not be written. -/
def IsOfBuilder (f : Failure) : Prop :=
  f.undertakings = [.generation] ∧
    ∃ path, f.cause = .collision path ∨ f.cause = .createDirectory path ∨
      f.cause = .openFile path ∨ f.cause = .write path

/-- The directory of the snapshots could not be made, or a snapshot could not be written
there. -/
def IsOfSnapshot (directory : String) (f : Failure) : Prop :=
  f.undertakings = [.pipeline] ∧ (f.cause = .createDirectory directory ∨
    ∃ phase, f.cause = .write (Path.join directory (phase ++ ".json")))

/-- A file below the directory that is cleaned could not be deleted. -/
def IsOfRemoval (directory : String) (f : Failure) : Prop :=
  f.undertakings = [.cleaning directory] ∧ ∃ path, f.cause = .delete path

end Failure

/-- Builders are written whatever is there. -/
theorem Filing.comesTo_writeOutput_always (path content : String) :
    (writeOutput .always path content).ComesTo (fun _ => True) fun failure =>
      failure ∈ [{ cause := .createDirectory (Path.directoryOf path) },
        { cause := .openFile path }, { cause := .write path }] where
  ok _ := trivial
  error {t t' failure} hrun := by
    rw [runOn_writeOutput_always] at hrun
    rcases hwrite : (writeAtomic path content).runOn t with ⟨failure' | _, t1⟩ <;>
      rw [hwrite] at hrun
    · cases hrun
      exact (comesTo_writeAtomic path content).error hwrite
    · cases hrun

theorem Generator.comesTo_generate (g : Generator) (stamp : Stamp) (output : String) :
    (g.generate stamp output).ComesTo (fun _ => True) fun failure =>
      (failure.of .generation).IsOfBuilder := by
  unfold generate
  split
  next path _ => exact .fail ⟨rfl, path, Or.inl rfl⟩
  next =>
    refine (ComesTo.forM fun file _ => ?_).bind fun _ _ => .pure trivial
    refine ((Filing.comesTo_writeOutput_always _ _).mono fun failure hfailure => ?_).bind
      fun _ _ => .pure trivial
    simp only [List.mem_cons, List.not_mem_nil, or_false] at hfailure
    rcases hfailure with rfl | rfl | rfl
    · exact ⟨rfl, _, Or.inr (Or.inl rfl)⟩
    · exact ⟨rfl, _, Or.inr (Or.inr (Or.inl rfl))⟩
    · exact ⟨rfl, _, Or.inr (Or.inr (Or.inr rfl))⟩

theorem Filing.comesTo_removeFile (path : RawPath) :
    (removeFile path).ComesTo (fun _ => True) (· = { cause := .delete path.shown }) := by
  refine ComesTo.get.bind fun t _ => ?_
  split
  next t' _ => exact .set t'
  next => exact .fail rfl

theorem Generator.comesTo_clean (g : Generator) (output : String) (dryRun : Bool) :
    (g.clean output dryRun).ComesTo (fun _ => True) fun failure =>
      (failure.of (.cleaning output)).IsOfRemoval output := by
  refine ComesTo.get.bind fun t _ => ?_
  have hremove : ((t.orphans output g.language.extension g.paths).forM fun o =>
      Filing.removeFile o.fullPath).ComesTo (fun _ => True) fun failure =>
        (failure.of (.cleaning output)).IsOfRemoval output :=
    .forM fun o _ => (Filing.comesTo_removeFile o.fullPath).mono fun failure hfailure => by
      rw [hfailure]
      exact ⟨rfl, _, rfl⟩
  cases dryRun with
  | true => exact .pure trivial
  | false => exact hremove.bind fun _ _ => .pure trivial

/-- Cleaning a tree as a disk holds it always comes back. -/
theorem Generator.exists_clean (g : Generator) (output : String) (dryRun : Bool) {t : FileTree}
    (ht : t.WellFormed) :
    ∃ removed t', (g.clean output dryRun).runOn t = (.ok removed, t') := by
  cases dryRun with
  | true => exact ⟨_, _, rfl⟩
  | false => exact ⟨_, _, Filing.runOn_clean ht output g.language.extension g.paths⟩

/-- Every diagnostic has one of the three severities. -/
theorem Round.perm_ofSeverity (r : Round) :
    (r.ofSeverity .error ++ r.ofSeverity .warning ++ r.ofSeverity .info).Perm r.diagnostics := by
  unfold ofSeverity
  induction r.diagnostics with
  | nil => rfl
  | cons d rest ih =>
      have hrest := ih.cons d
      cases hseverity : d.severity with
      | error => simpa [hseverity] using hrest
      | warning =>
          refine .trans ?_ hrest
          simp [hseverity]
      | info =>
          refine .trans ?_ hrest
          simp only [List.filter_cons, hseverity, reduceCtorEq, beq_iff_eq, if_false, if_true]
          exact List.perm_middle

namespace Manifest

section Valid

variable {m : Manifest} {path : String} (hvalid : (m.verdict path).isValid = true)
include hvalid

/-- With or without snapshots, the round of a valid manifest is the one that was linted and
lowered, unless a snapshot cannot be written. -/
theorem comesTo_generationPipeline (options : GenerationOptions) :
    ((generationPipeline options).run m).ComesTo (· = m.loweredRound) fun failure =>
      options.visualize = true ∧
        (failure.of .pipeline).IsOfSnapshot (snapshotDirectory options.output) := by
  have hwatches : ∀ plugin ∈ (generationPipeline options).plugins, plugin.Watches fun failure =>
      options.visualize = true ∧
        (failure.of .pipeline).IsOfSnapshot (snapshotDirectory options.output) := by
    intro plugin hplugin
    rw [generationPipeline] at hplugin
    split at hplugin
    next hvisualize =>
      rw [List.mem_singleton] at hplugin
      rw [hplugin]
      refine Snapshot.watches_recorder (fun snapshot => ?_) _
      refine (Snapshot.comesTo_write _ snapshot).mono fun failure hfailure => ⟨hvisualize, ?_⟩
      rcases hfailure with rfl | rfl
      · exact ⟨rfl, Or.inl rfl⟩
      · exact ⟨rfl, Or.inr ⟨snapshot.phase, rfl⟩⟩
    next => cases hplugin
  refine (Pipeline.comesTo_step hwatches (validate_run_of_isValid hvalid)).bind ?_
  rintro _ rfl
  have hlower : (Phase.lower.run (({ manifest := m } : Round).lint Lint.builtin) : Filing Round) =
      pure m.loweredRound := rfl
  refine (Pipeline.comesTo_step hwatches hlower).bind ?_
  rintro _ rfl
  exact .pure rfl

theorem comesTo_generate (stamp : Stamp) (options : GenerationOptions) :
    (m.generate stamp options).ComesTo
      (fun generation => generation.warnings = (m.verdict path).warnings) fun failure =>
        failure.IsOfBuilder ∨ options.visualize = true ∧
          failure.IsOfSnapshot (snapshotDirectory options.output) := by
  have hround : m.loweredRound.generator = (pure m.generator : Filing Generator) := rfl
  unfold generate
  refine ((comesTo_generationPipeline hvalid options).mono fun _ => Or.inr).during.bind ?_
  rintro _ rfl
  rw [hround, pure_bind]
  split
  next => exact .pure rfl
  next =>
    refine ((m.generator.comesTo_generate stamp options.output).mono fun _ => Or.inl).during.bind ?_
    exact fun _ _ => .pure rfl

theorem comesTo_clean (output : String) (dryRun : Bool) :
    (m.clean output dryRun).ComesTo
      (fun cleaning => cleaning.warnings = (m.verdict path).warnings) (·.IsOfRemoval output) where
  ok {t t' cleaning} hrun := by
    rw [runOn_clean hvalid] at hrun
    rcases hclean : (m.generator.clean output dryRun).runOn t with ⟨failure | removed, t1⟩ <;>
      rw [hclean] at hrun <;> cases hrun
    rfl
  error {t t' failure} hrun := by
    rw [runOn_clean hvalid] at hrun
    rcases hclean : (m.generator.clean output dryRun).runOn t with ⟨failure' | removed, t1⟩ <;>
      rw [hclean] at hrun <;> cases hrun
    exact (m.generator.comesTo_clean output dryRun).error hclean

end Valid

/-- **The commands share one verdict.** A manifest is valid if and only if the pipeline
accepts it, and an invalid one is refused with the number of the errors in the verdict by
all. A valid one is lowered to as many records as the verdict counts; its warnings are those
that generating and cleaning come back with. Cleaning fails only at a file that cannot be
deleted, which is none in a tree as a disk holds it, and generating only at a builder, or at a
snapshot if there are to be any.

The verdict holds what the lints remarked, each remark once, in order of their severity and
then as they were recorded. -/
theorem commands_share_verdict (m : Manifest) (path : String) :
    let verdict := m.verdict path
    let recorded := Lint.builtin.flatMap fun lint => lint.check m
    (∀ (σ : Type) (s : σ), verdict.isValid = true ↔
      ∃ round s', (({} : Pipeline σ).run m).runOn s = (.ok round, s')) ∧
    (verdict.isValid = false →
      ∃ failure : Failure, failure.chain =
          ["Validation failed with " ++ toString verdict.errors.length ++ " error(s)"] ∧
        (∀ (σ : Type) (s : σ), (({} : Pipeline σ).run m).runOn s = (.error failure, s)) ∧
        (∀ stamp options t,
          (m.generate stamp options).runOn t = (.error (failure.of .pipeline), t)) ∧
        ∀ output dryRun t, (m.clean output dryRun).runOn t = (.error (failure.of .pipeline), t)) ∧
    (verdict.isValid = true →
      ∃ round records, (∀ (σ : Type) (s : σ),
          (({} : Pipeline σ).run m).runOn s = (.ok round, s)) ∧
        round.diagnostics = recorded ∧
        round.records = some records ∧ records.length = verdict.buildable ∧
        (∀ stamp options, (m.generate stamp options).ComesTo
          (fun generation => generation.warnings = verdict.warnings) fun failure =>
            failure.IsOfBuilder ∨ options.visualize = true ∧
              failure.IsOfSnapshot (snapshotDirectory options.output)) ∧
        ∀ output dryRun,
          (m.clean output dryRun).ComesTo (fun cleaning => cleaning.warnings = verdict.warnings)
            (·.IsOfRemoval output) ∧
          ∀ t : FileTree, t.WellFormed →
            ∃ cleaning t', (m.clean output dryRun).runOn t = (.ok cleaning, t')) ∧
    verdict.errors = (recorded.filter (·.severity == .error)).map Diagnostic.detail ∧
    verdict.warnings = (recorded.filter (·.severity == .warning)).map Diagnostic.detail ∧
    verdict.infos = (recorded.filter (·.severity == .info)).map Diagnostic.detail ∧
    (verdict.errors ++ verdict.warnings ++ verdict.infos).Perm (recorded.map Diagnostic.detail) := by
  intro verdict recorded
  refine ⟨fun σ s => ?_, fun hinvalid => ?_, fun hvalid => ?_, rfl, rfl, rfl, ?_⟩
  · simp only [runOn_pipeline_eq_ok_iff path]
    exact ⟨fun hvalid => ⟨_, _, hvalid, rfl, rfl⟩, fun ⟨_, _, hvalid, _⟩ => hvalid⟩
  · exact ⟨_, rfl, fun σ s => runOn_pipeline_of_invalid hinvalid [] (by simp) s,
      runOn_generate_of_invalid hinvalid, runOn_clean_of_invalid hinvalid⟩
  · refine ⟨m.loweredRound, Round.lowerManifest m, fun σ s => runOn_pipeline hvalid s, rfl, rfl, ?_,
      comesTo_generate hvalid, fun output dryRun =>
        ⟨comesTo_clean hvalid output dryRun, fun t ht => ?_⟩⟩
    · rw [Round.lowerManifest_eq, List.length_map]
      rfl
    · obtain ⟨removed, t', hclean⟩ := m.generator.exists_clean output dryRun ht
      rw [runOn_clean hvalid, hclean]
      exact ⟨_, _, rfl⟩
  · have hperm := (({ manifest := m } : Round).lint Lint.builtin).perm_ofSeverity.map Diagnostic.detail
    rwa [List.map_append, List.map_append] at hperm

/-- An output directory with a file where the directory of the snapshots would be made. -/
def blockedSnapshots : FileTree :=
  (({} : FileTree).put ["out"] .directory).put ["out", ".rebar"] (.file "file".toUTF8)

set_option maxRecDepth 100000 in
/-- Generating from a valid manifest fails in the pipeline where its snapshots cannot be
written. -/
theorem unwritable_snapshots_stop :
    ∃ text m, parse text = .ok m ∧ (m.verdict "rebar.toml").isValid = true ∧
      ∃ failure, failure.chain = ["pipeline failed", "failed to create directory 'out/.rebar/debug'"] ∧
        (m.generate ⟨2024, 5, 1, 12, 0, 0, 0⟩
            { output := "out", dryRun := true, visualize := true }).runOn blockedSnapshots =
          (.error failure, blockedSnapshots) := by
  refine ⟨_, withKey, parse_withKey, by rfl,
    { undertakings := [.pipeline], cause := .createDirectory "out/.rebar/debug" }, by decide, ?_⟩
  rfl

end Manifest
end BuilderGen
