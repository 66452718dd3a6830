import BuilderGen.Pipeline
import BuilderGen.Proofs.Effect

/-!
# BuilderGen.Proofs.Pipeline.Schedule

**The schedule of a pipeline**: all that a run calls if nothing fails, phases and hooks in
their order. A run calls a prefix of it, and each call starts from what the one before left
(`Pipeline.run_follows_schedule`).

What is called is seen from outside: `watchedRun` runs the same phases between the same
hooks, each of them wrapped so that the call is written down before it is made. Both runs
go through the schedule (`foldlM_rewired`), and what is written down on the way is said by
`Performed`, by induction on the actions that are still to come.
-/

namespace BuilderGen

variable {σ τ : Type}

/-! ### The schedule -/

/-- Who is called: a phase, or a hook of a plugin. Phases and plugins are counted from
zero, and a hook is told the name of the phase it is called for. -/
inductive Callee
  | before (plugin : Nat) (phase : String)
  | phase (index : Nat)
  | after (plugin : Nat) (phase : String)
  deriving DecidableEq, Repr

/-- What is called, and what it does. -/
structure Action (σ : Type) where
  callee : Callee
  run : Round → Effect σ Round

namespace Pipeline

/-- What a phase calls: the hooks before it, the phase, and the hooks after it. -/
def actionsOf (plugins : List (Plugin σ)) (phase : Phase σ) (index : Nat) : List (Action σ) :=
  (plugins.zipIdx.map fun (plugin, i) => ⟨.before i phase.name, plugin.before phase.name⟩) ++
    ⟨.phase index, phase.run⟩ ::
      plugins.zipIdx.map fun (plugin, i) => ⟨.after i phase.name, plugin.after phase.name⟩

/-- All that a run calls if nothing fails, in order. -/
def schedule (p : Pipeline σ) : List (Action σ) :=
  p.phases.zipIdx.flatMap fun (phase, i) => actionsOf p.plugins phase i

end Pipeline

/-! ### Watching a run -/

/-- A call: what was called, and the round and the state it was called on. -/
structure Call (σ : Type) where
  action : Action σ
  round : Round
  state : σ

/-- What a call comes to. -/
def Call.outcome (c : Call σ) : Except Failure Round × σ := (c.action.run c.round).runOn c.state

/-- The action, with its call written down behind those before it. -/
def Action.watch (a : Action σ) (round : Round) : Effect (List (Call σ) × σ) Round :=
  fun (calls, s) =>
    let (outcome, s') := (a.run round).runOn s
    (outcome, calls ++ [⟨a, round, s⟩], s')

theorem Action.runOn_watch (a : Action σ) (round : Round) (calls : List (Call σ)) (s : σ) :
    (a.watch round).runOn (calls, s) =
      (((a.run round).runOn s).1, calls ++ [⟨a, round, s⟩], ((a.run round).runOn s).2) := rfl

namespace Pipeline

/-- The plugins with their hooks passed through `f`. -/
def rewirePlugins (f : Action σ → Round → Effect τ Round) (plugins : List (Plugin σ)) :
    List (Plugin τ) :=
  plugins.zipIdx.map fun (plugin, i) =>
    { before := fun phase => f ⟨.before i phase, plugin.before phase⟩
      after := fun phase => f ⟨.after i phase, plugin.after phase⟩ }

/-- The phases passed through `f`. -/
def rewirePhases (f : Action σ → Round → Effect τ Round) (phases : List (Phase σ)) :
    List (Phase τ) :=
  phases.zipIdx.map fun (phase, i) => { name := phase.name, run := f ⟨.phase i, phase.run⟩ }

/-- Runs a round for a manifest as `run` does, with every call written down. -/
def watchedRun (p : Pipeline σ) (manifest : Manifest) : Effect (List (Call σ) × σ) Round :=
  (rewirePhases Action.watch p.phases).foldlM
    ({ plugins := rewirePlugins Action.watch p.plugins } : Pipeline _).step { manifest }

/-! ### Both runs go through the schedule -/

theorem rewirePlugins_run (plugins : List (Plugin σ)) :
    rewirePlugins Action.run plugins = plugins := by
  rw [rewirePlugins]
  exact List.zipIdx_map_fst 0 plugins

theorem rewirePhases_run (phases : List (Phase σ)) : rewirePhases Action.run phases = phases := by
  rw [rewirePhases]
  exact List.zipIdx_map_fst 0 phases

/-- A step calls the actions of its phase, one after another. -/
theorem step_rewired (f : Action σ → Round → Effect τ Round) (plugins : List (Plugin σ))
    (phase : Phase σ) (index : Nat) (round : Round) :
    ({ plugins := rewirePlugins f plugins } : Pipeline τ).step round
        { name := phase.name, run := f ⟨.phase index, phase.run⟩ } =
      (actionsOf plugins phase index).foldlM (fun round a => f a round) round := by
  simp only [step, actionsOf, rewirePlugins, List.foldlM_append, List.foldlM_cons, List.foldlM_map]

/-- Steps through rewired phases between rewired hooks go through the schedule. -/
theorem foldlM_rewired (f : Action σ → Round → Effect τ Round) (p : Pipeline σ) (round : Round) :
    (rewirePhases f p.phases).foldlM
        ({ plugins := rewirePlugins f p.plugins } : Pipeline τ).step round =
      p.schedule.foldlM (fun round a => f a round) round := by
  rw [rewirePhases, schedule]
  induction p.phases.zipIdx generalizing round with
  | nil => rfl
  | cons phase phases ih =>
      rw [List.map_cons, List.foldlM_cons, List.flatMap_cons, List.foldlM_append, step_rewired]
      simp only [ih]

theorem run_eq_foldlM_schedule (p : Pipeline σ) (m : Manifest) :
    p.run m = p.schedule.foldlM (fun round a => a.run round) { manifest := m } := by
  rw [← foldlM_rewired, rewirePhases_run, rewirePlugins_run]
  rfl

/-- Every action of a schedule is a phase, or a hook of a plugin. -/
theorem exists_of_mem_schedule {p : Pipeline σ} {a : Action σ} (ha : a ∈ p.schedule) :
    (∃ i phase, p.phases[i]? = some phase ∧ a = ⟨.phase i, phase.run⟩) ∨
    ∃ i plugin name, p.plugins[i]? = some plugin ∧
      (a = ⟨.before i name, plugin.before name⟩ ∨ a = ⟨.after i name, plugin.after name⟩) := by
  rw [schedule, List.mem_flatMap] at ha
  obtain ⟨⟨phase, i⟩, hphase, ha⟩ := ha
  rw [List.mem_zipIdx_iff_getElem?] at hphase
  simp only [actionsOf, List.mem_append, List.mem_map, List.mem_cons] at ha
  rcases ha with ⟨⟨plugin, k⟩, hplugin, rfl⟩ | rfl | ⟨⟨plugin, k⟩, hplugin, rfl⟩
  · exact Or.inr ⟨k, plugin, _, List.mem_zipIdx_iff_getElem?.mp hplugin, Or.inl rfl⟩
  · exact Or.inl ⟨i, phase, hphase, rfl⟩
  · exact Or.inr ⟨k, plugin, _, List.mem_zipIdx_iff_getElem?.mp hplugin, Or.inr rfl⟩

theorem schedule_ne_nil (p : Pipeline σ) : p.schedule ≠ [] := by
  simp [schedule, phases, actionsOf]

end Pipeline

/-! ### What is called -/

/-- Performing actions one after another up to the first that fails: the calls that are
made, what they come to, and the state they leave. -/
inductive Performed : List (Action σ) → Round → σ → List (Call σ) → Except Failure Round → σ → Prop
  | done (round : Round) (s : σ) : Performed [] round s [] (.ok round) s
  | next {a : Action σ} {rest : List (Action σ)} {round round' : Round} {s s' s'' : σ}
      {calls : List (Call σ)} {outcome : Except Failure Round} :
      (a.run round).runOn s = (.ok round', s') → Performed rest round' s' calls outcome s'' →
      Performed (a :: rest) round s (⟨a, round, s⟩ :: calls) outcome s''
  | failed {a : Action σ} {rest : List (Action σ)} {round : Round} {s s' : σ} {failure : Failure} :
      (a.run round).runOn s = (.error failure, s') →
      Performed (a :: rest) round s [⟨a, round, s⟩] (.error failure) s'

namespace Performed

/-- Actions that are watched are performed, and so are they without the watching. -/
theorem exists_of_watch (actions : List (Action σ)) :
    ∀ (round : Round) (before : List (Call σ)) (s : σ), ∃ calls outcome s',
      (actions.foldlM (fun round (a : Action σ) => a.watch round) round).runOn (before, s) =
        (outcome, before ++ calls, s') ∧
      (actions.foldlM (fun round (a : Action σ) => a.run round) round).runOn s = (outcome, s') ∧
      Performed actions round s calls outcome s' := by
  induction actions with
  | nil =>
      intro round before s
      exact ⟨[], .ok round, s, by simp, by simp, .done round s⟩
  | cons a rest ih =>
      intro round before s
      simp only [List.foldlM_cons, Effect.runOn_bind, Action.runOn_watch]
      rcases hrun : (a.run round).runOn s with ⟨failure | round', s'⟩
      · exact ⟨[⟨a, round, s⟩], .error failure, s', rfl, rfl, .failed hrun⟩
      · -- the call that was made stands before those that follow
        obtain ⟨calls, outcome, s'', hwatched, hplain, hperformed⟩ :=
          ih round' (before ++ [⟨a, round, s⟩]) s'
        rw [List.append_assoc] at hwatched
        exact ⟨⟨a, round, s⟩ :: calls, outcome, s'', hwatched, hplain, .next hrun hperformed⟩

variable {actions : List (Action σ)} {round : Round} {s s' : σ} {calls : List (Call σ)}
  {outcome : Except Failure Round}

/-- The calls are made in the order of the actions. -/
theorem isPrefix (h : Performed actions round s calls outcome s') :
    calls.map Call.action <+: actions := by
  induction h with
  | done => exact List.prefix_refl []
  | next _ _ ih => exact (List.prefix_cons_inj _).mpr ih
  | failed => exact List.cons_prefix_cons.mpr ⟨rfl, List.nil_prefix⟩

/-- The first call starts from the beginning. -/
theorem head (h : Performed actions round s calls outcome s') :
    ∀ c, calls.head? = some c → c.round = round ∧ c.state = s := by
  intro c hc
  cases h with
  | done => cases hc
  | next => cases hc; exact ⟨rfl, rfl⟩
  | failed => cases hc; exact ⟨rfl, rfl⟩

/-- Every call but the last one succeeded, and the next one starts from what it left. -/
theorem chain (h : Performed actions round s calls outcome s') :
    ∀ (i : Nat) (c next : Call σ), calls[i]? = some c → calls[i + 1]? = some next →
      c.outcome = (.ok next.round, next.state) := by
  induction h with
  | done => intro i c next hc; cases hc
  | failed => intro i c next _ hnext; cases hnext
  | next hrun hrest ih =>
      intro i c next hc hnext
      rw [List.getElem?_cons_succ] at hnext
      cases i with
      | succ i => exact ih i c next hc hnext
      | zero =>
          rw [List.getElem?_cons_zero, Option.some.injEq] at hc
          obtain ⟨hround, hstate⟩ := hrest.head next (by rw [List.head?_eq_getElem?, hnext])
          rw [← hc, hround, hstate]
          exact hrun

/-- The last call came to what all came to; if it succeeded, nothing was left to call. -/
theorem last (h : Performed actions round s calls outcome s') :
    (calls = [] ∧ actions = []) ∨
      ∃ c, calls.getLast? = some c ∧ c.outcome = (outcome, s') ∧
        ∀ round', outcome = .ok round' → calls.map Call.action = actions := by
  induction h with
  | done => exact Or.inl ⟨rfl, rfl⟩
  | failed hrun => exact Or.inr ⟨_, rfl, hrun, fun _ hok => nomatch hok⟩
  | next hrun hrest ih =>
      rcases ih with ⟨rfl, rfl⟩ | ⟨c, hlast, hc, hall⟩
      · cases hrest
        exact Or.inr ⟨_, rfl, hrun, fun _ _ => rfl⟩
      · refine Or.inr ⟨c, ?_, hc, fun round' hok => ?_⟩
        · rw [List.getLast?_cons, hlast]
          rfl
        · rw [List.map_cons, hall round' hok]

end Performed

namespace Pipeline

/-- **A run follows its schedule.** Its calls are a prefix of the schedule, the first one
made on the fresh round and each other one on what the one before left. The run succeeds
with the round that the last call left exactly if the whole schedule was called and the
last call succeeded; it fails with the failure of its last call exactly if that one
failed. All calls before the last one succeeded. -/
theorem run_follows_schedule (p : Pipeline σ) (m : Manifest) (s : σ) :
    ∃ calls outcome s',
      (p.watchedRun m).runOn ([], s) = (outcome, calls, s') ∧
      (p.run m).runOn s = (outcome, s') ∧
      calls.map Call.action <+: p.schedule ∧
      (∀ c, calls.head? = some c → c.round = { manifest := m } ∧ c.state = s) ∧
      (∀ (i : Nat) (c next : Call σ), calls[i]? = some c → calls[i + 1]? = some next →
        c.outcome = (.ok next.round, next.state)) ∧
      (∀ round, outcome = .ok round ↔
        calls.map Call.action = p.schedule ∧
          ∃ c, calls.getLast? = some c ∧ c.outcome = (.ok round, s')) ∧
      (∀ failure, outcome = .error failure ↔
        ∃ c, calls.getLast? = some c ∧ c.outcome = (.error failure, s')) := by
  obtain ⟨calls, outcome, s', hwatched, hplain, hperformed⟩ :=
    Performed.exists_of_watch p.schedule { manifest := m } [] s
  refine ⟨calls, outcome, s', ?_, ?_, hperformed.isPrefix, hperformed.head, hperformed.chain,
    ?_, ?_⟩
  · rw [watchedRun, foldlM_rewired]
    exact hwatched
  · rw [run_eq_foldlM_schedule]
    exact hplain
  -- the schedule is never empty, so there was a last call
  all_goals obtain ⟨c, hlast, hc, hall⟩ :=
    hperformed.last.resolve_left fun h => p.schedule_ne_nil h.2
  · refine fun round => ⟨fun hok => ⟨hall round hok, c, hlast, by rw [hc, hok]⟩, fun h => ?_⟩
    obtain ⟨-, c', hlast', hc'⟩ := h
    obtain rfl := Option.some.inj (hlast.symm.trans hlast')
    exact congrArg Prod.fst (hc.symm.trans hc')
  · refine fun failure => ⟨fun hfail => ⟨c, hlast, by rw [hc, hfail]⟩, fun h => ?_⟩
    obtain ⟨c', hlast', hc'⟩ := h
    obtain rfl := Option.some.inj (hlast.symm.trans hlast')
    exact congrArg Prod.fst (hc.symm.trans hc')

end Pipeline
end BuilderGen
