import BuilderGen.Manifest.Load
import BuilderGen.Proofs.Lint
import BuilderGen.Proofs.Pipeline.Schedule

/-!
# BuilderGen.Proofs.Pipeline.Errors

**Errors in the diagnostics of a round.** Validating is the only phase that looks at them:
it fails if there is an error, whoever recorded it (`Phase.runOn_validate`), so that no
error is there when it has succeeded. Lowering records nothing. An error behind validation
was therefore brought in by a hook or by a phase behind lowering
(`Performed.exists_bringsError`), and it stops nothing: the next action is called, or the
round is returned with it (`Performed.passes_on`). `Pipeline.errors_behind_validation` says
both of every run.
-/

namespace BuilderGen

variable {σ : Type}

/-! ### The phases that are always there -/

namespace Round

@[simp] theorem hasErrors_lower (r : Round) : r.lower.hasErrors = r.hasErrors := rfl

end Round

namespace Phase

/-- Validating fails if there are errors then, and else leaves the remarks of the lints. -/
theorem runOn_validate (lints : List Lint) (round : Round) (s : σ) :
    ((validate lints).run round).runOn s =
      if (round.lint lints).hasErrors then
        (.error { cause := .validation (round.lint lints).errorCount }, s)
      else (.ok (round.lint lints), s) := by
  unfold Round.hasErrors
  cases h : (round.lint lints).errorCount <;> simp [validate, h]

theorem runOn_lower (round : Round) (s : σ) : (lower.run round).runOn s = (.ok round.lower, s) := rfl

end Phase

/-! ### Where the phases stand in a schedule -/

namespace Pipeline

/-- An action that is called as a phase does what that phase does. -/
theorem run_of_mem_schedule {p : Pipeline σ} {a : Action σ} (ha : a ∈ p.schedule) {k : Nat}
    (hk : a.callee = .phase k) : ∃ phase, p.phases[k]? = some phase ∧ a.run = phase.run := by
  rcases exists_of_mem_schedule ha with ⟨i, phase, hphase, rfl⟩ | ⟨_, _, _, -, rfl | rfl⟩
  · cases hk
    exact ⟨phase, hphase, rfl⟩
  · cases hk
  · cases hk

/-- Validating comes behind one hook of every plugin. -/
theorem schedule_validate (p : Pipeline σ) :
    p.schedule[p.plugins.length]? = some ⟨.phase 0, p.validate.run⟩ := by
  simp [schedule, phases, actionsOf]

end Pipeline

/-! ### Calls and errors -/

namespace Call

/-- The call succeeds and leaves a round with an error. -/
def LeavesError (c : Call σ) : Prop :=
  ∃ round s, c.outcome = (.ok round, s) ∧ round.hasErrors = true

/-- The call leaves an error in a round that had none. -/
def BringsError (c : Call σ) : Prop := c.round.hasErrors = false ∧ c.LeavesError

theorem not_leavesError_of_validate {c : Call σ} {lints : List Lint}
    (h : c.action.run = (Phase.validate lints).run) : ¬ c.LeavesError := by
  rintro ⟨round, s, hround, herror⟩
  rw [outcome, h, Phase.runOn_validate] at hround
  split at hround
  · cases hround
  next hnone =>
      cases hround
      exact hnone herror

theorem not_bringsError_of_lower {c : Call σ} (h : c.action.run = (Phase.lower (σ := σ)).run) :
    ¬ c.BringsError := by
  rintro ⟨hnone, round, s, hround, herror⟩
  rw [outcome, h, Phase.runOn_lower] at hround
  cases hround
  rw [Round.hasErrors_lower, hnone] at herror
  cases herror

end Call

namespace Performed

variable {actions : List (Action σ)} {start : Round} {s s' : σ} {calls : List (Call σ)}
  {outcome : Except Failure Round}

/-- What is called is what the list of actions has at its place. -/
theorem getElem?_action (h : Performed actions start s calls outcome s') {i : Nat} {c : Call σ}
    (hc : calls[i]? = some c) : actions[i]? = some c.action := by
  obtain ⟨rest, hrest⟩ := h.isPrefix
  have hi : i < (calls.map Call.action).length := by
    rw [List.length_map]
    exact (List.getElem?_eq_some_iff.mp hc).1
  rw [← hrest, List.getElem?_append_left hi, List.getElem?_map, hc, Option.map_some]

/-- A call that no other follows came to what all came to. -/
theorem outcome_of_getElem?_succ (h : Performed actions start s calls outcome s') {i : Nat}
    {c : Call σ} (hc : calls[i]? = some c) (hlast : calls[i + 1]? = none) :
    calls.length = i + 1 ∧ c.outcome = (outcome, s') ∧
      ∀ round, outcome = .ok round → calls.map Call.action = actions := by
  obtain ⟨hi, -⟩ := List.getElem?_eq_some_iff.mp hc
  have hlength : calls.length = i + 1 := by
    have hle := List.getElem?_eq_none_iff.mp hlast
    omega
  rcases h.last with ⟨rfl, -⟩ | ⟨d, hd, houtcome, hall⟩
  · cases hc
  · rw [List.getLast?_eq_getElem?, hlength, Nat.add_sub_cancel, hc] at hd
    cases hd
    exact ⟨hlength, houtcome, hall⟩

/-- A call that fails is the last one, and what all came to is its failure. -/
theorem outcome_of_error (h : Performed actions start s calls outcome s') {i : Nat} {c : Call σ}
    (hc : calls[i]? = some c) {failure : Failure} (hfail : c.outcome.1 = .error failure) :
    calls.length = i + 1 ∧ outcome = .error failure := by
  have hlast : calls[i + 1]? = none := by
    rw [Option.eq_none_iff_forall_ne_some]
    intro next hnext
    rw [h.chain i c next hc hnext] at hfail
    cases hfail
  obtain ⟨hlength, houtcome, -⟩ := h.outcome_of_getElem?_succ hc hlast
  rw [houtcome] at hfail
  exact ⟨hlength, hfail⟩

/-- An error that a call leaves stops nothing: the next action is called on it, or, if there
is none, the round comes out with it. -/
theorem passes_on (h : Performed actions start s calls outcome s') {i : Nat} {c : Call σ}
    (hc : calls[i]? = some c) (herror : c.LeavesError) :
    (∃ next, calls[i + 1]? = some next ∧ actions[i + 1]? = some next.action ∧
        next.round.hasErrors = true) ∨
      actions.length = i + 1 ∧ ∃ round, outcome = .ok round ∧ round.hasErrors = true := by
  obtain ⟨round, t, hround, hhas⟩ := herror
  cases hnext : calls[i + 1]? with
  | some next =>
      have hchain := h.chain i c next hc hnext
      rw [hround] at hchain
      cases hchain
      exact Or.inl ⟨next, rfl, h.getElem?_action hnext, hhas⟩
  | none =>
      obtain ⟨hlength, houtcome, hall⟩ := h.outcome_of_getElem?_succ hc hnext
      have hok : outcome = .ok round := congrArg Prod.fst (houtcome.symm.trans hround)
      refine Or.inr ⟨?_, round, hok, hhas⟩
      rw [← hall round hok, List.length_map, hlength]

/-- Behind a call that leaves no error, an error has been brought in by one of the calls that
followed. -/
theorem exists_bringsError (h : Performed actions start s calls outcome s') {i : Nat} {c : Call σ}
    (hc : calls[i]? = some c) (hclean : ¬ c.LeavesError) (n : Nat) :
    ∀ d, calls[i + n]? = some d → d.LeavesError →
      ∃ j c', i < j ∧ j ≤ i + n ∧ calls[j]? = some c' ∧ c'.BringsError := by
  -- back from the call that leaves an error to the first one that does
  induction n with
  | zero =>
      intro d hd herror
      obtain rfl := Option.some.inj (hc.symm.trans hd)
      exact absurd herror hclean
  | succ n ih =>
      intro d hd herror
      by_cases hfirst : d.round.hasErrors = true
      · -- the round had the error already, so the call before left it
        have hlt : i + n < calls.length := by
          have hle := (List.getElem?_eq_some_iff.mp hd).1
          omega
        have hchain := h.chain (i + n) _ d (List.getElem?_eq_getElem hlt) hd
        obtain ⟨j, c', hij, hj, hc', hbrings⟩ :=
          ih _ (List.getElem?_eq_getElem hlt) ⟨d.round, d.state, hchain, hfirst⟩
        exact ⟨j, c', hij, by omega, hc', hbrings⟩
      · exact ⟨i + (n + 1), d, by omega, Nat.le_refl _, hd, Bool.eq_false_iff.mpr hfirst, herror⟩

/-- A run performs its schedule. -/
theorem exists_of_run (p : Pipeline σ) (m : Manifest) (s : σ) :
    ∃ calls outcome s', (p.watchedRun m).runOn ([], s) = (outcome, calls, s') ∧
      (p.run m).runOn s = (outcome, s') ∧
      Performed p.schedule { manifest := m } s calls outcome s' := by
  obtain ⟨calls, outcome, s', hwatched, hplain, hperformed⟩ :=
    exists_of_watch p.schedule { manifest := m } [] s
  refine ⟨calls, outcome, s', ?_, ?_, hperformed⟩
  · rw [Pipeline.watchedRun, Pipeline.foldlM_rewired]
    exact hwatched
  · rw [Pipeline.run_eq_foldlM_schedule]
    exact hplain

end Performed

namespace Pipeline

section Lints

variable {p : Pipeline σ} {lints : List Lint} {start : Round} {s s' : σ} {calls : List (Call σ)}
  {outcome : Except Failure Round}

/-- Behind one hook of every plugin, the round is validated. -/
theorem action_of_validate (hp : p.validate = .validate lints)
    (h : Performed p.schedule start s calls outcome s') {c : Call σ}
    (hc : calls[p.plugins.length]? = some c) :
    c.action = ⟨.phase 0, (Phase.validate lints).run⟩ := by
  rw [← hp]
  exact Option.some.inj ((h.getElem?_action hc).symm.trans p.schedule_validate)

/-- Neither validating nor lowering brings an error into a round. -/
theorem callee_of_bringsError (hp : p.validate = .validate lints)
    (h : Performed p.schedule start s calls outcome s') {i : Nat} {c : Call σ}
    (hc : calls[i]? = some c) (hbrings : c.BringsError) :
    c.action.callee ≠ .phase 0 ∧ c.action.callee ≠ .phase 1 := by
  have hmem := List.mem_of_getElem? (h.getElem?_action hc)
  refine ⟨fun hcallee => ?_, fun hcallee => ?_⟩
  · obtain ⟨phase, hphase, hrun⟩ := run_of_mem_schedule hmem hcallee
    cases hphase
    exact Call.not_leavesError_of_validate (hrun.trans (by rw [hp])) hbrings.2
  · obtain ⟨phase, hphase, hrun⟩ := run_of_mem_schedule hmem hcallee
    cases hphase
    exact Call.not_bringsError_of_lower hrun hbrings

/-- An error that is there behind validation was brought in behind validation. -/
theorem exists_of_leavesError (hp : p.validate = .validate lints)
    (h : Performed p.schedule start s calls outcome s') {i : Nat} {c : Call σ}
    (hc : calls[i]? = some c) (hi : p.plugins.length ≤ i) (herror : c.LeavesError) :
    ∃ j c', p.plugins.length < j ∧ j ≤ i ∧ calls[j]? = some c' ∧ c'.BringsError ∧
      c'.action.callee ≠ .phase 0 ∧ c'.action.callee ≠ .phase 1 := by
  obtain ⟨n, rfl⟩ := Nat.exists_eq_add_of_le hi
  obtain ⟨hlt, -⟩ := List.getElem?_eq_some_iff.mp hc
  have hv := List.getElem?_eq_getElem (l := calls) (i := p.plugins.length) (by omega)
  have hclean := Call.not_leavesError_of_validate (by rw [action_of_validate hp h hv])
  obtain ⟨j, c', hj, hle, hc', hbrings⟩ := h.exists_bringsError hv hclean n c hc herror
  exact ⟨j, c', hj, hle, hc', hbrings, callee_of_bringsError hp h hc' hbrings⟩

/-- The last call of a run that succeeds stands behind validation. -/
theorem exists_last (h : Performed p.schedule start s calls outcome s') {round : Round}
    (hok : outcome = .ok round) :
    ∃ i c, p.plugins.length ≤ i ∧ calls[i]? = some c ∧ c.outcome = (.ok round, s') := by
  rcases h.last with ⟨-, hnil⟩ | ⟨c, hlast, hc, hall⟩
  · exact absurd hnil p.schedule_ne_nil
  · obtain ⟨hbound, -⟩ := List.getElem?_eq_some_iff.mp p.schedule_validate
    rw [← hall round hok, List.length_map] at hbound
    rw [List.getLast?_eq_getElem?] at hlast
    exact ⟨_, c, by omega, hlast, by rw [hc, hok]⟩

end Lints

/-- **Errors stop a round where it is validated, and nowhere else.** Validating fails if an
error is in the round then, recorded by a lint or by a hook before it, and nothing is
called any more. So behind it, an error that a call leaves or that the run returns was
brought into the round by a hook, or by a phase behind lowering. And an error that a call
leaves is passed on to the next action of the schedule; behind the last one, the run
succeeds with it. -/
theorem errors_behind_validation (lints : List Lint) (extra : List (Phase σ))
    (plugins : List (Plugin σ)) (m : Manifest) (s : σ) :
    let p : Pipeline σ := { validate := .validate lints, extra, plugins }
    ∃ calls outcome s', (p.watchedRun m).runOn ([], s) = (outcome, calls, s') ∧
      (p.run m).runOn s = (outcome, s') ∧
      (∀ c, calls[plugins.length]? = some c →
        c.action.callee = .phase 0 ∧ ¬ c.LeavesError ∧
        ((c.round.lint lints).hasErrors = true →
          calls.length = plugins.length + 1 ∧
            outcome = .error { cause := .validation (c.round.lint lints).errorCount })) ∧
      (∀ i c, calls[i]? = some c → plugins.length ≤ i → c.LeavesError →
        ∃ j c', plugins.length < j ∧ j ≤ i ∧ calls[j]? = some c' ∧ c'.BringsError ∧
          c'.action.callee ≠ .phase 0 ∧ c'.action.callee ≠ .phase 1) ∧
      (∀ round, outcome = .ok round → round.hasErrors = true →
        ∃ j c', plugins.length < j ∧ calls[j]? = some c' ∧ c'.BringsError ∧
          c'.action.callee ≠ .phase 0 ∧ c'.action.callee ≠ .phase 1) ∧
      (∀ i c, calls[i]? = some c → c.LeavesError →
        (∃ next, calls[i + 1]? = some next ∧ p.schedule[i + 1]? = some next.action ∧
            next.round.hasErrors = true) ∨
          p.schedule.length = i + 1 ∧ ∃ round, outcome = .ok round ∧ round.hasErrors = true) := by
  intro p
  obtain ⟨calls, outcome, s', hwatched, hplain, hperformed⟩ := Performed.exists_of_run p m s
  have hp : p.validate = .validate lints := rfl
  refine ⟨calls, outcome, s', hwatched, hplain, fun c hc => ?_,
    fun i c hc hi herror => exists_of_leavesError hp hperformed hc hi herror,
    fun round hok hhas => ?_, fun i c hc herror => hperformed.passes_on hc herror⟩
  · have haction := action_of_validate hp hperformed hc
    refine ⟨by rw [haction], Call.not_leavesError_of_validate (by rw [haction]), fun herror => ?_⟩
    refine hperformed.outcome_of_error hc ?_
    rw [Call.outcome, haction, Phase.runOn_validate, if_pos herror]
  · obtain ⟨i, c, hi, hc, hlast⟩ := exists_last hperformed hok
    obtain ⟨j, c', hj, -, hc', hbrings⟩ :=
      exists_of_leavesError hp hperformed hc hi ⟨round, s', hlast, hhas⟩
    exact ⟨j, c', hj, hc', hbrings⟩

end Pipeline

/-! ### An error behind lowering -/

namespace Phase

/-- A phase that records an error and goes on. -/
def recording : Phase Unit where
  name := "error"
  run round := pure (round.remark [{ severity := .error, phase := "error", message := "late" }])

/-- A phase that records how many records there are. -/
def counting : Phase Unit where
  name := "count"
  run round :=
    let count := toString (round.records.getD []).length
    pure (round.remark [{ severity := .info, phase := "count", message := count ++ " record(s)" }])

end Phase

/-- The manifest of a class with nothing wrong about it. -/
def soundPoint : Manifest where
  project := { name := "p" }
  types := [("Point", { builder := true, components := [{ name := "x", type := "int" }] })]

set_option maxRecDepth 100000 in
/-- The error that the first phase behind lowering records does not stop the second one, and
the run succeeds. -/
theorem late_error_stops_nothing :
    ∃ text round, Manifest.parse text = .ok soundPoint ∧
      (({ extra := [.recording, .counting] } : Pipeline Unit).run soundPoint).runOn () =
        (.ok round, ()) ∧
      round.hasErrors = true ∧
      round.diagnostics.map Diagnostic.text = ["error[error]: late", "info[count]: 1 record(s)"] := by
  have hparse : Manifest.parse
      ("[project]\nname = \"p\"\n\n[types.Point]\nbuilder = true\n" ++
        "components = [\x7b name = \"x\", type = \"int\" \x7d]\n") = .ok soundPoint := by rfl
  exact ⟨_, _, hparse, rfl, rfl, rfl⟩

end BuilderGen
