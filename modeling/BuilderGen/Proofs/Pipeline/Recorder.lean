import BuilderGen.Proofs.Pipeline.Errors
import BuilderGen.Snapshot
import Mathlib.Data.List.Nodup

/-!
# BuilderGen.Proofs.Pipeline.Recorder

**The schedule of a pipeline with a recorder** among its plugins. The recorder is told the
phases in their order (`Pipeline.told_schedule`), each of them behind the phase and the hooks
of the plugins in front (`Pipeline.exists_schedule_eq`).

`Scheduled` is the one place where the actions of such a schedule are told apart; what any of
them does to the snapshots, to the diagnostics and to the records follows from it, given what
those do that others bring in (`Foreign`).
-/

namespace BuilderGen

variable {σ : Type}

/-! ### Recorders -/

/-- Where a recorder keeps its snapshots in the state of the outside world. -/
structure Memory (σ : Type) where
  taken : σ → List Snapshot
  remember : Snapshot → σ → σ
  taken_remember : ∀ snapshot s, taken (remember snapshot s) = taken s ++ [snapshot]

/-- A hook or a phase that only adds diagnostics to the round, and leaves the snapshots of a
recorder alone, even if it fails. -/
structure Memory.OnlyAppends (memory : Memory σ) (run : Round → Effect σ Round) : Prop where
  diagnostics : ∀ {round round' s s'}, (run round).runOn s = (.ok round', s') →
    round.diagnostics <+: round'.diagnostics
  taken : ∀ round s, memory.taken ((run round).runOn s).2 = memory.taken s

/-- A hook or a phase that does not touch the records, unless it takes them. -/
def OnlyTakes (run : Round → Effect σ Round) : Prop :=
  ∀ ⦃round round' s s'⦄, (run round).runOn s = (.ok round', s') →
    round'.records = round.records ∨ round'.records = none

/-- What others bring into a pipeline: the phases behind lowering, and hooks of plugins. -/
inductive Foreign (extra : List (Phase σ)) (plugins : List (Plugin σ)) :
    (Round → Effect σ Round) → Prop
  | phase {phase : Phase σ} (h : phase ∈ extra) : Foreign extra plugins phase.run
  | before {plugin : Plugin σ} (h : plugin ∈ plugins) (name : String) :
      Foreign extra plugins (plugin.before name)
  | after {plugin : Plugin σ} (h : plugin ∈ plugins) (name : String) :
      Foreign extra plugins (plugin.after name)

/-- The phase that a hook behind a phase is told, if it is the hook of this plugin. -/
def Callee.afterOf? (plugin : Nat) : Callee → Option String
  | .after i name => if i = plugin then some name else none
  | _ => none

/-- The index of the phase that is called. -/
def Callee.phase? : Callee → Option Nat
  | .phase index => some index
  | _ => none

/-- The snapshot that a call of a recorder takes. -/
def Call.snapshot? (recorder : Nat) (c : Call σ) : Option Snapshot :=
  (c.action.callee.afterOf? recorder).map fun phase => Snapshot.capture phase c.round

/-! ### The schedule of a pipeline with a recorder -/

/-- If what is found in a list increases, then so do the places it is found at. -/
theorem lt_iff_of_filterMap {α : Type} {f : α → Option Nat} {xs : List α}
    (h : (xs.filterMap f).Pairwise (· < ·)) {i j v w : Nat} {a b : α} (ha : xs[i]? = some a)
    (hb : xs[j]? = some b) (hv : f a = some v) (hw : f b = some w) : i < j ↔ v < w := by
  rw [List.pairwise_filterMap, List.pairwise_iff_getElem] at h
  obtain ⟨hi, rfl⟩ := List.getElem?_eq_some_iff.mp ha
  obtain ⟨hj, rfl⟩ := List.getElem?_eq_some_iff.mp hb
  refine ⟨fun hij => h i j hi hj hij v hv w hw, fun hvw => ?_⟩
  rcases Nat.lt_trichotomy i j with hij | rfl | hij
  · exact hij
  · rw [hv, Option.some.injEq] at hw
    omega
  · have := h j i hj hi hij w hw v hv
    omega

namespace Pipeline

/-- The phases of a schedule stand in their order. -/
theorem pairwise_phase_schedule (p : Pipeline σ) :
    (p.schedule.filterMap fun a => a.callee.phase?).Pairwise (· < ·) := by
  have hblock : ∀ (phase : Phase σ) (i : Nat),
      (actionsOf p.plugins phase i).filterMap (fun a => a.callee.phase?) = [i] := by
    intro phase i
    simp [actionsOf, Callee.phase?, List.filterMap_map]
  have hrange : p.schedule.filterMap (fun a => a.callee.phase?) =
      List.range' 0 p.phases.length := by
    rw [schedule, List.filterMap_flatMap]
    simp only [hblock]
    rw [← List.map_eq_flatMap, List.zipIdx_map_snd]
  rw [hrange]
  exact List.pairwise_lt_range'

theorem place_lt_iff {p : Pipeline σ} {x y v w : Nat} {a b : Action σ}
    (ha : p.schedule[x]? = some a) (hb : p.schedule[y]? = some b) (hv : a.callee = .phase v)
    (hw : b.callee = .phase w) : x < y ↔ v < w :=
  lt_iff_of_filterMap p.pairwise_phase_schedule ha hb (by rw [hv]; rfl) (by rw [hw]; rfl)

/-- The hooks of plugins behind a phase. -/
def hooksAfter (plugins : List (Plugin σ)) (name : String) : List (Action σ) :=
  plugins.zipIdx.map fun (plugin, i) => ⟨.after i name, plugin.after name⟩

theorem getElem?_hooksAfter {plugins : List (Plugin σ)} {i : Nat} (hi : i < plugins.length)
    (name : String) :
    (hooksAfter plugins name)[i]? = some ⟨.after i name, plugins[i].after name⟩ := by
  simp [hooksAfter, hi]

/-- The hooks of plugins before a phase. -/
def hooksBefore (plugins : List (Plugin σ)) (name : String) : List (Action σ) :=
  plugins.zipIdx.map fun (plugin, i) => ⟨.before i name, plugin.before name⟩

/-- The hook of a recorder behind a phase. -/
def recorderHook (memory : Memory σ) (recorder : Nat) (name : String) : Action σ :=
  ⟨.after recorder name, (Snapshot.inMemory memory.remember).after name⟩

/-! What a recorder is told behind phases (`afterOf?`). -/

theorem told_hooksBefore (recorder : Nat) (plugins : List (Plugin σ)) (name : String) :
    (hooksBefore plugins name).filterMap (fun a => a.callee.afterOf? recorder) = [] := by
  rw [hooksBefore, List.filterMap_map, List.filterMap_eq_nil_iff]
  exact fun _ _ => rfl

theorem told_hooksAfter (plugins : List (Plugin σ)) (name : String) :
    (hooksAfter plugins name).filterMap (fun a => a.callee.afterOf? plugins.length) = [] := by
  rw [hooksAfter, List.filterMap_map, List.filterMap_eq_nil_iff]
  rintro ⟨hook, i⟩ hmem
  have hi := (List.mem_zipIdx hmem).2.1
  rw [Function.comp_apply, Callee.afterOf?, if_neg (by omega)]

section Recorder

variable (memory : Memory σ) (front back : List (Plugin σ)) (phase : Phase σ) (j : Nat)

/-- What a phase calls up to the hook of the recorder, and behind it. -/
theorem exists_actionsOf_eq : ∃ behind,
    actionsOf (front ++ Snapshot.inMemory memory.remember :: back) phase j =
      hooksBefore (front ++ Snapshot.inMemory memory.remember :: back) phase.name ++
        ⟨.phase j, phase.run⟩ :: (hooksAfter front phase.name ++
          recorderHook memory front.length phase.name :: behind) ∧
    behind.filterMap (fun a => a.callee.afterOf? front.length) = [] := by
  refine ⟨(back.zipIdx (front.length + 1)).map fun (plugin, i) =>
    ⟨.after i phase.name, plugin.after phase.name⟩, ?_, ?_⟩
  · simp [actionsOf, hooksBefore, hooksAfter, recorderHook, List.zipIdx_append]
  · rw [List.filterMap_map, List.filterMap_eq_nil_iff]
    rintro ⟨plugin, i⟩ hplugin
    have hi := (List.mem_zipIdx hplugin).1
    rw [Function.comp_apply, Callee.afterOf?, if_neg (by omega)]

theorem afterOf?_recorderHook (recorder : Nat) (name : String) :
    (recorderHook memory recorder name).callee.afterOf? recorder = some name :=
  if_pos rfl

/-- Of what a phase calls, the recorder is told one hook. -/
theorem told_actionsOf :
    (actionsOf (front ++ Snapshot.inMemory memory.remember :: back) phase j).filterMap
      (fun a => a.callee.afterOf? front.length) = [phase.name] := by
  obtain ⟨behind, hactions, hbehind⟩ := exists_actionsOf_eq memory front back phase j
  rw [hactions, List.filterMap_append, told_hooksBefore, List.nil_append,
    List.filterMap_cons_none (by rfl), List.filterMap_append, told_hooksAfter, List.nil_append,
    List.filterMap_cons, hbehind, afterOf?_recorderHook]

theorem told_flatMap (phases : List (Phase σ × Nat)) :
    (phases.flatMap fun (phase, j) =>
      actionsOf (front ++ Snapshot.inMemory memory.remember :: back) phase j).filterMap
        (fun a => a.callee.afterOf? front.length) = phases.map fun t => t.1.name := by
  rw [List.filterMap_flatMap]
  simp only [told_actionsOf]
  rw [← List.map_eq_flatMap]

end Recorder

section Schedule

variable {p : Pipeline σ} {memory : Memory σ} {front back : List (Plugin σ)}
  (hp : p.plugins = front ++ Snapshot.inMemory memory.remember :: back)
include hp

/-- The recorder is told the phases in their order. -/
theorem told_schedule : p.schedule.filterMap (fun a => a.callee.afterOf? front.length) =
    p.phases.map Phase.name := by
  rw [schedule, hp, told_flatMap, ← List.zipIdx_map_fst 0 p.phases, List.map_map,
    List.zipIdx_map_fst]
  rfl

/-- Where a phase stands in the schedule, and the hook of the recorder behind it. -/
theorem exists_schedule_eq {j : Nat} {phase : Phase σ} (h : p.phases[j]? = some phase) :
    ∃ before behind, p.schedule = before ++ ⟨.phase j, phase.run⟩ ::
        (hooksAfter front phase.name ++ recorderHook memory front.length phase.name :: behind) ∧
      (before.filterMap fun a => a.callee.afterOf? front.length).length = j := by
  obtain ⟨hj, hphase⟩ := List.getElem?_eq_some_iff.mp h
  have hsplit : p.phases.zipIdx =
      p.phases.zipIdx.take j ++ (phase, j) :: p.phases.zipIdx.drop (j + 1) := by
    have hdrop := List.drop_eq_getElem_cons (l := p.phases.zipIdx) (by simpa using hj)
    rw [List.getElem_zipIdx, Nat.zero_add, hphase] at hdrop
    rw [← hdrop, List.take_append_drop]
  obtain ⟨behind, hactions, -⟩ := exists_actionsOf_eq memory front back phase j
  refine ⟨((p.phases.zipIdx.take j).flatMap fun (phase, j) => actionsOf p.plugins phase j) ++
    hooksBefore (front ++ Snapshot.inMemory memory.remember :: back) phase.name,
    behind ++ (p.phases.zipIdx.drop (j + 1)).flatMap fun (phase, j) =>
      actionsOf p.plugins phase j, ?_, ?_⟩
  · conv_lhs => rw [schedule, hsplit, List.flatMap_append, List.flatMap_cons]
    simp only [hp, hactions, List.append_assoc, List.cons_append]
  · rw [List.filterMap_append, told_hooksBefore, List.append_nil, hp, told_flatMap,
      List.length_map, List.length_take, List.length_zipIdx]
    omega

end Schedule

end Pipeline

/-! ### What the actions of such a schedule do -/

/-- The actions of a pipeline with a recorder: the two phases that are always there, the hooks
of the recorder, and what others bring in. -/
inductive Scheduled (memory : Memory σ) (lints : List Lint) (extra : List (Phase σ))
    (plugins : List (Plugin σ)) (recorder : Nat) : Action σ → Prop
  | validate : Scheduled memory lints extra plugins recorder
      ⟨.phase 0, (Phase.validate lints).run⟩
  | lower : Scheduled memory lints extra plugins recorder ⟨.phase 1, Phase.lower.run⟩
  | stands (name : String) : Scheduled memory lints extra plugins recorder
      ⟨.before recorder name, fun round => pure round⟩
  | records (name : String) : Scheduled memory lints extra plugins recorder
      (Pipeline.recorderHook memory recorder name)
  | foreign {a : Action σ} (hrun : Foreign extra plugins a.run) (hphase : a.callee ≠ .phase 1)
      (hhook : a.callee.afterOf? recorder = none) :
      Scheduled memory lints extra plugins recorder a

namespace Scheduled

variable {memory : Memory σ} {lints : List Lint} {extra : List (Phase σ)}
  {plugins front back : List (Plugin σ)} {recorder : Nat} {a : Action σ}

theorem of_hook {plugin : Plugin σ} (hplugin : plugin ∈ plugins) {i : Nat} (hi : i ≠ recorder)
    {name : String}
    (ha : a = ⟨.before i name, plugin.before name⟩ ∨ a = ⟨.after i name, plugin.after name⟩) :
    Scheduled memory lints extra plugins recorder a := by
  rcases ha with rfl | rfl
  · exact .foreign (.before hplugin name) nofun rfl
  · exact .foreign (.after hplugin name) nofun (if_neg hi)

theorem of_mem_schedule {p : Pipeline σ} (hvalidate : p.validate = .validate lints)
    (hplugins : p.plugins = front ++ Snapshot.inMemory memory.remember :: back)
    (ha : a ∈ p.schedule) : Scheduled memory lints p.extra (front ++ back) front.length a := by
  rcases Pipeline.exists_of_mem_schedule ha with
    ⟨i, phase, hphase, rfl⟩ | ⟨i, plugin, name, hplugin, ha⟩
  · match i with
    | 0 =>
        cases hphase
        rw [hvalidate]
        exact .validate
    | 1 =>
        cases hphase
        exact .lower
    | i + 2 => exact .foreign (.phase (List.mem_of_getElem? hphase)) (by simp) rfl
  · rw [hplugins] at hplugin
    rcases Nat.lt_trichotomy i front.length with hi | rfl | hi
    · rw [List.getElem?_append_left hi] at hplugin
      exact of_hook (List.mem_append.mpr (Or.inl (List.mem_of_getElem? hplugin))) (by omega) ha
    · rw [List.getElem?_append_right (Nat.le_refl _), Nat.sub_self] at hplugin
      cases hplugin
      rcases ha with rfl | rfl
      · exact .stands name
      · exact .records name
    · rw [List.getElem?_append_right (by omega),
        show i - front.length = i - front.length - 1 + 1 by omega] at hplugin
      exact of_hook (List.mem_append.mpr (Or.inr (List.mem_of_getElem? hplugin))) (by omega) ha

/-- A call adds the snapshot it takes to those there are, even if it fails. -/
theorem taken (h : Scheduled memory lints extra plugins recorder a)
    (happend : ∀ run, Foreign extra plugins run → memory.OnlyAppends run) (round : Round) (s : σ) :
    memory.taken (Call.outcome ⟨a, round, s⟩).2 =
      memory.taken s ++ (Call.snapshot? recorder ⟨a, round, s⟩).toList := by
  cases h with
  | validate =>
      rw [Call.outcome, Phase.runOn_validate]
      split <;> exact (List.append_nil _).symm
  | lower | stands => exact (List.append_nil _).symm
  | records name =>
      rw [Call.snapshot?, Pipeline.afterOf?_recorderHook]
      exact memory.taken_remember (Snapshot.capture name round) s
  | foreign hrun _ hhook =>
      rw [Call.snapshot?, hhook, Option.map_none, Option.toList_none, List.append_nil]
      exact (happend _ hrun).taken round s

/-- A call that succeeds keeps the diagnostics there are. -/
theorem diagnostics (h : Scheduled memory lints extra plugins recorder a)
    (happend : ∀ run, Foreign extra plugins run → memory.OnlyAppends run) {round round' : Round}
    {s s' : σ} (hrun : (a.run round).runOn s = (.ok round', s')) :
    round.diagnostics <+: round'.diagnostics := by
  cases h with
  | validate =>
      rw [Phase.runOn_validate] at hrun
      split at hrun
      · cases hrun
      · cases hrun
        exact List.prefix_append _ _
  | lower | stands | records =>
      cases hrun
      exact List.prefix_refl _
  | foreign hforeign => exact (happend _ hforeign).diagnostics hrun

/-- Nothing but lowering makes records, if nobody else does. -/
theorem run_eq_or_onlyTakes (h : Scheduled memory lints extra plugins recorder a)
    (htake : ∀ run, Foreign extra plugins run → OnlyTakes run) :
    a = ⟨.phase 1, Phase.lower.run⟩ ∨ a.callee ≠ .phase 1 ∧ OnlyTakes a.run := by
  cases h with
  | lower => exact Or.inl rfl
  | validate =>
      refine Or.inr ⟨nofun, fun round round' s s' hrun => Or.inl ?_⟩
      rw [Phase.runOn_validate] at hrun
      split at hrun
      · cases hrun
      · cases hrun
        rfl
  | stands | records =>
      refine Or.inr ⟨nofun, fun round round' s s' hrun => Or.inl ?_⟩
      cases hrun
      rfl
  | foreign hrun hphase => exact Or.inr ⟨hphase, htake _ hrun⟩

end Scheduled

end BuilderGen
