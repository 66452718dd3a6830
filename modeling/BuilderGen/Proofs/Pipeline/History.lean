import BuilderGen.Proofs.Pipeline.Recorder

/-!
# BuilderGen.Proofs.Pipeline.History

**What a recorder knows of a round** (`Pipeline.snapshots_are_history`). Its snapshots are one
for every phase from the first on, as far as the phases and the hooks in front of its own
succeed; in them the diagnostics grow, and the records are there from lowering until somebody
takes them.

A run is seen through its calls. What every action that succeeds keeps between two rounds is
kept between all rounds of a run (`Performed.pairwise_rounds`), which covers the diagnostics.
Every call adds the snapshot it takes to those there are, even if it fails
(`Performed.taken_eq`), and a call of the recorder stands as far behind the others as its phase
does (`Performed.getElem?_snapshots`). For the records, `RecordsFollow` says what a call finds
and `RecordsFollow.next` what the next one does; the induction is on the number of calls
(`Performed.recordsFollow`).
-/

namespace BuilderGen

variable {σ : Type}

/-! ### Calls that are made -/

namespace Call

/-- The call does not fail. -/
def Succeeds (c : Call σ) : Prop := ∃ round s, c.outcome = (.ok round, s)

/-- The call lowers the manifest of its round. -/
def Lowers (c : Call σ) : Prop := c.action.callee = .phase 1

/-- The call takes the records out of the round. -/
def TakesRecords (c : Call σ) : Prop :=
  c.round.records ≠ none ∧ ∃ round s, c.outcome = (.ok round, s) ∧ round.records = none

/-- The phases of the snapshots are what the recorder is told. -/
theorem map_phase_snapshots (calls : List (Call σ)) (recorder : Nat) :
    (calls.filterMap (Call.snapshot? recorder)).map Snapshot.phase =
      (calls.map Call.action).filterMap fun a => a.callee.afterOf? recorder := by
  rw [List.map_filterMap, List.filterMap_map]
  refine List.filterMap_congr fun c _ => ?_
  rw [Call.snapshot?, Option.map_map]
  exact congrFun Option.map_id _

theorem of_snapshot?_eq_some {c : Call σ} {recorder : Nat} {snapshot : Snapshot}
    (h : c.snapshot? recorder = some snapshot) :
    snapshot = Snapshot.capture snapshot.phase c.round := by
  obtain ⟨phase, -, rfl⟩ := Option.map_eq_some_iff.mp h
  rfl

end Call

/-- A phase is the call at `place`, and it succeeds, and so do the hooks of the first plugins
behind it. -/
structure Reaches (calls : List (Call σ)) (name : String) (index plugins place : Nat) : Prop where
  phase : ∃ c, calls[place]? = some c ∧ c.action.callee = .phase index ∧ c.Succeeds
  hooks : ∀ i < plugins, ∃ c, calls[place + 1 + i]? = some c ∧
    c.action.callee = .after i name ∧ c.Succeeds

namespace Performed

variable {actions : List (Action σ)} {start : Round} {s s' : σ} {calls : List (Call σ)}
  {outcome : Except Failure Round}

/-- Behind a call that succeeds, the next action is called. -/
theorem lt_length_of_succeeds (h : Performed actions start s calls outcome s') {n : Nat}
    (hn : n + 1 < actions.length) (hsucceeds : ∃ c, calls[n]? = some c ∧ c.Succeeds) :
    n + 1 < calls.length := by
  by_contra hnot
  obtain ⟨c, hc, round, t, hround⟩ := hsucceeds
  obtain ⟨hlength, houtcome, hall⟩ :=
    h.outcome_of_getElem?_succ hc (List.getElem?_eq_none (by omega))
  have hok : outcome = .ok round := congrArg Prod.fst (houtcome.symm.trans hround)
  have hactions := congrArg List.length (hall round hok)
  rw [List.length_map] at hactions
  omega

/-- A call that another one follows succeeded. -/
theorem exists_succeeds (h : Performed actions start s calls outcome s') {n : Nat} {a : Action σ}
    (ha : actions[n]? = some a) (hn : n + 1 < calls.length) :
    ∃ c, calls[n]? = some c ∧ c.action.callee = a.callee ∧ c.Succeeds := by
  have hc := List.getElem?_eq_getElem (l := calls) (i := n) (by omega)
  have hround := h.chain n _ _ hc (List.getElem?_eq_getElem hn)
  refine ⟨_, hc, ?_, _, _, hround⟩
  rw [Option.some.inj (ha.symm.trans (h.getElem?_action hc))]

/-- What a recorder is told by the actions so far says where its next snapshot stands. -/
theorem getElem?_snapshots {recorder : Nat} {hook : Action σ} {name : String}
    {after : List (Action σ)} (hhook : hook.callee.afterOf? recorder = some name) :
    ∀ {before : List (Action σ)} {start : Round} {s : σ} {calls : List (Call σ)},
    Performed (before ++ hook :: after) start s calls outcome s' →
    (calls.filterMap (Call.snapshot? recorder))[
        (before.filterMap fun a => a.callee.afterOf? recorder).length]? =
      calls[before.length]?.map fun c => Snapshot.capture name c.round
  | [], start, s, calls, h => by
      cases h <;> simp [Call.snapshot?, hhook]
  | a :: before, start, s, calls, h => by
      cases h with
      | next _ hrest =>
          have ih := getElem?_snapshots hhook hrest
          cases ha : a.callee.afterOf? recorder <;> simpa [Call.snapshot?, ha] using ih
      | failed => cases ha : a.callee.afterOf? recorder <;> simp [Call.snapshot?, ha]

/-- The rounds of the calls, and the one that comes out. -/
def rounds (calls : List (Call σ)) (outcome : Except Failure Round) : List Round :=
  calls.map Call.round ++ outcome.toOption.toList

/-- What every action that succeeds keeps between the rounds before and behind it, it keeps
between all rounds of a run. -/
theorem pairwise_rounds {R : Round → Round → Prop} (hrefl : ∀ round, R round round)
    (htrans : ∀ {a b c}, R a b → R b c → R a c) (h : Performed actions start s calls outcome s')
    (hactions : ∀ a ∈ actions, ∀ {round round' s s'}, (a.run round).runOn s = (.ok round', s') →
      R round round') :
    (rounds calls outcome).Pairwise R ∧ ∀ round ∈ rounds calls outcome, R start round := by
  induction h with
  | done round s => simp [rounds, Except.toOption, hrefl]
  | failed => simp [rounds, Except.toOption, hrefl]
  | next hrun hrest ih =>
      obtain ⟨hstep, hactions⟩ := List.forall_mem_cons.mp hactions
      obtain ⟨hpairwise, hstart⟩ := ih hactions
      have hall : ∀ round ∈ rounds _ _, R _ round := fun round hround =>
        htrans (hstep hrun) (hstart round hround)
      refine ⟨List.pairwise_cons.mpr ⟨hall, hpairwise⟩, List.forall_mem_cons.mpr ⟨hrefl _, hall⟩⟩

end Performed

/-! ### What a run with a recorder leaves -/

/-- A call before this one does something. -/
def Before (calls : List (Call σ)) (P : Call σ → Prop) (i : Nat) : Prop :=
  ∃ k < i, ∃ c, calls[k]? = some c ∧ P c

theorem before_succ {calls : List (Call σ)} {P : Call σ → Prop} {i : Nat} {c : Call σ}
    (hc : calls[i]? = some c) : Before calls P (i + 1) ↔ Before calls P i ∨ P c := by
  constructor
  · rintro ⟨k, hk, d, hd, hP⟩
    rcases Nat.lt_succ_iff_lt_or_eq.mp hk with hk | rfl
    · exact Or.inl ⟨k, hk, d, hd, hP⟩
    · obtain rfl := Option.some.inj (hc.symm.trans hd)
      exact Or.inr hP
  · rintro (⟨k, hk, hrest⟩ | hP)
    · exact ⟨k, by omega, hrest⟩
    · exact ⟨i, by omega, c, hc, hP⟩

theorem not_before_zero {calls : List (Call σ)} {P : Call σ → Prop} : ¬ Before calls P 0 := by
  rintro ⟨k, hk, -⟩
  omega

/-- What the records of a round are when a call is made on it: none before lowering, none
after they were taken, and else those that lowering made. -/
structure RecordsFollow (calls : List (Call σ)) (i : Nat) (c : Call σ) : Prop where
  none_iff : c.round.records = none ↔
    ¬ Before calls Call.Lowers i ∨ Before calls Call.TakesRecords i
  lowered : Before calls Call.TakesRecords i → Before calls Call.Lowers i
  eq : ∀ records, c.round.records = some records →
    Before calls (fun d => d.Lowers ∧ records = Round.lowerManifest d.round.manifest) i

/-- What the next call finds, if this one makes no records, or lowers for the first time. -/
theorem RecordsFollow.next {calls : List (Call σ)} {i : Nat} {c next : Call σ}
    (h : RecordsFollow calls i c) (hc : calls[i]? = some c)
    (hnext : c.outcome = (.ok next.round, next.state))
    (hstep : c.Lowers ∧ ¬ Before calls Call.Lowers i ∧ next.round = c.round.lower ∨
      ¬ c.Lowers ∧
        (next.round.records = c.round.records ∨ next.round.records = none)) :
    RecordsFollow calls (i + 1) next := by
  rcases hstep with ⟨hlowers, hfirst, hround⟩ | ⟨hlowers, hrecords⟩
  · -- before the first lowering there was nothing to take
    have hnone := h.none_iff.mpr (Or.inl hfirst)
    have htakes : ¬ c.TakesRecords := fun htakes => htakes.1 hnone
    refine ⟨?_, fun _ => (before_succ hc).mpr (Or.inr hlowers), fun records hsome => ?_⟩
    · have htaken := mt h.lowered hfirst
      simp [hround, Round.lower, before_succ hc, hlowers, htakes, htaken]
    · rw [hround] at hsome
      exact (before_succ hc).mpr (Or.inr ⟨hlowers, (Option.some.inj hsome).symm⟩)
  · -- the records stay, or they are taken now if they were there
    have htakes : c.TakesRecords ↔ c.round.records ≠ none ∧ next.round.records = none := by
      simp [Call.TakesRecords, hnext]
    have hlowered : c.round.records ≠ none → Before calls Call.Lowers i := fun hsome =>
      not_not.mp fun hnot => hsome (h.none_iff.mpr (Or.inl hnot))
    have hbefore : Before calls Call.Lowers (i + 1) ↔ Before calls Call.Lowers i := by
      simp [before_succ hc, hlowers]
    refine ⟨?_, fun htaken => ?_, fun records hsome => ?_⟩
    · have hnone := h.none_iff
      rw [hbefore, before_succ hc, htakes]
      rcases hrecords with hsame | hgone
      · rw [hsame]
        tauto
      · tauto
    · rw [hbefore]
      rcases (before_succ hc).mp htaken with htaken | htaken
      · exact h.lowered htaken
      · exact hlowered htaken.1
    · rw [hrecords.resolve_right (by rw [hsome]; nofun)] at hsome
      exact (before_succ hc).mpr (Or.inl (h.eq records hsome))

namespace Performed

variable {actions : List (Action σ)} {start : Round} {s s' : σ} {calls : List (Call σ)}
  {outcome : Except Failure Round}

/-- Recorded is what the calls recorded, whatever they came to. -/
theorem taken_eq {memory : Memory σ} {recorder : Nat}
    (h : Performed actions start s calls outcome s')
    (hactions : ∀ a ∈ actions, ∀ round s, memory.taken (Call.outcome ⟨a, round, s⟩).2 =
      memory.taken s ++ (Call.snapshot? recorder ⟨a, round, s⟩).toList) :
    memory.taken s' = memory.taken s ++ calls.filterMap (Call.snapshot? recorder) := by
  induction h with
  | done => exact (List.append_nil _).symm
  | @next a _ round _ s _ _ _ _ hrun _ ih =>
      obtain ⟨hstep, hactions⟩ := List.forall_mem_cons.mp hactions
      have hleft := hstep round s
      rw [Call.outcome, hrun] at hleft
      rw [ih hactions, hleft, List.append_assoc, List.filterMap_eq_flatMap_toList,
        List.filterMap_eq_flatMap_toList, List.flatMap_cons]
  | @failed a _ round s _ _ hrun =>
      have hleft := (List.forall_mem_cons.mp hactions).1 round s
      rw [Call.outcome, hrun] at hleft
      rw [hleft, List.filterMap_eq_flatMap_toList, List.flatMap_singleton]

/-- If all comes out well, then all was called. -/
theorem map_action_eq (h : Performed actions start s calls outcome s') {round : Round}
    (hok : outcome = .ok round) : calls.map Call.action = actions := by
  rcases h.last with ⟨rfl, rfl⟩ | ⟨_, _, _, hall⟩
  · rfl
  · exact hall round hok

/-- If no action that succeeds forgets a diagnostic, then those of a snapshot are where those
of the next one start, and those of the round that comes out. -/
theorem diagnostics_prefix (h : Performed actions start s calls outcome s') (recorder : Nat)
    (hactions : ∀ a ∈ actions, ∀ {round round' s s'}, (a.run round).runOn s = (.ok round', s') →
      round.diagnostics <+: round'.diagnostics) :
    ((calls.filterMap (Call.snapshot? recorder)).Pairwise fun a b =>
        a.diagnostics <+: b.diagnostics) ∧
      ∀ round, outcome = .ok round → ∀ snapshot ∈ calls.filterMap (Call.snapshot? recorder),
        snapshot.diagnostics <+: round.diagnostics := by
  have hrounds := (h.pairwise_rounds (R := fun a b => a.diagnostics <+: b.diagnostics)
    (fun _ => List.prefix_refl _) List.IsPrefix.trans hactions).1
  rw [rounds, List.pairwise_append, List.pairwise_map] at hrounds
  obtain ⟨hcalls, -, hfinal⟩ := hrounds
  refine ⟨?_, ?_⟩
  · rw [List.pairwise_filterMap]
    refine hcalls.imp fun hprefix a ha b hb => ?_
    rw [Call.of_snapshot?_eq_some ha, Call.of_snapshot?_eq_some hb]
    exact hprefix
  · rintro round rfl snapshot hsnapshot
    obtain ⟨c, hc, hcapture⟩ := List.mem_filterMap.mp hsnapshot
    rw [Call.of_snapshot?_eq_some hcapture]
    exact hfinal _ (List.mem_map_of_mem hc) _ (List.mem_singleton_self round)

/-- Nothing makes records but lowering, which is called once: they follow its call. -/
theorem recordsFollow {p : Pipeline σ} (h : Performed p.schedule start s calls outcome s')
    (hstart : start.records = none)
    (hactions : ∀ a ∈ p.schedule,
      a = ⟨.phase 1, Phase.lower.run⟩ ∨ a.callee ≠ .phase 1 ∧ OnlyTakes a.run) {i : Nat} :
    ∀ {c : Call σ}, calls[i]? = some c → RecordsFollow calls i c := by
  induction i with
  | zero =>
      intro c hc
      have hnone : c.round.records = none := by
        rw [(h.head c (List.head?_eq_getElem?.trans hc)).1, hstart]
      exact ⟨by simp [hnone, not_before_zero], fun htaken => absurd htaken not_before_zero,
        fun records hsome => by rw [hnone] at hsome; cases hsome⟩
  | succ i ih =>
      intro next hnext
      have hi : i < calls.length := by
        have := (List.getElem?_eq_some_iff.mp hnext).1
        omega
      have hc := List.getElem?_eq_getElem hi
      have hround := h.chain i _ next hc hnext
      refine (ih hc).next hc hround ?_
      rcases hactions _ (List.mem_of_getElem? (h.getElem?_action hc)) with hlower | ⟨hcallee, honly⟩
      · refine Or.inl ⟨congrArg Action.callee hlower, ?_, ?_⟩
        · rintro ⟨k, hk, d, hd, hlowers⟩
          exact Nat.lt_irrefl 1 ((Pipeline.place_lt_iff (h.getElem?_action hd)
            (h.getElem?_action hc) hlowers (congrArg Action.callee hlower)).mp hk)
        · rw [Call.outcome, hlower] at hround
          exact (Except.ok.inj (congrArg Prod.fst hround)).symm
      · exact Or.inr ⟨hcallee, honly hround⟩

end Performed

namespace Pipeline

/-- Where a phase stands in the schedule of a pipeline with a recorder. The phase reaches the
recorder if its hook is called, and then the snapshot of the phase is what the hook is called
on. -/
theorem exists_place {p : Pipeline σ} {memory : Memory σ} {front back : List (Plugin σ)}
    (hp : p.plugins = front ++ Snapshot.inMemory memory.remember :: back) {start : Round}
    {s s' : σ} {calls : List (Call σ)} {outcome : Except Failure Round}
    (h : Performed p.schedule start s calls outcome s') {j : Nat} {phase : Phase σ}
    (hphase : p.phases[j]? = some phase) :
    ∃ place, (∀ n, Reaches calls phase.name j front.length n ↔
        n = place ∧ place + front.length + 1 < calls.length) ∧
      p.schedule[place + front.length + 1]? = some (recorderHook memory front.length phase.name) ∧
      (calls.filterMap (Call.snapshot? front.length))[j]? =
        calls[place + front.length + 1]?.map fun c => Snapshot.capture phase.name c.round := by
  obtain ⟨before, behind, hschedule, htold⟩ := exists_schedule_eq hp hphase
  have hlength : (hooksAfter front phase.name).length = front.length := by simp [hooksAfter]
  have hplace : p.schedule[before.length]? = some ⟨.phase j, phase.run⟩ := by simp [hschedule]
  have hhooks : ∀ i (hi : i < front.length), p.schedule[before.length + 1 + i]? =
      some ⟨.after i phase.name, front[i].after phase.name⟩ := by
    intro i hi
    rw [hschedule, List.getElem?_append_right (by omega),
      show before.length + 1 + i - before.length = i + 1 by omega, List.getElem?_cons_succ,
      List.getElem?_append_left (by omega), getElem?_hooksAfter hi]
  refine ⟨before.length, fun n => ⟨fun hreaches => ?_, ?_⟩, ?_, ?_⟩
  · obtain ⟨c, hc, hcallee, hsucceeds⟩ := hreaches.phase
    have hn : n = before.length := by
      have hlt := place_lt_iff (h.getElem?_action hc) hplace hcallee rfl
      have hgt := place_lt_iff hplace (h.getElem?_action hc) rfl hcallee
      omega
    subst hn
    refine ⟨rfl, h.lt_length_of_succeeds ?_ ?_⟩
    · rw [hschedule, List.length_append, List.length_cons, List.length_append, List.length_cons]
      omega
    · cases hfront : front.length with
      | zero => exact ⟨c, hc, hsucceeds⟩
      | succ k =>
          obtain ⟨d, hd, -, hsucceeds⟩ := hreaches.hooks k (by omega)
          exact ⟨d, by rwa [← Nat.add_assoc, Nat.add_right_comm], hsucceeds⟩
  · rintro ⟨rfl, hlt⟩
    exact ⟨h.exists_succeeds hplace (by omega),
      fun i hi => h.exists_succeeds (hhooks i hi) (by omega)⟩
  · rw [hschedule, List.getElem?_append_right (by omega),
      show before.length + front.length + 1 - before.length = front.length + 1 by omega,
      List.getElem?_cons_succ, List.getElem?_append_right (by omega), hlength, Nat.sub_self]
    rfl
  · have hrecorded : Performed ((before ++ ⟨.phase j, phase.run⟩ :: hooksAfter front phase.name) ++
        recorderHook memory front.length phase.name :: behind) start s calls outcome s' := by
      rw [List.append_assoc, List.cons_append, ← hschedule]
      exact h
    have hsnapshot :=
      hrecorded.getElem?_snapshots (afterOf?_recorderHook memory front.length phase.name)
    rw [List.filterMap_append, List.filterMap_cons_none (by rfl), told_hooksAfter, List.append_nil,
      htold, List.length_append, List.length_cons, hlength, ← Nat.add_assoc] at hsnapshot
    exact hsnapshot

/-- A snapshot of a phase that reaches the recorder shows the round that the recorder's hook
behind this phase is called on. -/
theorem exists_call_of_snapshot {p : Pipeline σ} {memory : Memory σ} {front back : List (Plugin σ)}
    (hp : p.plugins = front ++ Snapshot.inMemory memory.remember :: back) {start : Round}
    {s s' : σ} {calls : List (Call σ)} {outcome : Except Failure Round}
    (h : Performed p.schedule start s calls outcome s') {j n : Nat} {snapshot : Snapshot}
    (hphase : (p.phases.map Phase.name)[j]? = some snapshot.phase)
    (hsnapshot : (calls.filterMap (Call.snapshot? front.length))[j]? = some snapshot)
    (hreaches : Reaches calls snapshot.phase j front.length n) :
    ∃ c, calls[n + front.length + 1]? = some c ∧
      c.action.callee = .after front.length snapshot.phase ∧
      snapshot = ⟨snapshot.phase, c.round.records, c.round.diagnostics⟩ := by
  rw [List.getElem?_map] at hphase
  obtain ⟨phase, hphase, hname⟩ := Option.map_eq_some_iff.mp hphase
  obtain ⟨place, hplace, hhook, hcaptured⟩ := exists_place hp h hphase
  rw [← hname] at hreaches
  obtain ⟨rfl, -⟩ := (hplace n).mp hreaches
  rw [hsnapshot] at hcaptured
  obtain ⟨c, hc, heq⟩ := Option.map_eq_some_iff.mp hcaptured.symm
  have haction := Option.some.inj (hhook.symm.trans (h.getElem?_action hc))
  refine ⟨c, hc, ?_, ?_⟩
  · rw [← haction, ← hname]
    rfl
  · rw [← heq]
    rfl

/-- A phase that reaches the recorder stands behind lowering, unless it is validating. -/
theorem before_lowers_iff {p : Pipeline σ} {start : Round} {s s' : σ} {calls : List (Call σ)}
    {outcome : Except Failure Round} (h : Performed p.schedule start s calls outcome s')
    {name : String} {j plugins n : Nat} (hreaches : Reaches calls name j plugins n) :
    Before calls Call.Lowers (n + plugins + 1) ↔ j ≠ 0 := by
  obtain ⟨c, hc, hcallee, -⟩ := hreaches.phase
  constructor
  · rintro ⟨k, hk, d, hd, hlowers⟩
    have horder := place_lt_iff (h.getElem?_action hc) (h.getElem?_action hd) hcallee hlowers
    by_cases hkn : n < k
    · -- between the phase and the recorder, there are only hooks
      obtain ⟨e, he, hhook, -⟩ := hreaches.hooks (k - (n + 1)) (by omega)
      rw [show n + 1 + (k - (n + 1)) = k by omega, hd] at he
      obtain rfl := Option.some.inj he
      rw [hlowers] at hhook
      cases hhook
    · omega
  · intro hj
    have hmem : (⟨.phase 1, Phase.lower.run⟩ : Action σ) ∈ p.schedule := by
      simp [schedule, phases, actionsOf]
    obtain ⟨q, hq⟩ := List.mem_iff_getElem?.mp hmem
    have horder := place_lt_iff (h.getElem?_action hc) hq hcallee rfl
    have hlt := (List.getElem?_eq_some_iff.mp hc).1
    have hd := List.getElem?_eq_getElem (l := calls) (i := q) (by omega)
    refine ⟨q, by omega, _, hd, ?_⟩
    rw [Call.Lowers, ← Option.some.inj (hq.symm.trans (h.getElem?_action hd))]

/-- **The snapshots of a recorder are the history of the round.** Others may change the round as
they like, as long as they only add to its diagnostics, and anything may fail. Then the phases
of the snapshots are the first ones of the pipeline, exactly those that succeed together with
the hooks in front of the recorder's behind them. A snapshot shows the records and the
diagnostics of the round that the recorder was called on then. Its diagnostics are where those
of the next one start, and those of the round that comes out. If others leave the records alone
or take them, then a snapshot has no records if it was taken behind validating or behind a call
that took them, and else those that lowering made. -/
theorem snapshots_are_history (memory : Memory σ) (lints : List Lint) (extra : List (Phase σ))
    (front back : List (Plugin σ))
    (happend : ∀ run, Foreign extra (front ++ back) run → memory.OnlyAppends run) (m : Manifest)
    (s : σ) :
    let p : Pipeline σ :=
      { validate := .validate lints, extra
        plugins := front ++ Snapshot.inMemory memory.remember :: back }
    ∃ calls outcome s' snapshots,
      (p.watchedRun m).runOn ([], s) = (outcome, calls, s') ∧
      (p.run m).runOn s = (outcome, s') ∧
      memory.taken s' = memory.taken s ++ snapshots ∧
      snapshots.map Snapshot.phase <+: "validate" :: "lower" :: extra.map Phase.name ∧
      (∀ j phase, p.phases[j]? = some phase →
        (j < snapshots.length ↔ ∃ n, Reaches calls phase.name j front.length n)) ∧
      (∀ j snapshot n, snapshots[j]? = some snapshot →
        Reaches calls snapshot.phase j front.length n →
        ∃ c, calls[n + front.length + 1]? = some c ∧
          c.action.callee = .after front.length snapshot.phase ∧
          snapshot = ⟨snapshot.phase, c.round.records, c.round.diagnostics⟩) ∧
      (snapshots.Pairwise fun a b => a.diagnostics <+: b.diagnostics) ∧
      (∀ round, outcome = .ok round →
        snapshots.map Snapshot.phase = "validate" :: "lower" :: extra.map Phase.name ∧
        ∀ snapshot ∈ snapshots, snapshot.diagnostics <+: round.diagnostics) ∧
      ((∀ run, Foreign extra (front ++ back) run → OnlyTakes run) →
        ∀ j snapshot n, snapshots[j]? = some snapshot →
          Reaches calls snapshot.phase j front.length n →
          (snapshot.records = none ↔
            j = 0 ∨ Before calls Call.TakesRecords (n + front.length + 1)) ∧
          ∀ records, snapshot.records = some records →
            Before calls (fun c => c.Lowers ∧ records = Round.lowerManifest c.round.manifest)
              (n + front.length + 1)) := by
  intro p
  obtain ⟨calls, outcome, s', hwatched, hplain, h⟩ := Performed.exists_of_run p m s
  have hscheduled : ∀ a ∈ p.schedule,
      Scheduled memory lints extra (front ++ back) front.length a :=
    fun a ha => Scheduled.of_mem_schedule rfl rfl ha
  have htold : p.schedule.filterMap (fun a => a.callee.afterOf? front.length) =
      "validate" :: "lower" :: extra.map Phase.name := told_schedule rfl
  have hphases := h.isPrefix.filterMap fun a => a.callee.afterOf? front.length
  rw [← Call.map_phase_snapshots, htold] at hphases
  obtain ⟨hdiagnostics, hfinal⟩ := h.diagnostics_prefix front.length
    fun a ha _ _ _ _ hrun => (hscheduled a ha).diagnostics happend hrun
  have hname : ∀ {j : Nat} {snapshot : Snapshot},
      (calls.filterMap (Call.snapshot? front.length))[j]? = some snapshot →
      (p.phases.map Phase.name)[j]? = some snapshot.phase := by
    intro j snapshot hsnapshot
    obtain ⟨hj, hvalue⟩ := List.getElem?_eq_some_iff.mp hsnapshot
    have hsame := List.prefix_iff_getElem?.mp hphases j (by rwa [List.length_map])
    rwa [List.getElem_map, hvalue] at hsame
  refine ⟨calls, outcome, s', calls.filterMap (Call.snapshot? front.length), hwatched, hplain,
    h.taken_eq fun a ha => (hscheduled a ha).taken happend, hphases, ?_,
    fun j snapshot n hsnapshot => exists_call_of_snapshot rfl h (hname hsnapshot) hsnapshot,
    hdiagnostics, ?_, ?_⟩
  · intro j phase hphase
    obtain ⟨place, hreaches, -, hsnapshot⟩ := exists_place rfl h hphase
    have hcalled : (calls.filterMap (Call.snapshot? front.length)).length ≤ j ↔
        calls.length ≤ place + front.length + 1 := by
      rw [← List.getElem?_eq_none_iff, hsnapshot, Option.map_eq_none_iff, List.getElem?_eq_none_iff]
    rw [← Nat.not_le, hcalled, Nat.not_le]
    exact ⟨fun hlt => ⟨place, (hreaches place).mpr ⟨rfl, hlt⟩⟩,
      fun ⟨n, hn⟩ => ((hreaches n).mp hn).2⟩
  · intro round hok
    refine ⟨?_, hfinal round hok⟩
    rw [Call.map_phase_snapshots, h.map_action_eq hok, htold]
  · intro htake j snapshot n hsnapshot hreaches
    obtain ⟨c, hc, -, hshown⟩ := exists_call_of_snapshot rfl h (hname hsnapshot) hsnapshot hreaches
    have hrecords : snapshot.records = c.round.records := congrArg Snapshot.records hshown
    rw [hrecords]
    have hfollow := h.recordsFollow rfl (fun a ha => (hscheduled a ha).run_eq_or_onlyTakes htake) hc
    refine ⟨?_, hfollow.eq⟩
    rw [← not_not (a := j = 0), ← ne_eq, ← before_lowers_iff h hreaches]
    exact hfollow.none_iff

end Pipeline

/-! ### Records that are taken behind lowering -/

namespace Phase

/-- A phase that takes the records, and fails if there are none. -/
def taking : Phase σ where
  name := "take"
  run round :=
    match round.takeRecords with
    | .ok (_, round) => pure round
    | .error cause => Effect.fail cause

theorem runOn_taking (round : Round) (s : σ) :
    (taking.run round).runOn s =
      if round.records = none then (.error { cause := .noRecords }, s)
      else (.ok { round with records := none }, s) := by
  cases h : round.records <;> simp [taking, Round.takeRecords, h]

end Phase

namespace Plugin

/-- A plugin that remarks on every phase that is finished. -/
def noting : Plugin σ where
  after name round :=
    pure (round.remark [{ severity := .info, phase := name, message := "finished" }])

end Plugin

namespace Memory

/-- Snapshots are all there is outside. -/
def alone : Memory (List Snapshot) where
  taken := id
  remember snapshot snapshots := snapshots ++ [snapshot]
  taken_remember _ _ := rfl

theorem onlyAppends_of_foreign {run : Round → Effect (List Snapshot) Round}
    (h : Foreign [.taking, .taking] [.noting] run) : alone.OnlyAppends run ∧ OnlyTakes run := by
  cases h with
  | phase hphase =>
      obtain rfl : _ = Phase.taking := by simpa using hphase
      refine ⟨⟨fun hrun => ?_, fun round s => ?_⟩, fun round round' s s' hrun => Or.inr ?_⟩
      · rw [Phase.runOn_taking] at hrun
        split at hrun <;> cases hrun
        exact List.prefix_refl _
      · rw [Phase.runOn_taking]
        split <;> rfl
      · rw [Phase.runOn_taking] at hrun
        split at hrun <;> cases hrun
        rfl
  | before hplugin =>
      obtain rfl := List.mem_singleton.mp hplugin
      refine ⟨⟨fun hrun => ?_, fun _ _ => rfl⟩, fun round round' s s' hrun => Or.inl ?_⟩
      · cases hrun
        exact List.prefix_refl _
      · cases hrun
        rfl
  | after hplugin =>
      obtain rfl := List.mem_singleton.mp hplugin
      refine ⟨⟨fun hrun => ?_, fun _ _ => rfl⟩, fun round round' s s' hrun => Or.inl ?_⟩
      · cases hrun
        exact List.prefix_append _ _
      · cases hrun
        rfl

end Memory

/-- The records are in the snapshot behind lowering, and not in the next one; behind them, the
second phase that wants them fails, and the run with it. -/
theorem taken_records_in_snapshots :
    let p : Pipeline (List Snapshot) :=
      { extra := [.taking, .taking]
        plugins := [.noting] ++ [Snapshot.inMemory Memory.alone.remember] }
    (∀ run, Foreign [.taking, .taking] ([.noting] ++ []) run →
      Memory.alone.OnlyAppends run ∧ OnlyTakes run) ∧
    ∃ snapshots, (p.run soundPoint).runOn [] = (.error { cause := .noRecords }, snapshots) ∧
      snapshots.map Snapshot.phase = ["validate", "lower", "take"] ∧
      snapshots.map Snapshot.records = [none, some (Round.lowerManifest soundPoint), none] ∧
      (snapshots.map fun snapshot => snapshot.diagnostics.map Diagnostic.phase) =
        [["validate"], ["validate", "lower"], ["validate", "lower", "take"]] ∧
      snapshots.Pairwise fun a b => a.diagnostics <+: b.diagnostics := by
  intro p
  have hforeign : ∀ run, Foreign [.taking, .taking] ([.noting] ++ []) run →
      Memory.alone.OnlyAppends run ∧ OnlyTakes run :=
    fun run hrun => Memory.onlyAppends_of_foreign hrun
  obtain ⟨calls, outcome, s', snapshots, -, hrun, htaken, -, -, -, hdiagnostics, -, -⟩ :=
    Pipeline.snapshots_are_history Memory.alone Lint.builtin [.taking, .taking] [.noting] []
      (fun run hrun => (hforeign run hrun).1) soundPoint []
  obtain rfl : s' = snapshots := htaken
  have hfails : ((p.run soundPoint).runOn []).1 = .error { cause := .noRecords } := rfl
  have hphases : ((p.run soundPoint).runOn []).2.map Snapshot.phase =
      ["validate", "lower", "take"] := rfl
  have hrecords : ((p.run soundPoint).runOn []).2.map Snapshot.records =
      [none, some (Round.lowerManifest soundPoint), none] := rfl
  have hphasesNoted : (((p.run soundPoint).runOn []).2.map fun snapshot =>
      snapshot.diagnostics.map Diagnostic.phase) =
      [["validate"], ["validate", "lower"], ["validate", "lower", "take"]] := rfl
  rw [hrun] at hfails hphases hrecords hphasesNoted
  obtain rfl : outcome = .error { cause := .noRecords } := hfails
  exact ⟨hforeign, s', hrun, hphases, hrecords, hphasesNoted, hdiagnostics⟩

end BuilderGen
