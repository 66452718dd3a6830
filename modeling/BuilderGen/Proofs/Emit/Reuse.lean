import BuilderGen.Proofs.Emit.Program

/-!
# BuilderGen.Proofs.Emit.Reuse

**Builders that are used on after they have built.** A builder is given by what a setter does
to it and by what it builds (`Workings`); a use of it calls a setter or builds. Building leaves
the builder as it is, so a run comes to a list of outcomes, one for every build, and a build can
be left out without the others noticing (`Workings.Follows`).

What a field holds in the end is the value that was last set, if setters are told apart by the
field they write (`Workings.Field.get_after`).

The program of a record runs in the same way. Its builds come to what the constructor of the
record is invoked with when it is given the values last passed, at every point of the run
(`Record.outcomes?_program`).
-/

namespace BuilderGen

open Blueprint (Slots)

variable {α β γ S T R Q : Type}

/-- What is done with a builder: a setter is called, or it builds. -/
inductive Use (S : Type)
  | set (setter : S)
  | build
  deriving DecidableEq, Repr

namespace Use

/-- The use, with its setter called in another way. -/
def map (f : S → T) : Use S → Use T
  | set setter => set (f setter)
  | build => build

/-- The setter that is called. -/
def setter? : Use S → Option S
  | set setter => some setter
  | build => none

end Use

/-- How a builder works: what a setter does to it, and what it builds. -/
structure Workings (β S R : Type) where
  set : β → S → β
  build : β → R

namespace Workings

variable (w : Workings β S R)

/-- The builder after uses of it. -/
def after : β → List (Use S) → β
  | b, [] => b
  | b, .set setter :: uses => after (w.set b setter) uses
  | b, .build :: uses => after b uses

/-- What the builds of a run come to, in order. -/
def outcomes : β → List (Use S) → List R
  | _, [] => []
  | b, .set setter :: uses => outcomes (w.set b setter) uses
  | b, .build :: uses => w.build b :: outcomes b uses

theorem after_append (b : β) (uses uses' : List (Use S)) :
    w.after b (uses ++ uses') = w.after (w.after b uses) uses' := by
  induction uses generalizing b with
  | nil => rfl
  | cons u uses ih => cases u <;> exact ih _

theorem outcomes_append (b : β) (uses uses' : List (Use S)) :
    w.outcomes b (uses ++ uses') = w.outcomes b uses ++ w.outcomes (w.after b uses) uses' := by
  induction uses generalizing b with
  | nil => rfl
  | cons u uses ih =>
      cases u with
      | set setter => exact ih _
      | build => exact congrArg (w.build b :: ·) (ih b)

/-- A run that ends with a build comes to what the builder builds in the end. -/
theorem getLast?_outcomes_build (b : β) (uses : List (Use S)) :
    (w.outcomes b (uses ++ [.build])).getLast? = some (w.build (w.after b uses)) := by
  rw [outcomes_append]
  exact List.getLast?_concat

/-- If builders stay related under their setters, and related ones build alike, then their runs
come to the same. -/
theorem outcomes_map {w : Workings β S R} {w' : Workings γ T Q} {f : S → T} {read? : Q → Option R}
    {rel : β → γ → Prop} (hset : ∀ b c setter, rel b c → rel (w.set b setter) (w'.set c (f setter)))
    (hbuild : ∀ b c, rel b c → read? (w'.build c) = some (w.build b)) {b : β} {c : γ}
    (h : rel b c) (uses : List (Use S)) :
    (w'.outcomes c (uses.map (Use.map f))).map read? = (w.outcomes b uses).map some := by
  induction uses generalizing b c with
  | nil => rfl
  | cons u uses ih =>
      cases u with
      | set setter => exact ih (hset b c setter h)
      | build => exact congrArg₂ _ (hbuild b c h) (ih h)

/-- A field of a builder: what it holds, and the value a setter writes to it, if the setter is
one of this field. -/
structure Field (w : Workings β S R) (α : Type) where
  get : β → α
  written? : S → Option α
  get_set : ∀ b setter, get (w.set b setter) = (written? setter).getD (get b)

end Workings

/-- The value that was last set, among those that are `written?` to a field. -/
def lastSet (written? : S → Option α) (uses : List (Use S)) : Option α :=
  (uses.filterMap fun u => u.setter?.bind written?).getLast?

theorem lastSet_append (written? : S → Option α) (uses : List (Use S)) (u : Use S) :
    lastSet written? (uses ++ [u]) = (u.setter?.bind written?).or (lastSet written? uses) := by
  rw [lastSet, List.filterMap_append, List.getLast?_append]
  cases h : u.setter?.bind written? <;> simp [h, lastSet]

namespace Workings

variable {w : Workings β S R}

/-- A field holds what was last set, or else what it held at first. -/
theorem Field.get_after (f : w.Field α) (b : β) (uses : List (Use S)) :
    f.get (w.after b uses) = (lastSet f.written? uses).getD (f.get b) := by
  induction uses using List.reverseRecOn with
  | nil => rfl
  | append_singleton uses u ih =>
      rw [w.after_append, lastSet_append]
      cases u with
      | build => exact ih
      | set setter =>
          refine (f.get_set _ setter).trans ?_
          rw [ih]
          cases h : f.written? setter <;> simp [Use.setter?, h]

/-- Every build makes what is made directly from the last values before it, and the builds around
it do not notice it. From equal last values on, all goes on alike, whatever was done before. -/
structure Follows (w : Workings β S R) (start : β) (last : List (Use S) → β) (direct : β → R) :
    Prop where
  build : ∀ before behind, ∃ later,
    w.outcomes start (before ++ behind) = w.outcomes start before ++ later ∧
    w.outcomes start (before ++ .build :: behind) =
      w.outcomes start before ++ direct (last before) :: later
  alike : ∀ {before before'}, last before = last before' → ∀ behind, ∃ later,
    w.outcomes start (before ++ behind) = w.outcomes start before ++ later ∧
    w.outcomes start (before' ++ behind) = w.outcomes start before' ++ later

theorem follows {start : β} {last : List (Use S) → β} {direct : β → R}
    (hafter : ∀ uses, w.after start uses = last uses) (hbuild : ∀ b, w.build b = direct b) :
    w.Follows start last direct where
  build before behind :=
    ⟨_, w.outcomes_append start before behind, by
      rw [w.outcomes_append, ← hafter, ← hbuild]
      rfl⟩
  alike {before before'} hlast behind :=
    ⟨_, w.outcomes_append start before behind, by
      rw [w.outcomes_append, hafter, hafter, hlast]⟩

end Workings

/-! ### Programs -/

namespace Program

/-- What the builds of a run come to, on slots that are kept from one use to the next. -/
def outcomes? (p : Program) :
    Slots α → List (Use (Nat × α)) → Option (List (Invocation α))
  | _, [] => some []
  | slots, .set c :: uses => (p.call? slots c).bind fun slots => p.outcomes? slots uses
  | slots, .build :: uses =>
      match p.makers with
      | [makes] => (makes.resolve? slots.value?).bind fun made =>
          (p.outcomes? slots uses).map (made :: ·)
      | _ => none

/-- The program does what a builder does: in every run its builds come to the same, if its
setters are called as `passed` says and what it invokes is read as what that comes to. -/
def Runs (p : Program) (default : String → α) (w : Workings β S R) (start : β)
    (passed : S → Nat × α) (made? : Invocation α → Option R) : Prop :=
  ∀ uses, ∃ invocations,
    p.outcomes? (p.start default) (uses.map (Use.map passed)) = some invocations ∧
    invocations.map made? = (w.outcomes start uses).map some

end Program

namespace Record

variable {language : Language} {r : Record} {default : String → α}

/-- What was last passed for every component, or else the default of its type. -/
def lastArguments (r : Record) (default : String → α) (calls : List (Nat × α)) : List α :=
  r.components.mapIdx fun i c => (lastPassed calls i).getD (default c.type)

/-- A builder that remembers what was passed to its setters, and invokes the constructor of the
record with what was passed last. -/
def passing (language : Language) (r : Record) (default : String → α) :
    Workings (List (Nat × α)) (Nat × α) (Invocation α) where
  set calls c := calls ++ [c]
  build calls := r.invocation language (r.lastArguments default calls)

/-- **The program of a record goes on after it has built**: every build invokes the constructor
with what was last passed until then. -/
theorem outcomes?_program (h : (r.fieldNames language).Nodup) {uses : List (Use (Nat × α))}
    (huses : ∀ c, .set c ∈ uses → c.1 < r.components.length) :
    (r.program language).outcomes? ((r.program language).start default) uses =
      some ((r.passing language default).outcomes [] uses) := by
  -- in the middle of a run, the slots are what the calls so far have left
  suffices hrun : ∀ (calls : List (Nat × α)) (slots : Slots α),
      (∀ c ∈ calls, c.1 < r.components.length) →
      calls.foldlM (r.program language).call? ((r.program language).start default) = some slots →
      (r.program language).outcomes? slots uses =
        some ((r.passing language default).outcomes calls uses) from hrun [] _ nofun rfl
  induction uses with
  | nil => exact fun _ _ _ _ => rfl
  | cons u uses ih =>
      intro calls slots hcalls hslots
      have hrest := ih fun c hc => huses c (List.mem_cons_of_mem _ hc)
      cases u with
      | set c =>
          have hmore : ∀ d ∈ calls ++ [c], d.1 < r.components.length := by
            intro d hd
            rcases List.mem_append.mp hd with hd | hd
            · exact hcalls d hd
            · obtain rfl := List.mem_singleton.mp hd
              exact huses d List.mem_cons_self
          obtain ⟨slots', hslots'⟩ : ∃ slots', (calls ++ [c]).foldlM (r.program language).call?
              ((r.program language).start default) = some slots' :=
            ⟨_, foldlM_call?_program h hmore⟩
          have hcall : (r.program language).call? slots c = some slots' := by
            rw [List.foldlM_append, hslots] at hslots'
            simpa using hslots'
          rw [Program.outcomes?, hcall, Option.bind_some]
          exact hrest _ _ hmore hslots'
      | build =>
          have hmade : (r.program language).session? default calls = some _ :=
            session?_program h hcalls
          rw [Program.session?, factories_program, makers_program, hslots] at hmade
          have hresolve : (r.invocation language (r.fieldNames language)).resolve? slots.value? =
            some ((r.passing language default).build calls) := hmade
          rw [Program.outcomes?, makers_program]
          change (Invocation.resolve? slots.value? _).bind _ = _
          rw [hresolve, Option.bind_some, hrest calls slots hcalls hslots]
          rfl

/-- The program of a record does what a builder does, if the values that were last passed stay
those that the builder holds. -/
theorem runs_program (h : (r.fieldNames language).Nodup) {w : Workings β S R} {start : β}
    {passed : S → Nat × α} {made? : Invocation α → Option R}
    (hpassed : ∀ setter, (passed setter).1 < r.components.length)
    (rel : β → List (Nat × α) → Prop) (hstart : rel start [])
    (hset : ∀ b calls setter, rel b calls → rel (w.set b setter) (calls ++ [passed setter]))
    (hbuild : ∀ b calls, rel b calls →
      made? (r.invocation language (r.lastArguments default calls)) = some (w.build b)) :
    (r.program language).Runs default w start passed made? := by
  intro uses
  refine ⟨_, outcomes?_program h ?_, Workings.outcomes_map hset hbuild hstart uses⟩
  intro c hc
  obtain ⟨u, -, hu⟩ := List.mem_map.mp hc
  cases u with
  | build => cases hu
  | set setter =>
      cases hu
      exact hpassed setter

end Record
end BuilderGen
