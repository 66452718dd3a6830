import BuilderGen.Emit.Blueprint
import Mathlib.Data.List.Induction
import Mathlib.Data.List.Nodup

/-!
# BuilderGen.Proofs.Emit.Program

**Builders as programs.** A `Program` is what the syntax tree of a builder says when
it is read without knowing how it came about: the declared slots and, for every
method in order, what its body does. Types are taken as they are written, and what
setters are called is not read. A program is run strictly. A setter or `build` that
names a slot which is not declared has no result, and neither has a program with
more or fewer than one factory and one `build`.

The setters of a blueprint run without these checks. What they leave in a slot is the
value that was last passed to its setter (`Blueprint.Aligned.value?_run`). The
program that does what the blueprint lists (`Record.program`) has a result after every
sequence of setter calls, and makes the record from the same values
(`Record.session?_program`).
-/

namespace BuilderGen

open Blueprint (Slots)

variable {α β : Type}

/-- How a record is made from arguments: slot names in a program, values in a run. -/
inductive Invocation (α : Type)
  /-- `new` with the arguments in order. -/
  | create (type : String) (arguments : List α)
  /-- A literal that gives every field an argument. -/
  | literal (type : String) (fields : List (String × α))
  /-- A function of the record, called with the arguments in order. -/
  | call (type function : String) (arguments : List α)
  deriving DecidableEq, Repr

/-- The invocation with its arguments looked up. -/
def Invocation.resolve? (find? : α → Option β) : Invocation α → Option (Invocation β)
  | create type arguments => (arguments.mapM find?).map (create type)
  | literal type fields =>
      (fields.mapM fun f => (find? f.2).map (Prod.mk f.1)).map (literal type)
  | call type function arguments => (arguments.mapM find?).map (call type function)

/-- The fields of a record's components, in order. -/
def Record.fieldNames (language : Language) (r : Record) : List String :=
  r.components.map fun c => language.fieldName c.name

/-- The invocation of a record's constructor. Classes are always made with `new`; structs
by a literal, whose fields have the names of the slots, or by the declared function. -/
def Record.invocation (language : Language) (r : Record) (arguments : List α) : Invocation α :=
  match language, r.constructor with
  | .java, _ => .create r.name arguments
  | .rust, .literal =>
      .literal r.name ((r.fieldNames language).zip arguments)
  | .rust, .function name _ => .call r.name name arguments

/-- What a method of a builder does. -/
inductive Member
  /-- Leaves a new builder as it is: a constructor without statements. -/
  | hidden
  /-- Returns a new builder, with every slot at its default. -/
  | factory
  /-- Makes the record from what the named slots hold. -/
  | maker (makes : Invocation String)
  /-- Stores its parameter in a slot and returns the builder. -/
  | setter (slot : String)
  deriving DecidableEq, Repr

/-- The slots a builder declares and what its methods do, in order. -/
structure Program where
  slots : List Slot
  members : List Member
  deriving DecidableEq, Repr

namespace Program

/-- The number of factories. -/
def factories (p : Program) : Nat := p.members.count .factory

/-- What each `build` makes, in order. -/
def makers (p : Program) : List (Invocation String) :=
  p.members.filterMap fun | .maker makes => some makes | _ => none

/-- The slot that each setter stores in, in order. -/
def setters (p : Program) : List String :=
  p.members.filterMap fun | .setter slot => some slot | _ => none

/-- The slots of a new builder, by the default of each type. -/
def start (p : Program) (default : String → α) : Slots α :=
  p.slots.map fun s => (s.name, default s.type)

/-- Stores a value in a slot that is declared. -/
def assign? (slots : Slots α) (name : String) (value : α) : Option (Slots α) :=
  if (slots.value? name).isSome then some (slots.store name value) else none

/-- The slots after a call of the setter at a position. -/
def call? (p : Program) (slots : Slots α) (c : Nat × α) : Option (Slots α) :=
  p.setters[c.1]?.bind fun name => assign? slots name c.2

/-- A session with a builder: it is made by the factory, its setters are called at the
positions and with the values of `calls`, and it is built. The result is what the
record is made from. -/
def session? (p : Program) (default : String → α) (calls : List (Nat × α)) :
    Option (Invocation α) :=
  match p.factories, p.makers with
  | 1, [makes] => (calls.foldlM p.call? (p.start default)).bind fun slots =>
      makes.resolve? slots.value?
  | _, _ => none

end Program

/-- The value last passed to the setter at a position. -/
def lastPassed (calls : List (Nat × α)) (position : Nat) : Option α :=
  ((calls.filter fun c => c.1 = position).map Prod.snd).getLast?

theorem lastPassed_append (calls : List (Nat × α)) (c : Nat × α) (position : Nat) :
    lastPassed (calls ++ [c]) position =
      if c.1 = position then some c.2 else lastPassed calls position := by
  by_cases h : c.1 = position
  · simp [lastPassed, h]
  · simp [lastPassed, h]

/-! ### What the setters of a blueprint store -/

namespace Blueprint

/-- In a blueprint whose lists belong together, setters name the slots in the order of
their declaration, and no two slots have one name. -/
structure Aligned (b : Blueprint) : Prop where
  setters : b.setters.map Setter.slot = b.slots.map Slot.name
  distinct : (b.slots.map Slot.name).Nodup

theorem run_append (b : Blueprint) (calls : List (Nat × α)) (c : Nat × α) :
    b.run (calls ++ [c]) = b.call (b.run calls) c.1 c.2 := by
  simp [run]

theorem Aligned.getElem?_setters {b : Blueprint} (h : b.Aligned) (i : Nat) :
    b.setters[i]?.map Setter.slot = b.slots[i]?.map Slot.name := by
  rw [← List.getElem?_map, ← List.getElem?_map, h.setters]

/-- Slots of one name are at one position. -/
theorem Aligned.name_inj {b : Blueprint} (h : b.Aligned) {i j : Nat} (hi : i < b.slots.length)
    (hj : j < b.slots.length) : i = j ↔ b.slots[i].name = b.slots[j].name := by
  have hinj := @List.Nodup.getElem_inj_iff _ _ h.distinct i (by simpa using hi) j
    (by simpa using hj)
  rw [← hinj, List.getElem_map, List.getElem_map]

/-- A slot holds what was last passed to its setter. -/
theorem Aligned.value?_run {b : Blueprint} (h : b.Aligned) {i : Nat} (hi : i < b.slots.length)
    (calls : List (Nat × α)) : (b.run calls).value? b.slots[i].name = lastPassed calls i := by
  -- from the last call backwards, since it is the one that counts
  induction calls using List.reverseRecOn with
  | nil => rfl
  | append_singleton calls c ih =>
      have hslot := h.getElem?_setters c.1
      rw [run_append, lastPassed_append, call]
      cases hs : b.setters[c.1]? with
      | none =>
          -- no slot is declared at the position of the call
          have hne : c.1 ≠ i := by
            intro heq
            subst heq
            simp [hs, List.getElem?_eq_getElem hi] at hslot
          simpa [hne] using ih
      | some s =>
          rw [hs, Option.map_some, eq_comm, Option.map_eq_some_iff] at hslot
          obtain ⟨t, ht, hname⟩ := hslot
          obtain ⟨hlt, rfl⟩ := List.getElem?_eq_some_iff.mp ht
          have hiff : b.slots[i].name = s.slot ↔ c.1 = i := by
            rw [← hname, ← h.name_inj hi hlt, eq_comm]
          simp only [Slots.value?, Slots.store, List.lookup_cons] at ih ⊢
          by_cases hci : c.1 = i
          · rw [beq_iff_eq.mpr (hiff.mpr hci)]
            simp [hci]
          · rw [beq_eq_false_iff_ne.mpr (fun e => hci (hiff.mp e))]
            simpa [hci] using ih

@[simp] theorem builder_ofRecord (language : Language) (r : Record) :
    (ofRecord language r).builder = r.builderName := rfl

/-- However the record is made, `build` names the fields of its components in order. -/
theorem arguments_ofRecord (language : Language) (r : Record) :
    (ofRecord language r).arguments = r.fieldNames language := by
  cases language with
  | java => rfl
  | rust =>
      cases hc : r.constructor <;> simp [arguments, ofRecord, constructionOf, Record.fieldNames, hc]

theorem slotNames_ofRecord (language : Language) (r : Record) :
    (ofRecord language r).slots.map Slot.name = r.fieldNames language := by
  simp [ofRecord, slotOf, Record.fieldNames]

/-- A setter of the blueprint stores in the field its parameter is named for. -/
theorem slot_mem_of_mem_setters {language : Language} {r : Record} {s : Setter}
    (hs : s ∈ (ofRecord language r).setters) :
    s.parameter = s.slot ∧ s.slot ∈ r.fieldNames language := by
  obtain ⟨c, hc, rfl⟩ := List.mem_map.mp hs
  exact ⟨rfl, List.mem_map_of_mem hc⟩

/-- The lists of a record's blueprint belong together, when its slots have distinct names. -/
theorem aligned_ofRecord {language : Language} {r : Record}
    (h : (r.fieldNames language).Nodup) :
    (ofRecord language r).Aligned where
  setters := by simp [ofRecord, setterOf, slotOf]
  distinct := by rwa [slotNames_ofRecord]

end Blueprint

/-! ### Programs do what blueprints list -/

theorem mapM_eq_some_map {f : α → Option β} {g : α → β} {xs : List α}
    (h : ∀ x ∈ xs, f x = some (g x)) : xs.mapM f = some (xs.map g) := by
  induction xs with
  | nil => rfl
  | cons x xs ih =>
      obtain ⟨hx, hxs⟩ := List.forall_mem_cons.mp h
      simp [hx, ih hxs]

/-- When all arguments are found, the record's constructor is invoked with what they are. -/
theorem Record.resolve?_invocation {γ : Type} {language : Language} {r : Record}
    {find? : α → Option β} {key : γ → α} {g : γ → β} {xs : List γ}
    (h : ∀ x ∈ xs, find? (key x) = some (g x)) :
    (r.invocation language (xs.map key)).resolve? find? =
      some (r.invocation language (xs.map g)) := by
  have hargs : (xs.map key).mapM find? = some (xs.map g) := by
    rw [List.mapM_map]
    exact mapM_eq_some_map h
  cases language with
  | java => simp [invocation, Invocation.resolve?, hargs]
  | rust =>
      cases hc : r.constructor with
      | literal =>
          simp only [invocation, hc, Invocation.resolve?, List.zip_map_right, List.mapM_map]
          rw [mapM_eq_some_map (g := Prod.map id g) fun f hf => by
            simp [h f.2 (List.of_mem_zip hf).2, Prod.map]]
          rfl
      | function name returns => simp [invocation, hc, Invocation.resolve?, hargs]

/-- A new builder has the default of its type in every slot that is declared. -/
theorem Program.value?_start {p : Program} {default : String → α}
    (h : (p.slots.map Slot.name).Nodup) {s : Slot} (hs : s ∈ p.slots) :
    Slots.value? (p.start default) s.name = some (default s.type) := by
  unfold start Slots.value?
  generalize p.slots = slots at h hs
  induction slots with
  | nil => cases hs
  | cons t slots ih =>
      rw [List.map_cons, List.nodup_cons] at h
      rw [List.map_cons, List.lookup_cons]
      rcases List.mem_cons.mp hs with rfl | hmem
      · simp
      · have hne : s.name ≠ t.name := fun e => h.1 (e ▸ List.mem_map_of_mem hmem)
        rw [beq_eq_false_iff_ne.mpr hne]
        exact ih h.2 hmem

namespace Record

variable {language : Language} {r : Record} {default : String → α}

/-- The program that does what the blueprint of a record lists. Only a class needs to hide
its constructor. -/
def program (language : Language) (r : Record) : Program where
  slots := (Blueprint.ofRecord language r).slots
  members :=
    (match language with | .java => [.hidden] | .rust => []) ++
    [.factory, .maker (r.invocation language (Blueprint.ofRecord language r).arguments)] ++
    (Blueprint.ofRecord language r).setters.map fun s => .setter s.slot

@[simp] theorem slots_program :
    (r.program language).slots = (Blueprint.ofRecord language r).slots := rfl

@[simp] theorem factories_program : (r.program language).factories = 1 := by
  cases language <;> simp [program, Program.factories, List.count_eq_zero]

@[simp] theorem makers_program :
    (r.program language).makers = [r.invocation language (r.fieldNames language)] := by
  cases language <;>
    simp [program, Program.makers, Blueprint.arguments_ofRecord, List.filterMap_map]

@[simp] theorem setters_program : (r.program language).setters = r.fieldNames language := by
  cases language <;>
    simp [program, Program.setters, Blueprint.ofRecord, Blueprint.setterOf, fieldNames,
      List.filterMap_map, Function.comp_def]

theorem value?_start_program (h : (r.fieldNames language).Nodup) (default : String → α)
    {c : Component} (hc : c ∈ r.components) :
    Slots.value? ((r.program language).start default) (language.fieldName c.name) =
      some (default c.type) :=
  Program.value?_start (s := Blueprint.slotOf language c)
    (by rwa [slots_program, Blueprint.slotNames_ofRecord]) (List.mem_map_of_mem hc)

/-- A setter stores in a declared slot: a call goes through, and leaves on top of the
defaults what it leaves in the blueprint. -/
theorem call?_program (h : (r.fieldNames language).Nodup)
    {c : Nat × α} (hc : c.1 < r.components.length) (slots : Slots α) :
    (r.program language).call? (slots ++ (r.program language).start default) c =
      some ((Blueprint.ofRecord language r).call slots c.1 c.2 ++
        (r.program language).start default) := by
  have hstart := value?_start_program h default (List.getElem_mem hc)
  have hdeclared : (Slots.value? (slots ++ (r.program language).start default)
      (language.fieldName r.components[c.1].name)).isSome = true := by
    unfold Slots.value? at hstart ⊢
    rw [List.lookup_append, hstart]
    simp
  have hsetter : (Blueprint.ofRecord language r).setters[c.1]? =
      some (Blueprint.setterOf language r.components[c.1]) := by
    simp [Blueprint.ofRecord, hc]
  rw [Program.call?, setters_program, fieldNames, List.getElem?_map, List.getElem?_eq_getElem hc,
    Blueprint.call, hsetter]
  exact if_pos hdeclared

theorem foldlM_call?_program (h : (r.fieldNames language).Nodup)
    {calls : List (Nat × α)} (hcalls : ∀ c ∈ calls, c.1 < r.components.length) :
    calls.foldlM (r.program language).call? ((r.program language).start default) =
      some ((Blueprint.ofRecord language r).run calls ++ (r.program language).start default) := by
  -- after some calls there are values on top of the defaults
  suffices hrun : ∀ slots : Slots α,
      calls.foldlM (r.program language).call? (slots ++ (r.program language).start default) =
        some (calls.foldl (fun slots c => (Blueprint.ofRecord language r).call slots c.1 c.2)
          slots ++ (r.program language).start default) from hrun []
  induction calls with
  | nil => intro slots; rfl
  | cons c calls ih =>
      obtain ⟨hc, hcs⟩ := List.forall_mem_cons.mp hcalls
      intro slots
      rw [List.foldlM_cons, call?_program h hc]
      exact ih hcs _

/-- **The program of a record** makes the record from what was last passed to the setters,
and from the defaults of the slots whose setter was not called. -/
theorem session?_program (h : (r.fieldNames language).Nodup)
    {calls : List (Nat × α)} (hcalls : ∀ c ∈ calls, c.1 < r.components.length) :
    (r.program language).session? default calls =
      some (r.invocation language
        (r.components.mapIdx fun i c => (lastPassed calls i).getD (default c.type))) := by
  -- what the slot of a component holds in the end
  have hvalue : ∀ c ∈ r.components,
      Slots.value? ((Blueprint.ofRecord language r).run calls ++ (r.program language).start default)
        (language.fieldName c.name) =
      some ((((Blueprint.ofRecord language r).run calls).value?
        (language.fieldName c.name)).getD (default c.type)) := by
    intro c hc
    have hstart := value?_start_program h default hc
    unfold Slots.value? at hstart ⊢
    rw [List.lookup_append, hstart]
    cases List.lookup (language.fieldName c.name)
      ((Blueprint.ofRecord language r).run calls) <;> rfl
  rw [Program.session?, factories_program, makers_program, foldlM_call?_program h hcalls]
  refine (resolve?_invocation hvalue).trans (congrArg _ (congrArg _ ?_))
  refine List.ext_getElem (by simp) fun i hi hi' => ?_
  have hlast := (Blueprint.aligned_ofRecord h).value?_run (i := i)
    (by simpa [Blueprint.ofRecord] using hi) calls
  simp only [Blueprint.ofRecord, Blueprint.slotOf, List.getElem_map] at hlast
  simp [Blueprint.ofRecord, hlast]

end Record
end BuilderGen
