import BuilderGen.Failure

/-!
# BuilderGen.Proofs.Effect

**Running effects**, one operation at a time. A failure ends a sequence, and the state
stays as it was left.

Where the state does not matter, it is enough to know what results and what failures a
computation can come to (`Effect.ComesTo`); a sequence comes to what its last step does,
if the steps before it fail in no other way (`ComesTo.bind`).
-/

namespace BuilderGen.Effect

variable {σ α β : Type}

/-- What follows runs on the state that was left, unless there was a failure. -/
theorem runOn_bind (x : Effect σ α) (f : α → Effect σ β) (s : σ) :
    (x >>= f).runOn s =
      match x.runOn s with
      | (.ok a, s') => (f a).runOn s'
      | (.error failure, s') => (.error failure, s') := by
  change ExceptT.bindCont f (x s).1 (x s).2 = _
  unfold runOn
  rcases x s with ⟨_ | a, s'⟩ <;> rfl

@[simp] theorem runOn_pure (a : α) (s : σ) : (pure a : Effect σ α).runOn s = (.ok a, s) := rfl

@[simp] theorem runOn_get (s : σ) : (get : Effect σ σ).runOn s = (.ok s, s) := rfl

@[simp] theorem runOn_set (s s' : σ) : (set s' : Effect σ Unit).runOn s = (.ok (), s') := rfl

@[simp] theorem runOn_fail (cause : Cause) (s : σ) :
    (fail cause : Effect σ α).runOn s = (.error { cause }, s) := rfl

theorem runOn_during (undertaking : Undertaking) (x : Effect σ α) (s : σ) :
    (during undertaking x).runOn s =
      match x.runOn s with
      | (.ok a, s') => (.ok a, s')
      | (.error f, s') => (.error (f.of undertaking), s') := rfl

/-! ### What computations come to -/

/-- Whatever the state is, a result of the computation is a `good` one, and a failure a
`bad` one. -/
structure ComesTo (x : Effect σ α) (good : α → Prop) (bad : Failure → Prop) : Prop where
  ok : ∀ {s s' a}, x.runOn s = (.ok a, s') → good a
  error : ∀ {s s' failure}, x.runOn s = (.error failure, s') → bad failure

namespace ComesTo

variable {x : Effect σ α} {f : α → Effect σ β} {good : α → Prop} {good' : β → Prop}
  {bad bad' : Failure → Prop}

theorem pure {a : α} (h : good a) : ComesTo (Pure.pure a : Effect σ α) good bad where
  ok hrun := by
    cases hrun
    exact h
  error hrun := by cases hrun

theorem get : ComesTo (get : Effect σ σ) (fun _ => True) bad where
  ok _ := trivial
  error hrun := by cases hrun

theorem set (s : σ) : ComesTo (set s : Effect σ Unit) (fun _ => True) bad where
  ok _ := trivial
  error hrun := by cases hrun

theorem fail {cause : Cause} (h : bad { cause }) : ComesTo (fail cause : Effect σ α) good bad where
  ok hrun := by cases hrun
  error hrun := by
    cases hrun
    exact h

theorem mono (hx : x.ComesTo good bad) (hbad : ∀ failure, bad failure → bad' failure) :
    x.ComesTo good bad' where
  ok := hx.ok
  error hrun := hbad _ (hx.error hrun)

theorem bind (hx : x.ComesTo good bad) (hf : ∀ a, good a → (f a).ComesTo good' bad) :
    (x >>= f).ComesTo good' bad where
  ok {s s' b} hrun := by
    rw [runOn_bind] at hrun
    rcases hfirst : x.runOn s with ⟨failure | a, s1⟩ <;> rw [hfirst] at hrun
    · cases hrun
    · exact (hf a (hx.ok hfirst)).ok hrun
  error {s s' failure} hrun := by
    rw [runOn_bind] at hrun
    rcases hfirst : x.runOn s with ⟨failure' | a, s1⟩ <;> rw [hfirst] at hrun
    · cases hrun
      exact hx.error hfirst
    · exact (hf a (hx.ok hfirst)).error hrun

theorem during {undertaking : Undertaking}
    (hx : x.ComesTo good fun failure => bad (failure.of undertaking)) :
    (during undertaking x).ComesTo good bad where
  ok {s s' a} hrun := by
    rw [runOn_during] at hrun
    rcases hinner : x.runOn s with ⟨failure | a', s1⟩ <;> rw [hinner] at hrun
    · cases hrun
    · cases hrun
      exact hx.ok hinner
  error {s s' failure} hrun := by
    rw [runOn_during] at hrun
    rcases hinner : x.runOn s with ⟨failure' | a', s1⟩ <;> rw [hinner] at hrun
    · cases hrun
      exact hx.error hinner
    · cases hrun

theorem forM {γ : Type} {xs : List γ} {g : γ → Effect σ PUnit}
    (hg : ∀ c ∈ xs, (g c).ComesTo (fun _ => True) bad) :
    (xs.forM g).ComesTo (fun _ => True) bad := by
  induction xs with
  | nil => exact pure trivial
  | cons c rest ih =>
      obtain ⟨hc, hrest⟩ := List.forall_mem_cons.mp hg
      exact hc.bind fun _ _ => ih hrest

end ComesTo

end BuilderGen.Effect
