import BuilderGen.Manifest.Load
import BuilderGen.Proofs.Toml.Document

/-!
# BuilderGen.Proofs.Manifest.Declared

**A type is declared once.** The types of a manifest are the entries of a table, in order, so
no two of them have the same name (`Manifest.nodup_types_of_parse`).
-/

namespace BuilderGen

/-- A step after another has a result if both have. -/
theorem Except.bind_eq_ok {ε α β : Type} {x : Except ε α} {f : α → Except ε β} {b : β} :
    x >>= f = .ok b ↔ ∃ a, x = .ok a ∧ f a = .ok b := by
  cases x with
  | error e => simp [bind, Except.bind]
  | ok a => simp [bind, Except.bind]

/-- What every step of a run keeps, the run keeps if it has a result. -/
theorem Except.foldlM_keeps {ε σ α : Type} {step : σ → α → Except ε σ} {P : σ → Prop} {xs : List α}
    (hstep : ∀ x ∈ xs, ∀ {s s'}, P s → step s x = .ok s' → P s') :
    ∀ {s s' : σ}, P s → xs.foldlM step s = .ok s' → P s' := by
  induction xs with
  | nil =>
      intro s s' hs h
      rwa [← Except.ok.inj h]
  | cons x xs ih =>
      intro s s' hs h
      obtain ⟨hx, hxs⟩ := List.forall_mem_cons.mp hstep
      rw [List.foldlM_cons, Except.bind_eq_ok] at h
      obtain ⟨mid, hmid, hrest⟩ := h
      exact ih hxs (hx hs hmid) hrest

namespace Shape

open Toml (Value Entries)

theorem nodup_entries {value : Value} (hvalue : value.IsDistinct) {es : Entries}
    (h : entries value = .ok es) : (es.map Prod.fst).Nodup := by
  unfold entries at h
  split at h
  · rw [← Except.ok.inj h]
    exact Toml.DistinctKeys.nodup hvalue
  · rw [← Except.ok.inj h]
    exact List.nodup_singleton _
  · rw [unexpected, Except.bind_eq_ok] at h
    obtain ⟨_, -, h⟩ := h
    cases h

/-- Types have the names that are their keys. -/
theorem map_fst_of_mapM_type {es : Entries} : ∀ {types : List (String × TypeDecl)},
    (es.mapM fun (name, value) => do return (name, ← type value)) = Except.ok types →
      types.map Prod.fst = es.map Prod.fst := by
  induction es with
  | nil =>
      intro types h
      rw [← Except.ok.inj h]
      rfl
  | cons entry rest ih =>
      intro types h
      rw [List.mapM_cons, Except.bind_eq_ok] at h
      obtain ⟨t, ht, h⟩ := h
      obtain ⟨decl, -, ht⟩ := Except.bind_eq_ok.mp ht
      obtain ⟨others, hothers, h⟩ := Except.bind_eq_ok.mp h
      rw [← Except.ok.inj h, ← Except.ok.inj ht, List.map_cons, ih hothers]
      rfl

theorem nodup_types {value : Value} (hvalue : value.IsDistinct)
    {declared : List (String × TypeDecl)} (h : types value = .ok declared) :
    (declared.map Prod.fst).Nodup := by
  rw [types, Except.bind_eq_ok] at h
  obtain ⟨es, hes, h⟩ := h
  rw [map_fst_of_mapM_type h]
  exact nodup_entries hvalue hes

theorem nodup_types_of_manifest {root : Entries} (hroot : Toml.DistinctKeys root) {m : Manifest}
    (h : manifest root = .ok m) : (m.types.map Prod.fst).Nodup := by
  rw [manifest, Except.bind_eq_ok] at h
  obtain ⟨draft, hdraft, h⟩ := h
  have hnodup : (draft.types.map Prod.fst).Nodup := by
    refine Except.foldlM_keeps (P := fun draft => (draft.types.map Prod.fst).Nodup) ?_
      List.nodup_nil hdraft
    rintro ⟨key, value⟩ hmem before after hbefore hstep
    -- only the value of one key is read as types
    simp only at hstep
    split at hstep
    · obtain ⟨project, -, hstep⟩ := Except.bind_eq_ok.mp hstep
      rw [← Except.ok.inj hstep]
      exact hbefore
    · obtain ⟨types, htypes, hstep⟩ := Except.bind_eq_ok.mp hstep
      rw [← Except.ok.inj hstep]
      exact nodup_types (hroot.value hmem) htypes
    · obtain ⟨_, -, hstep⟩ := Except.bind_eq_ok.mp hstep
      rw [← Except.ok.inj hstep]
      exact hbefore
  split at h
  · rw [← Except.ok.inj h]
    exact hnodup
  · cases h

end Shape

namespace Manifest

/-- **A type is declared once.** -/
theorem nodup_types_of_parse {text : String} {m : Manifest} (h : parse text = .ok m) :
    (m.types.map Prod.fst).Nodup := by
  obtain ⟨htext, -⟩ := parse_eq_ok_iff.mp h
  rw [ofText] at htext
  split at htext
  next root hroot =>
    rw [ofDocument] at htext
    split at htext
    next m' hm' =>
      rw [← Except.ok.inj htext]
      exact Shape.nodup_types_of_manifest (Toml.distinctKeys_of_document? hroot) hm'
    next => cases htext
  next => cases htext

end Manifest
end BuilderGen
