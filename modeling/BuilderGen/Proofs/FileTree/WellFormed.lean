import BuilderGen.Proofs.FileTree.Write

/-!
# BuilderGen.Proofs.FileTree.WellFormed

**Well-formed trees**: those that stand for what a disk can hold. Entries have names
that a path can lead to, what holds an entry is a directory, and the working directory
is there. A list of locations does not have to be like this, but the empty tree is, and
making directories and writing and removing files keeps it so.
-/

namespace BuilderGen
namespace FileTree

open BuilderGen.Path (IsName NoSlash)

/-- A tree whose entries have names, and stand in directories. -/
structure WellFormed (t : FileTree) : Prop where
  name : ∀ {l : Location} {name : Name} {entry : Entry},
    t.get? (l ++ [name]) = some entry → IsName name ∧ NoSlash name
  directory : ∀ {l : Location} {name : Name} {entry : Entry},
    t.get? (l ++ [name]) = some entry → t.get? l = some .directory
  workingDirectory : t.get? t.workingDirectory = some .directory

theorem wellFormed_empty : WellFormed {} where
  name h := by simp [get?] at h
  directory h := by simp [get?] at h
  workingDirectory := rfl

namespace WellFormed

variable {t : FileTree}

/-- What stands above something is a directory. -/
theorem directory_of_append (ht : t.WellFormed) {l : Location} :
    ∀ {names : List Name} {entry : Entry}, names ≠ [] → t.get? (l ++ names) = some entry →
      t.get? l = some .directory := by
  intro names
  induction names using List.reverseRecOn with
  | nil => intro _ h; exact absurd rfl h
  | append_singleton names name ih =>
      intro entry _ h
      rw [← List.append_assoc] at h
      have hdir := ht.directory h
      by_cases hnil : names = []
      · simpa [hnil] using hdir
      · exact ih hnil hdir

/-- What a directory is in is a directory. -/
theorem directory_of_prefix (ht : t.WellFormed) {l l' : Location} (h : l <+: l')
    (hdir : t.get? l' = some .directory) : t.get? l = some .directory := by
  obtain ⟨names, rfl⟩ := h
  by_cases hnil : names = []
  · simpa [hnil] using hdir
  · exact ht.directory_of_append hnil hdir

theorem dropLast (ht : t.WellFormed) {l : Location} (hdir : t.get? l = some .directory) :
    t.get? l.dropLast = some .directory :=
  ht.directory_of_prefix (List.dropLast_prefix l) hdir

/-- The names on the way to an entry are names. -/
theorem isName_of_mem (ht : t.WellFormed) {l : Location} {names : List Name} {entry : Entry}
    (h : t.get? (l ++ names) = some entry) {name : Name} (hname : name ∈ names) :
    IsName name ∧ NoSlash name := by
  obtain ⟨before, after, rfl⟩ := List.append_of_mem hname
  rw [← List.singleton_append, ← List.append_assoc, ← List.append_assoc] at h
  by_cases hnil : after = []
  · rw [hnil, List.append_nil] at h
    exact ht.name h
  · exact ht.name (ht.directory_of_append hnil h)

/-- An entry may be put into a directory, as long as no directory is replaced. -/
theorem put (ht : t.WellFormed) {l : Location} {name : Name} (entry : Entry)
    (hname : IsName name ∧ NoSlash name) (hl : t.get? l = some .directory)
    (hnew : t.get? (l ++ [name]) ≠ some .directory) : (t.put (l ++ [name]) entry).WellFormed := by
  have hkeep : ∀ k, t.get? k = some .directory →
      (t.put (l ++ [name]) entry).get? k = some .directory := by
    intro k hk
    have hne : k ≠ l ++ [name] := fun heq => hnew (heq ▸ hk)
    rw [get?_put _ _ _ (by simp), if_neg hne, hk]
  refine ⟨fun {k _ e} h => ?_, fun {k _ e} h => ?_, hkeep _ ht.workingDirectory⟩
  · rw [get?_put _ _ _ (by simp)] at h
    split at h
    next heq =>
      obtain ⟨-, hnames⟩ := List.append_inj' heq rfl
      rw [(List.cons.inj hnames).1]
      exact hname
    next => exact ht.name h
  · rw [get?_put _ _ _ (by simp)] at h
    split at h
    next heq =>
      obtain ⟨rfl, -⟩ := List.append_inj' heq rfl
      exact hkeep _ hl
    next => exact hkeep _ (ht.directory h)

/-- A file may be removed. -/
theorem erase (ht : t.WellFormed) {l : Location} (hl : t.get? l ≠ some .directory) :
    (t.erase l).WellFormed := by
  have hroot : l ≠ [] := fun heq => hl (by rw [heq]; rfl)
  have hkeep : ∀ k, t.get? k = some .directory → (t.erase l).get? k = some .directory := by
    intro k hk
    have hne : k ≠ l := fun heq => hl (heq ▸ hk)
    rw [get?_erase _ _ hroot, if_neg hne, hk]
  have hsome : ∀ {k entry}, (t.erase l).get? k = some entry → t.get? k = some entry := by
    intro k entry h
    rw [get?_erase _ _ hroot] at h
    split at h
    next => cases h
    next => exact h
  exact ⟨fun h => ht.name (hsome h), fun h => hkeep _ (ht.directory (hsome h)),
    hkeep _ ht.workingDirectory⟩

end WellFormed
end FileTree
end BuilderGen
