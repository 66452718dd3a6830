import BuilderGen.Proofs.FileTree.Write

/-!
# BuilderGen.Proofs.FileTree.Takes

**When a file can be written** in a tree without links. That is seen from the tree and the path
before anything is done (`Filing.exists_writeAtomic_iff`): nothing is wrong with the path, what
stands on the way are directories, those that are missing can be made (`Enterable`), and neither
stands a directory in the place of the file nor is one made there.

Writing another file makes no difference to it, as long as neither file is on the way to the
other (`Takes.iff_of_changes`). Directories that were made for the other one could have been made
for this one.
-/

namespace BuilderGen

open BuilderGen.Path (entered)

namespace FileTree

/-! ### Directories that can be made -/

/-- A directory stands at a location, or nothing does and one can be made there. -/
def Enterable (t : FileTree) (l : Location) : Prop :=
  t.get? l = some .directory ∨
    t.get? l = none ∧ ∃ name, l.getLast? = some name ∧ name.isUsable = true

/-- Directories that can be made make no difference to whether others can. -/
theorem enterable_iff_of_changes {written way : List Location} {t t' : FileTree}
    (h : Changes written way t t') (hway : ∀ l ∈ way, t.Enterable l) {l : Location}
    (hl : l ∉ written) : t'.Enterable l ↔ t.Enterable l := by
  rcases h.other l hl with heq | ⟨hmem, -, hdir⟩
  · rw [Enterable, Enterable, heq]
  · exact ⟨fun _ => hway l hmem, fun _ => Or.inl hdir⟩

/-- Making directories gets to the end if there are directories, or none that cannot be made,
wherever the steps enter. -/
theorem makeSteps_isSome_iff (links : Nat) (steps : List Path.Step) :
    ∀ {t : FileTree} (here : Location), t.NoLinks →
      ((t.makeSteps links here steps).2.isSome = true ↔
        ∀ e ∈ entered here steps, t.Enterable e) := by
  induction steps with
  | nil => intro t here _; simp [makeSteps, entered]
  | cons step rest ih =>
      intro t here ht
      cases step with
      | stay => exact ih here ht
      | up => exact ih here.dropLast ht
      | into name =>
          have hne : here ++ [name] ≠ [] := by simp
          rw [makeSteps, entered, List.forall_mem_cons]
          cases hget : t.get? (here ++ [name]) with
          | none =>
              have hput := changes_put_directory hne hget
              have henter : t.Enterable (here ++ [name]) ↔ name.isUsable = true := by
                simp [Enterable, hget]
              by_cases hname : name.isUsable = true
              · -- the rest goes on in the tree with the directory, and that makes no difference
                have hone : ∀ l ∈ [here ++ [name]], t.Enterable l := by
                  simpa using henter.mpr hname
                simp only [hname, if_true, henter, true_and]
                rw [ih _ (hput.noLinks ht (by simp))]
                exact forall₂_congr fun e _ => enterable_iff_of_changes hput hone (by simp)
              · simp [hname, henter]
          | some entry =>
              cases entry with
              | file bytes => simp [Enterable, hget]
              | link target => exact absurd hget (ht _ target)
              | directory =>
                  have henter : t.Enterable (here ++ [name]) := Or.inl hget
                  simp only [henter, true_and]
                  exact ih _ ht

/-- The directory of a path can be made if its name is usable and so is the way. -/
theorem Ends.makeDirectories_isSome_iff {t : FileTree} (ht : t.NoLinks) {path : String}
    {front : List Name} {name : Name} (h : Ends path front name) :
    (t.makeDirectories (Path.directoryOf path)).2.isSome = true ↔
      Path.isUsable (Path.directoryOf path) = true ∧ ∀ l ∈ t.way path, t.Enterable l := by
  rw [makeDirectories]
  by_cases husable : Path.isUsable (Path.directoryOf path) = true
  · rw [if_pos husable, makeSteps_isSome_iff _ _ _ ht, h.entered_directoryOf, h.start_directoryOf,
      ← h.way]
    simp [husable]
  · simp [husable]

/-! ### Files -/

/-- Nothing is wrong with a path, the directories on the way are there or can be made, and no
directory stands where the path leads to. -/
structure Takes (t : FileTree) (path : String) : Prop where
  usable : Path.isUsable path = true
  parent : Path.isUsable (Path.directoryOf path) = true
  name : (Path.lastName? path).isSome = true
  room : t.canStage (Path.directoryOf path) = true
  way : ∀ l ∈ t.way path, t.Enterable l
  free : t.get? (t.destination path) ≠ some .directory

/-- What has been written elsewhere makes no difference. -/
theorem Takes.iff_of_changes {written passed : List Location} {t t' : FileTree}
    (h : Changes written passed t t') (hpassed : ∀ l ∈ passed, t.Enterable l) {path : String}
    (hway : ∀ l ∈ written, l ∉ t.way path) (hnew : t.destination path ∉ written)
    (hfree : t.destination path ∉ passed) : t'.Takes path ↔ t.Takes path := by
  have henter : (∀ l ∈ t'.way path, t'.Enterable l) ↔ ∀ l ∈ t.way path, t.Enterable l := by
    rw [h.way]
    exact forall₂_congr fun l hl =>
      enterable_iff_of_changes h hpassed fun hmem => hway l hmem hl
  have hplace : t'.get? (t'.destination path) = t.get? (t.destination path) := by
    rw [h.destination]
    exact (h.other _ hnew).resolve_right fun ⟨hmem, _⟩ => hfree hmem
  refine ⟨fun htakes => ?_, fun htakes => ?_⟩
  · exact ⟨htakes.usable, htakes.parent, htakes.name, h.canStage _ ▸ htakes.room,
      henter.mp htakes.way, hplace ▸ htakes.free⟩
  · exact ⟨htakes.usable, htakes.parent, htakes.name, (h.canStage _).symm ▸ htakes.room,
      henter.mpr htakes.way, hplace.symm ▸ htakes.free⟩

/-- After one file has been written, another one can be if it could before and neither is on the
way to the other. -/
theorem Takes.iff_of_stored {t t' : FileTree} {path other content : String}
    (hpath : t.Takes path) (h : Changes [t.destination path] (t.way path) t t')
    (hstored : t'.Stored path content) (hne : t.destination other ≠ t.destination path) :
    t'.Takes other ↔ t.Takes other ∧ t.destination path ∉ t.way other ∧
      t.destination other ∉ t.way path := by
  have hfile := hstored.file
  have hdirectories := hstored.directories
  rw [h.destination] at hfile
  rw [h.way] at hdirectories
  have hiff : t.destination path ∉ t.way other → t.destination other ∉ t.way path →
      (t'.Takes other ↔ t.Takes other) := fun hway hfree =>
    Takes.iff_of_changes h hpath.way (List.forall_mem_singleton.mpr hway) (by simpa using hne) hfree
  refine ⟨fun hother => ?_, fun ⟨hother, hway, hfree⟩ => (hiff hway hfree).mpr hother⟩
  have hway : t.destination path ∉ t.way other := by
    intro hmem
    have henter := hother.way _ (h.way other ▸ hmem)
    simp [Enterable, hfile] at henter
  have hfree : t.destination other ∉ t.way path := by
    intro hmem
    exact hother.free (h.destination other ▸ hdirectories _ hmem)
  exact ⟨(hiff hway hfree).mp hother, hway, hfree⟩

end FileTree

namespace Filing

open FileTree

/-- **When a file can be written.** -/
theorem exists_writeAtomic_iff {t : FileTree} (ht : t.NoLinks) {path : String}
    {front : List Name} {name : Name} (hpath : Ends path front name) (content : String) :
    (∃ t', (writeAtomic path content).runOn t = (.ok (), t')) ↔
      t.Takes path ∧ t.destination path ∉ t.way path := by
  obtain ⟨hchanges, hdone⟩ := hpath.makeDirectories_outcome ht
  have hiff := hpath.makeDirectories_isSome_iff ht
  rcases hmade : t.makeDirectories (Path.directoryOf path) with ⟨t1, _ | directory⟩
  · rw [hmade] at hiff
    have hnot : ¬ t.Takes path := fun htakes =>
      Bool.false_ne_true (hiff.mpr ⟨htakes.parent, htakes.way⟩)
    rw [runOn_writeAtomic, hmade]
    simp [hnot]
  · rw [hmade] at hchanges hdone hiff
    obtain ⟨hparent, hdestination, hdirectories⟩ := hdone directory rfl
    have henter := (hiff.mp rfl).2
    have hwrite := runOn_writeAtomic_of_made hpath content hmade
    rw [hdestination] at hwrite
    have hadmits : t1.Admits path (t.destination path) ↔
        t.Takes path ∧ t.destination path ∉ t.way path := by
      refine ⟨fun h => ?_, fun ⟨h, hway⟩ => ?_⟩
      · -- where the way leads through, there is a directory now
        have hway : t.destination path ∉ t.way path := fun hmem => h.free (hdirectories _ hmem)
        have hplace := (hchanges.other _ (by simp)).resolve_right fun ⟨hmem, _⟩ => hway hmem
        exact ⟨⟨h.usable, hparent, h.name, hchanges.canStage _ ▸ h.room, henter,
          hplace ▸ h.free⟩, hway⟩
      · have hplace := (hchanges.other _ (by simp)).resolve_right fun ⟨hmem, _⟩ => hway hmem
        exact ⟨(hchanges.canStage _).symm ▸ h.room, h.usable, h.name, hplace.symm ▸ h.free⟩
    rcases hwrite with ⟨hyes, hrun⟩ | ⟨hno, failure, hrun⟩
    · exact ⟨fun _ => hadmits.mp hyes, fun _ => ⟨_, hrun⟩⟩
    · rw [hrun]
      exact ⟨fun ⟨_, hok⟩ => (nomatch hok), fun h => absurd (hadmits.mpr h) hno⟩

end Filing
end BuilderGen
