import BuilderGen.Proofs.Effect
import BuilderGen.Proofs.FileTree.Way
import BuilderGen.Proofs.Text.ByteOrder
import Mathlib.Tactic.ByContra

/-!
# BuilderGen.Proofs.FileTree.Write

**Atomic writing.** Writing a file in a tree without links has one of two outcomes
(`writeAtomic_outcome`). Either the file is there with its content (`Stored`), and what
else changed are directories on the way to it; or it failed, and only such directories
changed. The staged file is in no outcome: nothing stood where it was staged, and the tree
is in the end as if it had been put to its destination right away, or not at all
(`persist?_stage_eq_some_iff`, `erase_stage`).

A file that is stored already can be written again, and nothing changes
(`writeAtomic_of_stored`).
-/

namespace BuilderGen

open BuilderGen.Path (arrive)

namespace FileTree

/-! ### Stored files -/

/-- A file that has been written: it is there with its content, so are the directories on
the way, and nothing is wrong with its path and that of its directory. -/
structure Stored (t : FileTree) (path content : String) : Prop where
  usable : Path.isUsable path = true
  parent : Path.isUsable (Path.directoryOf path) = true
  name : (Path.lastName? path).isSome = true
  room : t.canStage (Path.directoryOf path) = true
  directories : ∀ l ∈ t.way path, t.get? l = some .directory
  file : t.get? (t.destination path) = some (.file content.toUTF8)

/-- A tree that admits a file at a location: nothing is wrong with its path, and no directory
stands in its place. -/
structure Admits (t : FileTree) (path : String) (l : Location) : Prop where
  room : t.canStage (Path.directoryOf path) = true
  usable : Path.isUsable path = true
  name : (Path.lastName? path).isSome = true
  free : t.get? l ≠ some .directory

/-- A stored file stays stored while others are written. -/
theorem Stored.of_changes {written passed : List Location} {t t' : FileTree} {path content : String}
    (h : t.Stored path content) (hchanges : Changes written passed t t')
    (hnew : t.destination path ∉ written) : t'.Stored path content where
  usable := h.usable
  parent := h.parent
  name := h.name
  room := by rw [hchanges.canStage, h.room]
  directories l hl := by
    rw [hchanges.way] at hl
    exact hchanges.directory l (h.directories l hl)
  file := by
    rw [hchanges.destination]
    rcases hchanges.other _ hnew with heq | ⟨-, hnone, -⟩
    · rw [heq, h.file]
    · rw [h.file] at hnone
      cases hnone

/-- A tree stays without links when a file is written. -/
theorem Stored.noLinks {way : List Location} {t t' : FileTree} {path content : String}
    (h : t'.Stored path content) (hchanges : Changes [t.destination path] way t t')
    (ht : t.NoLinks) : t'.NoLinks := by
  refine hchanges.noLinks ht fun l hl => ?_
  rw [List.mem_singleton.mp hl, ← hchanges.destination]
  exact ⟨_, h.file⟩

/-- A stored file is read with the content it was written with. -/
theorem Stored.readText?_eq {t : FileTree} {path content : String} {front : List Name}
    {name : Name} (h : t.Stored path content) (hpath : Ends path front name) :
    t.readText? path = some content := by
  have hdirs := h.directories
  have hfile := h.file
  rw [hpath.way] at hdirs
  rw [hpath.destination] at hfile
  rw [readText?, find?_of_entered h.usable hpath.steps hdirs hfile]
  exact Text.fromUTF8?_toUTF8 content

/-! ### Writing what is there

An entry that is put where it stands, and one that is put and removed again, leave the
entries as they are, in the same order. -/

theorem putEntry_of_lookup {l : Location} {entry : Entry} {entries : List (Location × Entry)}
    (h : entries.lookup l = some entry) : putEntry l entry entries = entries := by
  induction entries with
  | nil => cases h
  | cons e rest ih =>
      obtain ⟨k, e⟩ := e
      rw [List.lookup_cons] at h
      by_cases hk : l = k
      · rw [hk, beq_self_eq_true] at h
        rw [putEntry, if_pos hk.symm, Option.some.inj h]
      · rw [beq_eq_false_iff_ne.mpr hk] at h
        rw [putEntry, if_neg (Ne.symm hk), ih h]

theorem putEntry_of_lookup_none {l : Location} {entry : Entry} {entries : List (Location × Entry)}
    (h : entries.lookup l = none) : putEntry l entry entries = entries ++ [(l, entry)] := by
  induction entries with
  | nil => rfl
  | cons e rest ih =>
      obtain ⟨k, e⟩ := e
      rw [List.lookup_cons] at h
      by_cases hk : l = k
      · rw [hk, beq_self_eq_true] at h
        cases h
      · rw [beq_eq_false_iff_ne.mpr hk] at h
        rw [putEntry, if_neg (Ne.symm hk), ih h, List.cons_append]

theorem put_of_get? {t : FileTree} {l : Location} {entry : Entry} (hl : l ≠ [])
    (h : t.get? l = some entry) : t.put l entry = t := by
  rw [get?, if_neg hl] at h
  rw [put, putEntry_of_lookup h]

theorem erase_put_of_get? {t : FileTree} {l : Location} (entry : Entry) (hl : l ≠ [])
    (h : t.get? l = none) : (t.put l entry).erase l = t := by
  rw [get?, if_neg hl] at h
  have hkeep : t.entries.filter (·.1 != l) = t.entries := by
    rw [List.filter_eq_self]
    intro e he
    rw [List.lookup_eq_none_iff] at h
    rw [bne_iff_ne]
    exact Ne.symm (by simpa using h e he)
  simp [put, erase, putEntry_of_lookup_none h, hkeep]

/-! ### Staging

A staged file is put beside its destination under a name that nothing has there. So it
leaves nothing behind when it is moved or removed. -/

theorem byteCount_replicate (n : Nat) : Text.byteCount (List.replicate n '0') = n := by
  induction n with
  | zero => rfl
  | succ n ih =>
      rw [List.replicate_succ, Text.byteCount_cons, ih, Nat.add_comm]
      rfl

theorem byteCount_le_namesLength {name : Name} {entry : Entry} {entries : List (Name × Entry)}
    (h : (name, entry) ∈ entries) : name.byteCount ≤ namesLength entries := by
  induction entries with
  | nil => cases h
  | cons e rest ih =>
      rw [namesLength]
      rcases List.mem_cons.mp h with rfl | h
      · exact Nat.le_add_right ..
      · exact Nat.le_add_left_of_le (ih h)

/-- Nothing stands where a file is staged. -/
theorem get?_freshName (t : FileTree) (directory : Location) :
    t.get? (directory ++ [t.freshName directory]) = none := by
  cases h : t.get? (directory ++ [t.freshName directory]) with
  | none => rfl
  | some entry =>
      -- the name would be longer than itself
      have hle := byteCount_le_namesLength (mem_children.mpr h)
      have hcount : (t.freshName directory).byteCount =
          4 + namesLength (t.children directory) := by
        rw [freshName, Name.byteCount, String.toList_ofList, Text.byteCount_append,
          byteCount_replicate]
        rfl
      omega

/-- Nothing is left of a staged file that is removed. -/
theorem erase_stage (t : FileTree) (directory : Location) (bytes : ByteArray) :
    (t.stage directory bytes).1.erase (t.stage directory bytes).2 = t :=
  erase_put_of_get? _ (by simp) (get?_freshName t directory)

/-- A staged file can be moved to where no directory stands. The tree is then as if the
file had been put there. -/
theorem persist?_stage_eq_some_iff {t t' : FileTree} {directory destination : Location}
    {bytes : ByteArray} :
    (t.stage directory bytes).1.persist? (t.stage directory bytes).2 destination = some t' ↔
      t.get? destination ≠ some .directory ∧ t.put destination (.file bytes) = t' := by
  have hstaged : (t.stage directory bytes).1.get? (t.stage directory bytes).2 =
      some (.file bytes) := by
    simp [stage]
  have hdir : (t.stage directory bytes).1.get? destination = some .directory ↔
      t.get? destination = some .directory := by
    by_cases heq : destination = directory ++ [t.freshName directory]
    · rw [heq, get?_freshName]
      simp [stage]
    · rw [stage, get?_put _ _ _ (by simp), if_neg heq]
  rw [persist?, hstaged]
  -- what stood at the destination does not matter, unless it was a directory
  cases hd : (t.stage directory bytes).1.get? destination with
  | none =>
      rw [hd] at hdir
      simp [← hdir, erase_stage]
  | some entry =>
      rw [hd] at hdir
      cases entry with
      | directory => simp [hdir.mp rfl]
      | file _ => simp [← hdir, erase_stage]
      | link _ => simp [← hdir, erase_stage]

/-- Moving a staged file to where a file with the same bytes stands changes nothing. -/
theorem persist?_stage_of_get? {t : FileTree} {destination : Location} {bytes : ByteArray}
    (directory : Location) (hne : destination ≠ [])
    (h : t.get? destination = some (.file bytes)) :
    (t.stage directory bytes).1.persist? (t.stage directory bytes).2 destination = some t := by
  refine persist?_stage_eq_some_iff.mpr ⟨?_, put_of_get? hne h⟩
  rw [h]
  simp

/-! ### The directory of a path -/

/-- Making the directory of a path changes nothing but the way, and if it is made, the
path leads right into it. -/
theorem Ends.makeDirectories_outcome {t : FileTree} (ht : t.NoLinks) {path : String}
    {front : List Name} {name : Name} (h : Ends path front name) :
    Changes [] (t.way path) t (t.makeDirectories (Path.directoryOf path)).1 ∧
      ∀ l, (t.makeDirectories (Path.directoryOf path)).2 = some l →
        Path.isUsable (Path.directoryOf path) = true ∧ l ++ [name] = t.destination path ∧
        ∀ e ∈ t.way path,
          (t.makeDirectories (Path.directoryOf path)).1.get? e = some .directory := by
  rw [makeDirectories]
  by_cases husable : Path.isUsable (Path.directoryOf path) = true
  · have hmade := makeSteps_outcome maxLinks (Path.steps (Path.directoryOf path))
      (t.start (Path.directoryOf path)) fun e _ target => ht e target
    rw [h.entered_directoryOf, h.arrive_directoryOf, h.start_directoryOf, ← h.way] at hmade
    rw [if_pos husable, h.start_directoryOf]
    refine ⟨hmade.1, fun l hl => ?_⟩
    obtain ⟨harrive, hdirs⟩ := hmade.2 l hl
    exact ⟨husable, by rw [harrive, h.destination], hdirs⟩
  · rw [if_neg husable]
    exact ⟨Changes.refl _ _ t, fun l hl => nomatch hl⟩

end FileTree

/-! ### Writing -/

namespace Filing

open FileTree

theorem runOn_makeDirectories (t : FileTree) (path : String) :
    (makeDirectories path).runOn t =
      match t.makeDirectories path with
      | (t', some location) => (.ok location, t')
      | (t', none) => (.error { cause := .createDirectory path }, t') := by
  rw [makeDirectories, Effect.runOn_bind, Effect.runOn_get]
  rcases h : t.makeDirectories path with ⟨t', _ | location⟩ <;>
    simp only [h, Effect.runOn_bind, Effect.runOn_set] <;> rfl

/-- Atomic writing, step by step. -/
theorem runOn_writeAtomic (t : FileTree) (path content : String) :
    (writeAtomic path content).runOn t =
      match t.makeDirectories (Path.directoryOf path) with
      | (t1, none) => (.error { cause := .createDirectory (Path.directoryOf path) }, t1)
      | (t1, some directory) =>
          if t1.canStage (Path.directoryOf path) = true then
            match (if Path.isUsable path then Path.lastName? path else none).bind fun name =>
              (t1.stage directory content.toUTF8).1.persist?
                (t1.stage directory content.toUTF8).2 (directory ++ [name]) with
            | some t2 => (.ok (), t2)
            | none => (.error { cause := .write path }, t1)
          else (.error { cause := .openFile path }, t1) := by
  rw [writeAtomic, Effect.runOn_bind, runOn_makeDirectories]
  obtain ⟨t1, made⟩ := t.makeDirectories (Path.directoryOf path)
  cases made with
  | none => rfl
  | some directory =>
      simp only [Effect.runOn_bind, Effect.runOn_get]
      by_cases hstage : t1.canStage (Path.directoryOf path) = true
      · simp only [hstage, if_true, Effect.runOn_bind, Effect.runOn_get, Effect.runOn_set]
        generalize ((if Path.isUsable path = true then Path.lastName? path else none).bind
          fun name => (t1.stage directory content.toUTF8).1.persist?
            (t1.stage directory content.toUTF8).2 (directory ++ [name])) = moved
        cases moved with
        | some t2 => rfl
        | none =>
            -- the staged file is removed
            exact congrArg (Prod.mk _) (erase_stage t1 directory content.toUTF8)
      · simp [hstage, Effect.runOn_bind]

/-- Once the directory of a path is there, the file is written in it, or nothing happens
because the tree does not admit it. -/
theorem runOn_writeAtomic_of_made {t t1 : FileTree} {path : String} {front : List Name}
    {name : Name} {directory : Location} (hpath : Ends path front name) (content : String)
    (hmade : t.makeDirectories (Path.directoryOf path) = (t1, some directory)) :
    (t1.Admits path (directory ++ [name]) ∧ (writeAtomic path content).runOn t =
      (.ok (), t1.put (directory ++ [name]) (.file content.toUTF8))) ∨
    (¬ t1.Admits path (directory ++ [name]) ∧
      ∃ failure, (writeAtomic path content).runOn t = (.error failure, t1)) := by
  rw [runOn_writeAtomic, hmade]
  by_cases hstage : t1.canStage (Path.directoryOf path) = true
  · simp only [hstage, if_true]
    cases hmove : (if Path.isUsable path then Path.lastName? path else none).bind fun name =>
        (t1.stage directory content.toUTF8).1.persist?
          (t1.stage directory content.toUTF8).2 (directory ++ [name]) with
    | some t2 =>
        obtain ⟨last, hlast, hpersist⟩ := Option.bind_eq_some_iff.mp hmove
        have husable : Path.isUsable path = true := by
          by_contra hnot
          simp [hnot] at hlast
        rw [if_pos husable] at hlast
        -- the last piece of the path is the name that was staged for
        rw [hpath.eq_of_lastName? hlast] at hpersist
        obtain ⟨hdir, rfl⟩ := persist?_stage_eq_some_iff.mp hpersist
        exact Or.inl ⟨⟨hstage, husable, by simp [hlast], hdir⟩, rfl⟩
    | none =>
        refine Or.inr ⟨fun hadmits => ?_, _, rfl⟩
        obtain ⟨last, hlast⟩ := Option.isSome_iff_exists.mp hadmits.name
        rw [if_pos hadmits.usable, hlast, Option.bind_some, hpath.eq_of_lastName? hlast,
          persist?_stage_eq_some_iff.mpr ⟨hadmits.free, rfl⟩] at hmove
        cases hmove
  · simp only [hstage]
    exact Or.inr ⟨fun hadmits => hstage hadmits.room, _, rfl⟩

/-- **Atomic writing succeeds or leaves the file as it was.** Only directories on the way
to it are made in either case. -/
theorem writeAtomic_outcome {t : FileTree} (ht : t.NoLinks) {path : String} {front : List Name}
    {name : Name} (hpath : Ends path front name) (content : String) :
    (∃ t', (writeAtomic path content).runOn t = (.ok (), t') ∧
      Changes [t.destination path] (t.way path) t t' ∧ Stored t' path content) ∨
    (∃ failure t', (writeAtomic path content).runOn t = (.error failure, t') ∧
      Changes [] (t.way path) t t') := by
  obtain ⟨hmade, hdone⟩ := hpath.makeDirectories_outcome ht
  rcases hmk : t.makeDirectories (Path.directoryOf path) with ⟨t1, _ | directory⟩
  · rw [hmk] at hmade
    exact Or.inr ⟨_, t1, by rw [runOn_writeAtomic, hmk], hmade⟩
  rw [hmk] at hmade hdone
  obtain ⟨hparent, hdest, hdirs⟩ := hdone directory rfl
  have hwrite := runOn_writeAtomic_of_made hpath content hmk
  rw [hdest] at hwrite
  rcases hwrite with ⟨hadmits, hrun⟩ | ⟨-, failure, hrun⟩
  · have hne : t.destination path ≠ [] := by simp [hpath.destination]
    have hmoved : Changes [t.destination path] [] t1
        (t1.put (t.destination path) (.file content.toUTF8)) := changes_put_file hne hadmits.free
    have hchanges : Changes [t.destination path] (t.way path) t
        (t1.put (t.destination path) (.file content.toUTF8)) := by
      simpa using hmade.trans hmoved
    refine Or.inl ⟨_, hrun, hchanges, hadmits.usable, hparent, hadmits.name, ?_, ?_, ?_⟩
    · rw [hmoved.canStage, hadmits.room]
    · rw [hchanges.way]
      exact fun e he => hmoved.directory e (hdirs e he)
    · rw [hchanges.destination]
      simp [hne]
  · exact Or.inr ⟨failure, t1, hrun, hmade⟩

/-- Writing what is stored already changes nothing. -/
theorem writeAtomic_of_stored {t : FileTree} {path content : String} {front : List Name}
    {name : Name} (hpath : Ends path front name) (h : t.Stored path content) :
    (writeAtomic path content).runOn t = (.ok (), t) := by
  have hmake : t.makeDirectories (Path.directoryOf path) =
      (t, some (arrive (t.start path) (front.map Path.step))) := by
    have hdirs := h.directories
    rw [hpath.way, ← hpath.entered_directoryOf] at hdirs
    rw [FileTree.makeDirectories, if_pos h.parent, hpath.start_directoryOf,
      makeSteps_of_entered t maxLinks _ _ hdirs, hpath.arrive_directoryOf]
  have hlast : (if Path.isUsable path then Path.lastName? path else none) = some name := by
    have hname := h.name
    rw [hpath.lastName?] at hname
    rw [if_pos h.usable, hpath.lastName?]
    by_cases hu : name.isUsable = true
    · rw [if_pos hu]
    · simp [hu] at hname
  have hfile := h.file
  rw [hpath.destination] at hfile
  rw [runOn_writeAtomic, hmake]
  simp only [h.room, if_true, hlast, Option.bind_some]
  rw [persist?_stage_of_get? _ (by simp) hfile]

end Filing
end BuilderGen
