import BuilderGen.Generator
import BuilderGen.Proofs.Emit.BuilderPath

/-!
# BuilderGen.Proofs.Generation

**What generating leaves behind**, in a tree without links. Either two builders would
have one path, and nothing happens; or all builders are written; or one cannot be
written, and those before it are (`Generator.generate_outcome`). What else there is stays
as it was, apart from directories that were missing.

Writing several files is a loop over atomic writing: each file that is written stays
stored while the later ones are written, because they go to other places.
-/

namespace BuilderGen

open FileTree (Changes Ends)

/-! ### Repeated paths -/

namespace Generator

/-- No path is repeated if all are distinct, and different from those seen before. -/
theorem repeated?_eq_none_iff {paths : List String} :
    ∀ {seen : List String}, repeated? seen paths = none ↔
      paths.Nodup ∧ ∀ path ∈ paths, path ∉ seen := by
  induction paths with
  | nil => simp [repeated?]
  | cons path rest ih =>
      intro seen
      rw [repeated?]
      by_cases h : path ∈ seen
      · simp [h]
      · rw [if_neg (by simpa using h), ih, List.nodup_cons]
        simp only [List.mem_cons, not_or, forall_eq_or_imp]
        refine ⟨fun hrest => ?_, fun hall => ?_⟩
        · exact ⟨⟨fun hmem => (hrest.2 path hmem).1 rfl, hrest.1⟩, h, fun p hp => (hrest.2 p hp).2⟩
        · exact ⟨hall.1.2, fun p hp => ⟨fun heq => hall.1.1 (heq ▸ hp), hall.2.2 p hp⟩⟩

/-- The repeated path that is found is the first that repeats one before. -/
theorem exists_of_repeated? {paths : List String} {path : String} :
    ∀ {seen : List String}, repeated? seen paths = some path →
      ∃ front back, paths = front ++ path :: back ∧ front.Nodup ∧ (∀ p ∈ front, p ∉ seen) ∧
        (path ∈ seen ∨ path ∈ front) := by
  induction paths with
  | nil => intro seen h; cases h
  | cons first rest ih =>
      intro seen h
      rw [repeated?] at h
      by_cases hseen : first ∈ seen
      · rw [if_pos (by simpa using hseen)] at h
        obtain rfl := Option.some.inj h
        exact ⟨[], rest, rfl, List.nodup_nil, by simp, Or.inl hseen⟩
      · rw [if_neg (by simpa using hseen)] at h
        obtain ⟨front, back, rfl, hnodup, hnew, hpath⟩ := ih h
        refine ⟨first :: front, back, rfl, ?_, ?_, ?_⟩
        · exact List.nodup_cons.mpr ⟨fun hmem => hnew first hmem (by simp), hnodup⟩
        · intro p hp
          rcases List.mem_cons.mp hp with rfl | hp
          · exact hseen
          · exact fun hmem => hnew p hp (by simp [hmem])
        · rcases hpath with hpath | hpath
          · rcases List.mem_cons.mp hpath with rfl | hpath
            · exact Or.inr (by simp)
            · exact Or.inl hpath
          · exact Or.inr (by simp [hpath])

end Generator

/-! ### Writing several files -/

namespace Filing

/-- Writes files below an output directory, in order. -/
def writeAll (output : String) (files : List BuilderFile) : Filing Unit :=
  files.forM fun file => do
    let _ ← writeOutput .always (Path.join output file.path) file.content

theorem runOn_writeOutput_always (t : FileTree) (path content : String) :
    (writeOutput .always path content).runOn t =
      match (writeAtomic path content).runOn t with
      | (.ok (), t') => (.ok .written, t')
      | (.error failure, t') => (.error failure, t') := by
  rw [writeOutput, Effect.runOn_bind, Effect.runOn_get]
  simp only [reduceCtorEq, false_and, if_false]
  rw [Effect.runOn_bind]
  rcases (writeAtomic path content).runOn t with ⟨_ | _, t'⟩ <;> rfl

theorem runOn_writeAll_cons (t : FileTree) (output : String) (file : BuilderFile)
    (files : List BuilderFile) :
    (writeAll output (file :: files)).runOn t =
      match (writeAtomic (Path.join output file.path) file.content).runOn t with
      | (.ok (), t') => (writeAll output files).runOn t'
      | (.error failure, t') => (.error failure, t') := by
  rw [writeAll, List.forM, Effect.runOn_bind, Effect.runOn_bind, runOn_writeOutput_always]
  rcases (writeAtomic (Path.join output file.path) file.content).runOn t with ⟨_ | _, t'⟩ <;> rfl

/-- What writing files leaves behind: those in `written` are stored, and other changes are
directories on the way to files in `attempted`. -/
structure Leaves (output : String) (written attempted : List BuilderFile) (t t' : FileTree) :
    Prop where
  stored : ∀ f ∈ written, t'.Stored (Path.join output f.path) f.content
  changes : Changes (written.map fun f => t.destination (Path.join output f.path))
    (attempted.flatMap fun f => t.way (Path.join output f.path)) t t'

/-- Files that are stored at other places stay, and one more is stored first. -/
theorem Leaves.cons {output : String} {file : BuilderFile} {written attempted : List BuilderFile}
    {t t1 t' : FileTree}
    (hfirst : Changes [t.destination (Path.join output file.path)]
      (t.way (Path.join output file.path)) t t1)
    (hstored : t1.Stored (Path.join output file.path) file.content)
    (hnew : ∀ f ∈ written,
      t.destination (Path.join output file.path) ≠ t.destination (Path.join output f.path))
    (h : Leaves output written attempted t1 t') :
    Leaves output (file :: written) (file :: attempted) t t' := by
  have hplaces : (written.map fun f => t1.destination (Path.join output f.path)) =
      written.map fun f => t.destination (Path.join output f.path) :=
    List.map_congr_left fun f _ => hfirst.destination _
  have hways : (attempted.flatMap fun f => t1.way (Path.join output f.path)) =
      attempted.flatMap fun f => t.way (Path.join output f.path) :=
    List.flatMap_congr fun f _ => hfirst.way _
  have hchanges := h.changes
  refine ⟨fun f hf => ?_, ?_⟩
  · rcases List.mem_cons.mp hf with rfl | hf
    · refine hstored.of_changes hchanges ?_
      rw [hplaces, hfirst.destination, List.mem_map, not_exists]
      exact fun g hg => hnew g hg.1 hg.2.symm
    · exact h.stored f hf
  · rw [hplaces, hways] at hchanges
    exact hfirst.trans hchanges

/-- **Writing several files** to different places writes all of them, or those before the
first that cannot be written. -/
theorem writeAll_outcome (output : String) (files : List BuilderFile) :
    ∀ {t : FileTree}, t.NoLinks →
      (∀ f ∈ files, ∃ front name, Ends (Path.join output f.path) front name) →
      (files.map fun f => t.destination (Path.join output f.path)).Nodup →
      (∃ t', (writeAll output files).runOn t = (.ok (), t') ∧ Leaves output files files t t') ∨
      (∃ before file after failure t1 t', files = before ++ file :: after ∧
        (writeAll output before).runOn t = (.ok (), t1) ∧
        (writeAtomic (Path.join output file.path) file.content).runOn t1 = (.error failure, t') ∧
        (writeAll output files).runOn t = (.error failure, t') ∧
        Leaves output before (before ++ [file]) t t') := by
  induction files with
  | nil =>
      intro t _ _ _
      exact Or.inl ⟨t, rfl, ⟨by simp, Changes.refl _ _ t⟩⟩
  | cons file files ih =>
      intro t ht hends hnodup
      obtain ⟨⟨front, name, hpath⟩, hrest⟩ := List.forall_mem_cons.mp hends
      rw [List.map_cons, List.nodup_cons] at hnodup
      have hnew : ∀ f ∈ files,
          t.destination (Path.join output file.path) ≠ t.destination (Path.join output f.path) :=
        fun f hf heq => hnodup.1 (List.mem_map.mpr ⟨f, hf, heq.symm⟩)
      -- the other files are written into the tree that the first one leaves
      rcases writeAtomic_outcome ht hpath file.content with
        ⟨t1, hrun, hchanges, hstored⟩ | ⟨failure, t1, hrun, hchanges⟩
      · -- it has no links either, and paths lead to the same places in it
        have ht1 := hstored.noLinks hchanges ht
        have hnodup1 : (files.map fun f => t1.destination (Path.join output f.path)).Nodup := by
          simpa only [hchanges.destination] using hnodup.2
        rcases ih ht1 hrest hnodup1 with ⟨t', hall, hleaves⟩ |
          ⟨before, bad, after, failure, t2, t', rfl, hbefore, hbad, hall, hleaves⟩
        · refine Or.inl ⟨t', ?_, hleaves.cons hchanges hstored hnew⟩
          rw [runOn_writeAll_cons, hrun]
          exact hall
        · refine Or.inr ⟨file :: before, bad, after, failure, t2, t', rfl, ?_, hbad, ?_, ?_⟩
          · rw [runOn_writeAll_cons, hrun]
            exact hbefore
          · rw [runOn_writeAll_cons, hrun]
            exact hall
          · exact hleaves.cons hchanges hstored fun f hf => hnew f (by simp [hf])
      · refine Or.inr ⟨[], file, files, failure, t, t1, rfl, rfl, hrun, ?_, by simp, ?_⟩
        · rw [runOn_writeAll_cons, hrun]
        · simpa using hchanges

theorem writeAll_of_stored {output : String} {files : List BuilderFile} {t : FileTree}
    (hends : ∀ f ∈ files, ∃ front name, Ends (Path.join output f.path) front name)
    (h : ∀ f ∈ files, t.Stored (Path.join output f.path) f.content) :
    (writeAll output files).runOn t = (.ok (), t) := by
  induction files with
  | nil => rfl
  | cons file files ih =>
      obtain ⟨⟨front, name, hpath⟩, hrest⟩ := List.forall_mem_cons.mp hends
      obtain ⟨hstored, hstored'⟩ := List.forall_mem_cons.mp h
      rw [runOn_writeAll_cons, writeAtomic_of_stored hpath hstored]
      exact ih hrest hstored'

end Filing

/-! ### Generating -/

/-- The tree after generating is accounted for by the builders in `written`, and by the
directories on the way to those in `attempted`. -/
structure Accounted (output : String) (written attempted : List BuilderFile) (t t' : FileTree) :
    Prop where
  /-- Every written builder is where its path leads to, -/
  file : ∀ f ∈ written,
    t'.get? (t.destination (Path.join output f.path)) = some (.file f.content.toUTF8)
  /-- and is read there with its content. -/
  content : ∀ f ∈ written, t'.readText? (Path.join output f.path) = some f.content
  /-- Anywhere else everything is as before, except for directories where nothing stood. -/
  other : ∀ l, (∀ f ∈ written, l ≠ t.destination (Path.join output f.path)) →
    t'.get? l = t.get? l ∨
      t.get? l = none ∧ t'.get? l = some .directory ∧
        ∃ f ∈ attempted, l ∈ t.way (Path.join output f.path)
  workingDirectory : t'.workingDirectory = t.workingDirectory

theorem Filing.Leaves.accounted {output : String} {written attempted : List BuilderFile}
    {t t' : FileTree} (h : Filing.Leaves output written attempted t t')
    (hends : ∀ f ∈ written, ∃ front name, Ends (Path.join output f.path) front name) :
    Accounted output written attempted t t' where
  file f hf := by
    rw [← h.changes.destination]
    exact (h.stored f hf).file
  content f hf := by
    obtain ⟨front, name, hpath⟩ := hends f hf
    exact (h.stored f hf).readText?_eq hpath
  other l hl := by
    have hnew : l ∉ written.map fun f => t.destination (Path.join output f.path) := by
      rw [List.mem_map, not_exists]
      exact fun f hf => hl f hf.1 hf.2.symm
    rcases h.changes.other l hnew with heq | ⟨hway, hnone, hdir⟩
    · exact Or.inl heq
    · exact Or.inr ⟨hnone, hdir, List.mem_flatMap.mp hway⟩
  workingDirectory := h.changes.workingDirectory

namespace Generator

variable {g : Generator}

/-- The paths of sound records' builders end with names below any output directory. -/
theorem ends_of_mem_files (hg : ∀ r ∈ g.records, r.IsSound) (stamp : Stamp) (output : String) :
    ∀ f ∈ g.files stamp, ∃ front name, Ends (Path.join output f.path) front name := by
  intro f hf
  obtain ⟨r, hr, rfl⟩ := List.mem_map.mp hf
  obtain ⟨hpieces, hnames⟩ := (hg r hr).pieces_builderPath g.language
  obtain ⟨front, hjoin, -⟩ := Path.pieces_join output (Path.isAbsolute_of_isName hnames)
  refine ⟨front ++ (r.packageSegments g.language).map .text,
    .text (g.language.fileName r.name g.language.extension), ⟨?_, hnames _ (by rw [hpieces]; simp)⟩⟩
  rw [List.append_assoc, ← hpieces]
  exact hjoin

theorem nodup_destinations (hg : ∀ r ∈ g.records, r.IsSound) (stamp : Stamp) (output : String)
    (t : FileTree) (h : g.paths.Nodup) :
    ((g.files stamp).map fun f => t.destination (Path.join output f.path)).Nodup := by
  rw [← map_path_files g stamp, List.Nodup, List.pairwise_map] at h
  rw [List.Nodup, List.pairwise_map]
  refine h.imp_of_mem fun ha hb hne heq => hne ?_
  obtain ⟨r, hr, rfl⟩ := List.mem_map.mp ha
  obtain ⟨r', hr', rfl⟩ := List.mem_map.mp hb
  exact FileTree.destination_join_inj t ((hg r hr).pieces_builderPath g.language).2
    ((hg r' hr').pieces_builderPath g.language).2 heq

theorem runOn_generate_of_nodup (stamp : Stamp) (output : String) (t : FileTree)
    (h : g.paths.Nodup) :
    (g.generate stamp output).runOn t =
      match (Filing.writeAll output (g.files stamp)).runOn t with
      | (.ok (), t') => (.ok g.paths, t')
      | (.error failure, t') => (.error failure, t') := by
  rw [generate, repeated?_eq_none_iff.mpr ⟨h, by simp⟩, Effect.runOn_bind, ← Filing.writeAll]
  rcases (Filing.writeAll output (g.files stamp)).runOn t with ⟨_ | _, t'⟩ <;> rfl

/-- **Every outcome of generating is accounted for.** Either the first path that repeats one
before is refused, and the tree is as it was; or all builders are written, and generating
them once more changes nothing; or those before a record are written as they would be
without the others, and the builder of that record cannot be written. -/
theorem generate_outcome
    (hg : ∀ r ∈ g.records, ∃ m : Manifest, m.violation? = none ∧ r ∈ Round.lowerManifest m)
    (stamp : Stamp) (output : String) {t : FileTree} (ht : t.NoLinks) :
    (∃ before path after, g.paths = before ++ path :: after ∧ before.Nodup ∧ path ∈ before ∧
      (g.generate stamp output).runOn t = (.error { cause := .collision path }, t)) ∨
    g.paths.Nodup ∧
      ((g.files stamp).map fun f => t.destination (Path.join output f.path)).Nodup ∧
      ((∃ t', (g.generate stamp output).runOn t = (.ok g.paths, t') ∧
          Accounted output (g.files stamp) (g.files stamp) t t' ∧
          (g.generate stamp output).runOn t' = (.ok g.paths, t')) ∨
        ∃ before r after failure t1 t', g.records = before ++ r :: after ∧
          (generate { g with records := before } stamp output).runOn t =
            (.ok (paths { g with records := before }), t1) ∧
          (Filing.writeOutput .always (Path.join output (r.builderPath g.language))
            (r.builderText g.language stamp)).runOn t1 = (.error failure, t') ∧
          (g.generate stamp output).runOn t = (.error failure, t') ∧
          Accounted output (files { g with records := before } stamp)
            (files { g with records := before ++ [r] } stamp) t t') := by
  have hsound : ∀ r ∈ g.records, r.IsSound := by
    intro r hr
    obtain ⟨m, hm, hmem⟩ := hg r hr
    exact Round.isSound_of_mem_lowerManifest (Manifest.violation?_eq_none_iff.mp hm) hmem
  cases hrepeated : repeated? [] g.paths with
  | some path =>
      obtain ⟨before, after, hpaths, hnodup, -, hmem⟩ := exists_of_repeated? hrepeated
      refine Or.inl ⟨before, path, after, hpaths, hnodup, by simpa using hmem, ?_⟩
      rw [generate, hrepeated]
      rfl
  | none =>
      have hnodup := (repeated?_eq_none_iff.mp hrepeated).1
      have hplaces := nodup_destinations hsound stamp output t hnodup
      have hends := ends_of_mem_files hsound stamp output
      refine Or.inr ⟨hnodup, hplaces, ?_⟩
      rcases Filing.writeAll_outcome output (g.files stamp) ht hends hplaces with
        ⟨t', hrun, hleaves⟩ |
          ⟨done, file, rest, failure, t1, t', hfiles, hdone, hfail, hrun, hleaves⟩
      · refine Or.inl ⟨t', ?_, hleaves.accounted hends, ?_⟩
        · rw [runOn_generate_of_nodup stamp output t hnodup, hrun]
        · rw [runOn_generate_of_nodup stamp output t' hnodup,
            Filing.writeAll_of_stored hends hleaves.stored]
      · -- the files before the one that failed are those of the records before its record
        obtain ⟨before, others, hrecords, rfl, hothers⟩ := List.map_eq_append_iff.mp hfiles
        obtain ⟨r, after, rfl, rfl, rfl⟩ := List.map_eq_cons_iff.mp hothers
        have hbefore : (paths { g with records := before }).Nodup := by
          rw [paths, hrecords, List.map_append] at hnodup
          exact (List.nodup_append.mp hnodup).1
        refine Or.inr ⟨before, r, after, failure, t1, t', hrecords, ?_, ?_, ?_, ?_⟩
        · rw [runOn_generate_of_nodup stamp output t hbefore, files, hdone]
        · rw [Record.builderFile] at hfail
          rw [Filing.runOn_writeOutput_always, hfail]
        · rw [runOn_generate_of_nodup stamp output t hnodup, hrun]
        · have haccounted := hleaves.accounted fun f hf => hends f (by rw [hfiles]; simp [hf])
          simpa [files] using haccounted

/-- A generator for a record without package and components. -/
def forKey : Generator where
  language := .java
  records := [{ package := "", name := "Key", components := [] }]

/-- The builder is written into an empty tree, and once more into the tree that leaves. -/
theorem forKey_generate :
    ∃ t', (forKey.generate ⟨2024, 5, 1, 12, 0, 0, 0⟩ "out").runOn {} = (.ok forKey.paths, t') ∧
      (∀ f ∈ forKey.files ⟨2024, 5, 1, 12, 0, 0, 0⟩,
        t'.readText? (Path.join "out" f.path) = some f.content) ∧
      (forKey.generate ⟨2024, 5, 1, 12, 0, 0, 0⟩ "out").runOn t' = (.ok forKey.paths, t') := by
  have hlowered : ∀ r ∈ forKey.records,
      ∃ m : Manifest, m.violation? = none ∧ r ∈ Round.lowerManifest m := by
    intro r hr
    rw [List.mem_singleton.mp hr]
    exact ⟨{ project := { name := "p" }, types := [("Key", { builder := true })] },
      by decide, by decide⟩
  have hlinks : FileTree.NoLinks {} := by
    intro l target h
    simp [FileTree.get?] at h
  have hwritten : ((forKey.generate ⟨2024, 5, 1, 12, 0, 0, 0⟩ "out").runOn {}).1.isOk = true := by
    decide +kernel
  rcases generate_outcome hlowered ⟨2024, 5, 1, 12, 0, 0, 0⟩ "out" hlinks with
    ⟨_, _, _, _, _, _, hrun⟩ | ⟨-, -, ⟨t', hrun, haccounted, hagain⟩ |
      ⟨_, _, _, _, _, _, _, _, _, hrun, _⟩⟩
  · rw [hrun] at hwritten
    exact absurd hwritten Bool.false_ne_true
  · exact ⟨t', hrun, haccounted.content, hagain⟩
  · rw [hrun] at hwritten
    exact absurd hwritten Bool.false_ne_true

end Generator
end BuilderGen
