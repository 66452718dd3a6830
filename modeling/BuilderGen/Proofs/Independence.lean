import BuilderGen.Proofs.Collision
import BuilderGen.Proofs.FileTree.Takes

/-!
# BuilderGen.Proofs.Independence

**Each builder depends only on its own declaration** (`Manifest.builders_independent`). What is
previewed of a manifest is one function applied to its buildable records, and all that the
function takes from the manifest is the target language (`Manifest.files_generator`).

So other types, and the order of types, only matter where builders meet: in the tree. Whether
several files can be written is a condition on each of them and on each two
(`Filing.exists_writeAll_iff`), and what writing them leaves is known from the files alone
(`Filing.Leaves.same`). Neither depends on the order.
-/

namespace BuilderGen

open FileTree

/-! ### Several files in another order -/

/-- Two trees show the same at every location. -/
structure FileTree.Same (t t' : FileTree) : Prop where
  workingDirectory : t.workingDirectory = t'.workingDirectory
  entry : ∀ l, t.get? l = t'.get? l

namespace Filing

variable {output : String} {files files' : List BuilderFile}

/-- **When several files can be written** to different places: when each can, and none is on the
way to another one. -/
theorem exists_writeAll_iff (output : String) (files : List BuilderFile) :
    ∀ {t : FileTree}, t.NoLinks →
      (∀ f ∈ files, ∃ front name, Ends (Path.join output f.path) front name) →
      (files.map fun f => t.destination (Path.join output f.path)).Nodup →
      ((∃ t', (writeAll output files).runOn t = (.ok (), t')) ↔
        ∀ f ∈ files, t.Takes (Path.join output f.path) ∧
          ∀ g ∈ files, t.destination (Path.join output g.path) ∉ t.way (Path.join output f.path)) := by
  induction files with
  | nil => intro t _ _ _; exact ⟨fun _ => by simp, fun _ => ⟨t, rfl⟩⟩
  | cons file files ih =>
      intro t ht hends hnodup
      obtain ⟨⟨front, name, hpath⟩, hrest⟩ := List.forall_mem_cons.mp hends
      rw [List.map_cons, List.nodup_cons] at hnodup
      have hfirst := exists_writeAtomic_iff ht hpath file.content
      rcases writeAtomic_outcome ht hpath file.content with
        ⟨t1, hrun, hchanges, hstored⟩ | ⟨failure, t1, hrun, -⟩
      · obtain ⟨htakes, hown⟩ := hfirst.mp ⟨t1, hrun⟩
        have ht1 := hstored.noLinks hchanges ht
        have hnodup1 : (files.map fun f => t1.destination (Path.join output f.path)).Nodup := by
          simpa only [hchanges.destination] using hnodup.2
        -- each of the others can be written if it could before, apart from the first one
        have hother : ∀ g ∈ files, t1.Takes (Path.join output g.path) ↔
            t.Takes (Path.join output g.path) ∧
              t.destination (Path.join output file.path) ∉ t.way (Path.join output g.path) ∧
              t.destination (Path.join output g.path) ∉ t.way (Path.join output file.path) :=
          fun g hg => htakes.iff_of_stored hchanges hstored fun heq =>
            hnodup.1 (List.mem_map.mpr ⟨g, hg, heq⟩)
        have hih := ih ht1 hrest hnodup1
        simp only [hchanges.destination, hchanges.way] at hih
        rw [runOn_writeAll_cons, hrun]
        refine hih.trans ⟨fun hall => List.forall_mem_cons.mpr ⟨⟨htakes, ?_⟩, fun g hg => ?_⟩,
          fun hall g hg => ?_⟩
        · exact List.forall_mem_cons.mpr
            ⟨hown, fun g hg => ((hother g hg).mp (hall g hg).1).2.2⟩
        · obtain ⟨htakes1, hways⟩ := hall g hg
          obtain ⟨htakesg, hway, -⟩ := (hother g hg).mp htakes1
          exact ⟨htakesg, List.forall_mem_cons.mpr ⟨hway, hways⟩⟩
        · obtain ⟨⟨-, hfile⟩, hrest⟩ := List.forall_mem_cons.mp hall
          obtain ⟨htakesg, hways⟩ := hrest g hg
          obtain ⟨hway, hways⟩ := List.forall_mem_cons.mp hways
          have hfree := hfile g (List.mem_cons_of_mem _ hg)
          exact ⟨(hother g hg).mpr ⟨htakesg, hway, hfree⟩, hways⟩
      · have hnot : ¬ (t.Takes (Path.join output file.path) ∧
            t.destination (Path.join output file.path) ∉ t.way (Path.join output file.path)) := by
          rw [← hfirst, hrun]
          simp
        rw [runOn_writeAll_cons, hrun]
        refine ⟨fun ⟨_, hok⟩ => (nomatch hok), fun hall => ?_⟩
        obtain ⟨htakes, hways⟩ := hall file List.mem_cons_self
        exact absurd ⟨htakes, hways file List.mem_cons_self⟩ hnot

/-- Writing files that succeeds leaves all of them. -/
theorem leaves_of_writeAll {t t' : FileTree} (ht : t.NoLinks)
    (hends : ∀ f ∈ files, ∃ front name, Ends (Path.join output f.path) front name)
    (hnodup : (files.map fun f => t.destination (Path.join output f.path)).Nodup)
    (hrun : (writeAll output files).runOn t = (.ok (), t')) : Leaves output files files t t' := by
  rcases writeAll_outcome output files ht hends hnodup with
    ⟨t1, hok, hleaves⟩ | ⟨_, _, _, _, _, _, _, _, _, hfail, _⟩
  · rw [hok] at hrun
    obtain rfl := (Prod.mk.inj hrun).2
    exact hleaves
  · rw [hfail] at hrun
    cases hrun

/-- The files are where their paths lead to from the tree before, and the directories on the
way. -/
theorem Leaves.get?_eq {written attempted : List BuilderFile} {t t' : FileTree}
    (h : Leaves output written attempted t t') {f : BuilderFile} (hf : f ∈ written) :
    t'.get? (t.destination (Path.join output f.path)) = some (.file f.content.toUTF8) ∧
      ∀ l ∈ t.way (Path.join output f.path), t'.get? l = some .directory := by
  have hstored := h.stored f hf
  rw [← h.changes.destination, ← h.changes.way]
  exact ⟨hstored.file, hstored.directories⟩

/-- What is left is the same in whatever order the files are written. -/
theorem Leaves.same {t t' t'' : FileTree} (h : Leaves output files files t t')
    (h' : Leaves output files' files' t t'') (hmem : ∀ f, f ∈ files ↔ f ∈ files') :
    t'.Same t'' where
  workingDirectory := h.changes.workingDirectory.trans h'.changes.workingDirectory.symm
  entry l := by
    by_cases hl : l ∈ files.map fun f => t.destination (Path.join output f.path)
    · obtain ⟨f, hf, rfl⟩ := List.mem_map.mp hl
      rw [(h.get?_eq hf).1, (h'.get?_eq ((hmem f).mp hf)).1]
    · have hl' : l ∉ files'.map fun f => t.destination (Path.join output f.path) := by
        simpa only [List.mem_map, hmem] using hl
      -- what one of the two made a directory of, the other one did
      rcases h.changes.other l hl with heq | ⟨hway, -, hdir⟩
      · rcases h'.changes.other l hl' with heq' | ⟨hway', -, hdir'⟩
        · rw [heq, heq']
        · obtain ⟨f, hf, hmemway⟩ := List.mem_flatMap.mp hway'
          rw [hdir', (h.get?_eq ((hmem f).mpr hf)).2 l hmemway]
      · obtain ⟨f, hf, hmemway⟩ := List.mem_flatMap.mp hway
        rw [hdir, (h'.get?_eq ((hmem f).mp hf)).2 l hmemway]

/-- **Files can be written in any order**, with the same result. -/
theorem exists_writeAll_of_perm {t t' : FileTree} (ht : t.NoLinks)
    (hends : ∀ f ∈ files, ∃ front name, Ends (Path.join output f.path) front name)
    (hnodup : (files.map fun f => t.destination (Path.join output f.path)).Nodup)
    (hperm : files.Perm files') (hrun : (writeAll output files).runOn t = (.ok (), t')) :
    ∃ t'', (writeAll output files').runOn t = (.ok (), t'') ∧ t'.Same t'' := by
  have hmem : ∀ f, f ∈ files ↔ f ∈ files' := fun f => hperm.mem_iff
  have hends' : ∀ f ∈ files', ∃ front name, Ends (Path.join output f.path) front name :=
    fun f hf => hends f ((hmem f).mpr hf)
  have hnodup' : (files'.map fun f => t.destination (Path.join output f.path)).Nodup :=
    (hperm.map _).nodup_iff.mp hnodup
  have hall := (exists_writeAll_iff output files ht hends hnodup).mp ⟨t', hrun⟩
  simp only [hmem] at hall
  obtain ⟨t'', hrun'⟩ := (exists_writeAll_iff output files' ht hends' hnodup').mpr hall
  have hleaves := leaves_of_writeAll ht hends hnodup hrun
  have hleaves' := leaves_of_writeAll ht hends' hnodup' hrun'
  exact ⟨t'', hrun', hleaves.same hleaves' hmem⟩

end Filing

namespace Generator

variable {g g' : Generator} (hlanguage : g.language = g'.language)
  (hperm : g.records.Perm g'.records)
include hlanguage hperm

theorem perm_paths : g.paths.Perm g'.paths := by
  rw [paths, paths, hlanguage]
  exact hperm.map _

/-- **Generating in another order** succeeds as well, and leaves the same tree. -/
theorem exists_generate_of_perm (hg : ∀ r ∈ g.records, r.IsSound) {stamp : Stamp}
    {output : String} {t t' : FileTree} (ht : t.NoLinks) {paths : List String}
    (hrun : (g.generate stamp output).runOn t = (.ok paths, t')) :
    ∃ t'', (g'.generate stamp output).runOn t = (.ok g'.paths, t'') ∧ t'.Same t'' := by
  obtain ⟨hnodup, -, hall⟩ := writeAll_of_generate hrun
  have hfiles : (g.files stamp).Perm (g'.files stamp) := by
    rw [files, files, hlanguage]
    exact hperm.map _
  have hnodup' := (perm_paths hlanguage hperm).nodup_iff.mp hnodup
  obtain ⟨t'', hall', hsame⟩ := Filing.exists_writeAll_of_perm ht
    (ends_of_mem_files hg stamp output) (nodup_destinations hg stamp output t hnodup) hfiles hall
  refine ⟨t'', ?_, hsame⟩
  rw [runOn_generate_of_nodup stamp output t hnodup', hall']

end Generator

/-! ### Manifests -/

namespace Manifest

/-- The builder of a declared type. -/
def builder (m : Manifest) (stamp : Stamp) (t : String × TypeDecl) : BuilderFile :=
  (Round.lowerRecord t.1 t.2).builderFile m.project.language stamp

theorem files_generator (m : Manifest) (stamp : Stamp) :
    m.generator.files stamp = m.buildable.map (m.builder stamp) := by
  simp only [Generator.files, generator, Round.lowerManifest_eq, List.map_map, Function.comp_def]
  exact List.map_congr_left fun _ _ => rfl

theorem builder_congr {m m' : Manifest} (h : m.project.language = m'.project.language)
    (stamp : Stamp) : m.builder stamp = m'.builder stamp := by
  funext t
  rw [builder, builder, h]

/-- Types in another order are lowered to records in another order. -/
theorem perm_records {m m' : Manifest} (h : m.types.Perm m'.types) :
    m.generator.records.Perm m'.generator.records := by
  rw [generator, generator, Round.lowerManifest_eq, Round.lowerManifest_eq]
  exact (h.filter _).map _

/-- What is previewed of a manifest, whatever the output directory is and whatever stands in the
tree. -/
def Previews (m : Manifest) (stamp : Stamp) (files : List BuilderFile) : Prop :=
  ∀ output t, ∃ generation,
    (m.generate stamp { output, dryRun := true }).runOn t = (.ok generation, t) ∧
      generation.outcome = .preview files

section Valid

variable {m : Manifest} {path : String} (hvalid : (m.verdict path).isValid = true)
include hvalid

theorem previews_of_isValid (stamp : Stamp) :
    m.Previews stamp (m.buildable.map (m.builder stamp)) := by
  intro output t
  rw [← files_generator]
  exact ⟨_, runOn_generate hvalid stamp output true t, rfl⟩

/-- Generating a manifest succeeds just if its generator does. -/
theorem exists_runOn_generate_iff {stamp : Stamp} {output : String} {t t' : FileTree} :
    (∃ generation, (m.generate stamp { output }).runOn t = (.ok generation, t')) ↔
      ∃ paths, (m.generator.generate stamp output).runOn t = (.ok paths, t') := by
  have hrun := runOn_generate hvalid stamp output false t
  simp only [Bool.false_eq_true, if_false] at hrun
  rw [hrun]
  rcases (m.generator.generate stamp output).runOn t with ⟨failure | paths, t1⟩ <;> simp

end Valid

/-- **Each builder depends only on its own declaration.** A manifest that was parsed and any other
one are accepted by the pipeline, each in its own language or in another one; the target is the
same. A record that is marked and declared in the same way in both has the same builder, path and
content, wherever it stands in the one and in the other.

If one manifest declares the types of the other in another order, the previews are in that order.
Generating reports a collision for both or for none, and if it succeeds for the first one in a
tree without links, it does for the other and leaves the same tree. -/
theorem builders_independent {text : String} {m m' : Manifest} (hparse : parse text = .ok m)
    (language language' : Option Language)
    (htarget : (m.withLanguage language).project.language =
      (m'.withLanguage language').project.language)
    {σ : Type} {s s1 s2 : σ} {round round' : Round}
    (haccepted : (({} : Pipeline σ).run (m.withLanguage language)).runOn s = (.ok round, s1))
    (haccepted' : (({} : Pipeline σ).run (m'.withLanguage language')).runOn s = (.ok round', s2))
    (stamp : Stamp) :
    let target := m.withLanguage language
    let target' := m'.withLanguage language'
    let buildable := m.types.filter fun u => u.2.builder = true ∧ u.2.kind = .record
    let buildable' := m'.types.filter fun u => u.2.builder = true ∧ u.2.kind = .record
    ∃ files files', target.Previews stamp files ∧ target'.Previews stamp files' ∧
      files.length = buildable.length ∧ files'.length = buildable'.length ∧
      (∀ (i j : Nat) (u : String × TypeDecl), buildable[i]? = some u → buildable'[j]? = some u →
        ∃ f, files[i]? = some f ∧ files'[j]? = some f) ∧
      (m.types.Perm m'.types →
        (buildable.zip files).Perm (buildable'.zip files') ∧
        ∀ output t,
          ((∃ p, target.ReportsCollision stamp output t p) ↔
            ∃ p, target'.ReportsCollision stamp output t p) ∧
          (t.NoLinks → ∀ generation t1,
            (target.generate stamp { output }).runOn t = (.ok generation, t1) →
              ∃ generation' t2, (target'.generate stamp { output }).runOn t = (.ok generation', t2) ∧
                t1.Same t2)) := by
  intro target target' buildable buildable'
  have hvalid := ((runOn_pipeline_eq_ok_iff "").mp haccepted).1
  have hvalid' := ((runOn_pipeline_eq_ok_iff "").mp haccepted').1
  have hconforms := violation?_eq_none_iff.mp (parse_eq_ok_iff.mp hparse).2
  have hbuilder : target.builder stamp = target'.builder stamp := builder_congr htarget stamp
  have hbuildable : target.buildable = buildable := by
    rw [buildable_withLanguage, buildable_eq_filter]
  have hbuildable' : target'.buildable = buildable' := by
    rw [buildable_withLanguage, buildable_eq_filter]
  have hpreviews := previews_of_isValid hvalid stamp
  have hpreviews' := previews_of_isValid hvalid' stamp
  rw [hbuildable] at hpreviews
  rw [hbuildable', ← hbuilder] at hpreviews'
  refine ⟨_, _, hpreviews, hpreviews', List.length_map _, List.length_map _,
    fun i j u hi hj => ?_, fun hperm => ?_⟩
  · exact ⟨target.builder stamp u, by rw [List.getElem?_map, hi]; rfl,
      by rw [List.getElem?_map, hj]; rfl⟩
  · have hrecords : target.generator.records.Perm target'.generator.records :=
      perm_records (by rwa [types_withLanguage, types_withLanguage])
    have hlanguage : target.generator.language = target'.generator.language := htarget
    refine ⟨?_, fun output t => ⟨?_, fun ht generation t1 hrun => ?_⟩⟩
    · -- both previews are the same function of what they are zipped with
      have hzip : ∀ us : List (String × TypeDecl), us.zip (us.map (target.builder stamp)) =
          us.map fun u => (u, target.builder stamp u) := by
        intro us
        have hzip := List.zip_map' (l := us) (f := id) (g := target.builder stamp)
        rwa [List.map_id] at hzip
      rw [hzip, hzip]
      exact (hperm.filter _).map _
    · rw [exists_reportsCollision_iff hvalid, exists_reportsCollision_iff hvalid',
        (Generator.perm_paths hlanguage hrecords).nodup_iff]
    · obtain ⟨paths, hgenerate⟩ := (exists_runOn_generate_iff hvalid).mp ⟨generation, hrun⟩
      obtain ⟨t2, hgenerate', hsame⟩ := Generator.exists_generate_of_perm hlanguage hrecords
        (fun r hr => isSound_of_mem_records hconforms hr) ht hgenerate
      obtain ⟨generation', hrun'⟩ := (exists_runOn_generate_iff hvalid').mpr ⟨_, hgenerate'⟩
      exact ⟨generation', t2, hrun', hsame⟩

/-- Two records. -/
def circleFirst : Manifest where
  project := { name := "shapes" }
  types := [("Circle", { builder := true }), ("Square", { builder := true })]

/-- The same two records in another order, and in another project. -/
def squareFirst : Manifest where
  project := { name := "figures", description := some "in another order" }
  types := [("Square", { builder := true }), ("Circle", { builder := true })]

set_option maxRecDepth 100000 in
/-- The first of the builders of the one is the second of those of the other, and both leave the
same tree. -/
theorem circle_square_independent :
    ∃ text files files', parse text = .ok circleFirst ∧
      circleFirst.Previews ⟨2024, 5, 1, 12, 0, 0, 0⟩ files ∧
      squareFirst.Previews ⟨2024, 5, 1, 12, 0, 0, 0⟩ files' ∧
      (∃ f, files[0]? = some f ∧ files'[1]? = some f) ∧
      ∃ generation generation' t t',
        (circleFirst.generate ⟨2024, 5, 1, 12, 0, 0, 0⟩ { output := "out" }).runOn {} =
          (.ok generation, t) ∧
        (squareFirst.generate ⟨2024, 5, 1, 12, 0, 0, 0⟩ { output := "out" }).runOn {} =
          (.ok generation', t') ∧ t.Same t' := by
  have hparse : parse
      ("[project]\nname = \"shapes\"\n[types.Circle]\nbuilder = true\n" ++
        "[types.Square]\nbuilder = true\n") = .ok circleFirst := by rfl
  have haccepted : (({} : Pipeline Unit).run (circleFirst.withLanguage none)).runOn () =
      (.ok circleFirst.loweredRound, ()) := by rfl
  have haccepted' : (({} : Pipeline Unit).run (squareFirst.withLanguage none)).runOn () =
      (.ok squareFirst.loweredRound, ()) := by rfl
  have htarget : (circleFirst.withLanguage none).project.language =
      (squareFirst.withLanguage none).project.language := rfl
  obtain ⟨files, files', hfiles, hfiles', -, -, hsame, hreordered⟩ :=
    builders_independent hparse none none htarget haccepted haccepted' ⟨2024, 5, 1, 12, 0, 0, 0⟩
  obtain ⟨-, hgenerate⟩ := hreordered (List.Perm.swap _ _ _)
  have hlinks : FileTree.NoLinks {} := by
    intro l target h
    simp [FileTree.get?] at h
  have hwritten : ((circleFirst.generate ⟨2024, 5, 1, 12, 0, 0, 0⟩ { output := "out" }).runOn
      {}).1.isOk = true := by
    decide +kernel
  rcases hrun : (circleFirst.generate ⟨2024, 5, 1, 12, 0, 0, 0⟩ { output := "out" }).runOn {} with
    ⟨failure | generation, t⟩
  · rw [hrun] at hwritten
    exact absurd hwritten Bool.false_ne_true
  · obtain ⟨generation', t', hrun', htree⟩ := (hgenerate "out" {}).2 hlinks generation t hrun
    exact ⟨_, files, files', hparse, hfiles, hfiles', hsame 0 1 _ rfl rfl, generation, generation',
      t, t', rfl, hrun', htree⟩

end Manifest
end BuilderGen
