import BuilderGen.Proofs.FileTree.Below
import BuilderGen.Proofs.Generation

/-!
# BuilderGen.Proofs.Filling

**Filling an output directory** with builders. All that generating does to the tree is known
from the location of the directory, as long as no link stands below it: the builders are
there, and what else changed are directories on the way down to them
(`Generator.filled_of_generate`). It succeeds if the paths of the builders fit and keep out of
each other's way (`Generator.exists_generate`).

Both are loops over writing a single file. What keeps a loop going is that the output
directory stays where it is, and that no link appears below it (`Filled.cons`).
-/

namespace BuilderGen

open FileTree

/-! ### Several files -/

/-- Files have been written below a directory, and nothing else has happened than that
directories were made on the way down to them. -/
structure Filled (d : Location) (files : List BuilderFile) (t t' : FileTree) : Prop where
  changes : Changes (files.map fun f => d ++ Path.pieces f.path)
    (files.flatMap fun f => wayBelow d (Path.pieces f.path)) t t'
  wellFormed : t'.WellFormed
  file : ∀ f ∈ files, t'.get? (d ++ Path.pieces f.path) = some (.file f.content.toUTF8)

/-- The path of a file leads down through directories, to a name. -/
def BuilderFile.IsRelative (f : BuilderFile) : Prop :=
  ∃ directories name, Path.IsRelative f.path directories name

theorem Filled.nil (d : Location) {t : FileTree} (ht : t.WellFormed) : Filled d [] t t where
  changes := Changes.refl _ _ t
  wellFormed := ht
  file _ hf := by cases hf

/-- One file is written, and the others after it, to other places. -/
theorem Filled.cons {d : Location} {f : BuilderFile} {files : List BuilderFile} {t t1 t' : FileTree}
    (hfirst : Placed d f.path f.content t t1) (h : Filled d files t1 t')
    (hnew : ∀ g ∈ files, g.path ≠ f.path) : Filled d (f :: files) t t' where
  changes := by simpa using hfirst.changes.trans h.changes
  wellFormed := h.wellFormed
  file g hg := by
    rcases List.mem_cons.mp hg with rfl | hg
    · -- the files after it leave it alone
      have hother : d ++ Path.pieces g.path ∉ files.map fun f => d ++ Path.pieces f.path := by
        rw [List.mem_map]
        intro hmem
        obtain ⟨k, hk, heq⟩ := hmem
        refine hnew k hk ?_
        exact Path.pieces_inj.mp (List.append_cancel_left heq)
      rcases h.changes.other _ hother with heq | ⟨-, hnone, -⟩
      · rw [heq, hfirst.file]
      · rw [hfirst.file] at hnone
        cases hnone
    · exact h.file g hg

namespace Filing

variable {output : String} {left : Nat} {d : Location}

/-- **Files that were written** below a directory fill it. -/
theorem filled_of_writeAll (files : List BuilderFile) :
    ∀ {t t' : FileTree}, t.WellFormed → t.LeadsTo output left d → t.NoLinksBelow d →
      (∀ f ∈ files, f.IsRelative) → (files.map (·.path)).Nodup →
      (writeAll output files).runOn t = (.ok (), t') →
        Filled d files t t' ∧ t'.LeadsTo output left d ∧ t'.NoLinksBelow d ∧
          ∀ f ∈ files, Path.isUsable (Path.join output f.path) = true := by
  induction files with
  | nil =>
      intro t t' ht hout hlinks _ _ hrun
      obtain rfl : t = t' := (Prod.mk.inj hrun).2
      exact ⟨Filled.nil d ht, hout, hlinks, by simp⟩
  | cons f files ih =>
      intro t t' ht hout hlinks hrelative hnodup hrun
      obtain ⟨⟨directories, name, hpath⟩, hrest⟩ := List.forall_mem_cons.mp hrelative
      rw [List.map_cons, List.nodup_cons] at hnodup
      rw [runOn_writeAll_cons] at hrun
      rcases hfirst : (writeAtomic (Path.join output f.path) f.content).runOn t with
        ⟨failure | _, t1⟩
      · rw [hfirst] at hrun
        cases hrun
      · rw [hfirst] at hrun
        obtain ⟨hplaced, husable⟩ := writeAtomic_join_eq_ok ht hout hpath hlinks hfirst
        obtain ⟨hfilled, hout', hlinks', husable'⟩ := ih hplaced.wellFormed
          (hout.of_keeps (hplaced.keeps hlinks)) (hplaced.noLinksBelow hlinks) hrest hnodup.2 hrun
        have hnew : ∀ g ∈ files, g.path ≠ f.path :=
          fun g hg heq => hnodup.1 (List.mem_map.mpr ⟨g, hg, heq⟩)
        exact ⟨hfilled.cons hplaced hnew, hout', hlinks', List.forall_mem_cons.mpr ⟨husable, husable'⟩⟩

/-- Two files are apart if neither is in the way of the other. -/
def Apart (f g : BuilderFile) : Prop :=
  ¬ Path.pieces f.path <+: Path.pieces g.path ∧ ¬ Path.pieces g.path <+: Path.pieces f.path

/-- The way down to a file stays clear when another one is written apart from it. -/
theorem clear_of_placed {f g : BuilderFile} {t t' : FileTree}
    (hplaced : Placed d f.path f.content t t') (hapart : Apart f g)
    (hclear : t.Clear d (Path.pieces g.path)) : t'.Clear d (Path.pieces g.path) where
  way front hne hprefix hproper := by
    have hother : d ++ front ∉ [d ++ Path.pieces f.path] := by
      rw [List.mem_singleton]
      intro heq
      exact hapart.1 (List.append_cancel_left heq ▸ hprefix)
    rcases hplaced.changes.other _ hother with heq | ⟨-, -, hdir⟩
    · rw [heq]
      exact hclear.way front hne hprefix hproper
    · exact Or.inr hdir
  place := by
    have hother : d ++ Path.pieces g.path ∉ [d ++ Path.pieces f.path] := by
      rw [List.mem_singleton]
      intro heq
      exact hapart.1 (List.append_cancel_left heq ▸ List.prefix_refl _)
    rcases hplaced.changes.other _ hother with heq | ⟨hmem, -, -⟩
    · rw [heq]
      exact hclear.place
    · -- it would have to be on the way to the other file
      obtain ⟨front, -, hprefix, -, heq⟩ := (mem_wayBelow_iff (Path.pieces_ne_nil f.path)).mp hmem
      exact absurd (List.append_cancel_left heq ▸ hprefix) hapart.2

/-- **Writing files succeeds** below a directory if their paths fit, the ways down to them are
clear, and they are apart. -/
theorem exists_writeAll (files : List BuilderFile) :
    ∀ {t : FileTree}, t.WellFormed → t.LeadsTo output left d → t.NoLinksBelow d →
      (∀ f ∈ files, f.IsRelative) → files.Pairwise Apart →
      (∀ f ∈ files, t.Fits output f.path ∧ t.Clear d (Path.pieces f.path)) →
        ∃ t', (writeAll output files).runOn t = (.ok (), t') := by
  induction files with
  | nil => intro t _ _ _ _ _ _; exact ⟨t, rfl⟩
  | cons f files ih =>
      intro t ht hout hlinks hrelative hapart hfits
      obtain ⟨⟨directories, name, hpath⟩, hrest⟩ := List.forall_mem_cons.mp hrelative
      obtain ⟨⟨hfit, hclear⟩, hfits⟩ := List.forall_mem_cons.mp hfits
      rw [List.pairwise_cons] at hapart
      obtain ⟨t1, hfirst⟩ := exists_writeAtomic_join ht hout hpath hlinks hfit hclear f.content
      obtain ⟨hplaced, -⟩ := writeAtomic_join_eq_ok ht hout hpath hlinks hfirst
      have hfits1 : ∀ g ∈ files, t1.Fits output g.path ∧ t1.Clear d (Path.pieces g.path) := by
        intro g hg
        obtain ⟨hfit, hclear⟩ := hfits g hg
        refine ⟨⟨hfit.names, hfit.usable, ?_⟩, clear_of_placed hplaced (hapart.1 g hg) hclear⟩
        rw [hplaced.changes.canStage, hfit.room]
      obtain ⟨t', hrun⟩ := ih hplaced.wellFormed (hout.of_keeps (hplaced.keeps hlinks))
        (hplaced.noLinksBelow hlinks) hrest hapart.2 hfits1
      refine ⟨t', ?_⟩
      rw [runOn_writeAll_cons, hfirst]
      exact hrun

end Filing

/-! ### Generating -/

theorem FileTree.Grows.noLinksBelow {t t' : FileTree} (h : Grows t t') {d : Location}
    (hlinks : t.NoLinksBelow d) : t'.NoLinksBelow d := by
  intro names target hl
  rcases h.other (d ++ names) with heq | ⟨-, hdir⟩
  · exact hlinks names target (heq ▸ hl)
  · rw [hdir] at hl
    cases hl

namespace Generator

variable {g : Generator} {stamp : Stamp} {output : String} {t t' : FileTree} {left : Nat}
  {d : Location}

theorem isRelative_of_mem_files (hg : ∀ r ∈ g.records, r.IsSound) (stamp : Stamp) :
    ∀ f ∈ g.files stamp, f.IsRelative := by
  intro f hf
  obtain ⟨r, hr, rfl⟩ := List.mem_map.mp hf
  obtain ⟨hpieces, hnames⟩ := (hg r hr).pieces_builderPath g.language
  exact ⟨_, _, hpieces, by rwa [← hpieces]⟩

/-- Nothing is written if a path is repeated. -/
theorem runOn_generate_of_not_nodup (stamp : Stamp) (output : String) (t : FileTree)
    (h : ¬ g.paths.Nodup) :
    ∃ path ∈ g.paths, (g.generate stamp output).runOn t = (.error { cause := .collision path }, t) := by
  cases hrepeated : repeated? [] g.paths with
  | none => exact absurd (repeated?_eq_none_iff.mp hrepeated).1 h
  | some path =>
      obtain ⟨before, after, hpaths, -⟩ := exists_of_repeated? hrepeated
      refine ⟨path, by simp [hpaths], ?_⟩
      rw [generate, hrepeated]
      rfl

/-- Generating that succeeds is writing all builders to different paths. -/
theorem writeAll_of_generate {paths : List String}
    (hrun : (g.generate stamp output).runOn t = (.ok paths, t')) :
    g.paths.Nodup ∧ paths = g.paths ∧ (Filing.writeAll output (g.files stamp)).runOn t = (.ok (), t') := by
  by_cases hnodup : g.paths.Nodup
  · rw [runOn_generate_of_nodup stamp output t hnodup] at hrun
    rcases hall : (Filing.writeAll output (g.files stamp)).runOn t with ⟨failure | _, t1⟩
    · rw [hall] at hrun
      cases hrun
    · rw [hall] at hrun
      obtain ⟨hpaths, rfl⟩ := Prod.mk.inj hrun
      exact ⟨hnodup, (Except.ok.inj hpaths).symm, rfl⟩
  · obtain ⟨path, -, hfail⟩ := runOn_generate_of_not_nodup stamp output t hnodup
    rw [hfail] at hrun
    cases hrun

/-- **Builders that were generated** fill the output directory, which is made if it is
missing. -/
theorem filled_of_generate (hg : ∀ r ∈ g.records, r.IsSound) (hrecords : g.records ≠ [])
    (ht : t.WellFormed) (houtput : output ≠ "")
    (hlinks : ∀ d, (t.makeDirectories output).2 = some d → t.NoLinksBelow d) {paths : List String}
    (hrun : (g.generate stamp output).runOn t = (.ok paths, t')) :
    ∃ left d, Filled d (g.files stamp) (t.makeDirectories output).1 t' ∧ t'.LeadsTo output left d ∧
      t'.NoLinksBelow d ∧ ∀ f ∈ g.files stamp, Path.isUsable (Path.join output f.path) = true := by
  obtain ⟨hnodup, -, hall⟩ := writeAll_of_generate hrun
  have hrelative := isRelative_of_mem_files hg stamp
  rw [← map_path_files g stamp] at hnodup
  obtain ⟨f, files, hfiles⟩ := List.exists_cons_of_ne_nil
    (show g.files stamp ≠ [] by simpa [files] using hrecords)
  rw [hfiles] at hall hnodup hrelative ⊢
  obtain ⟨directories, name, hpath⟩ := hrelative f (by simp)
  rcases hfirst : (Filing.writeAtomic (Path.join output f.path) f.content).runOn t with
    ⟨failure | _, t1⟩
  · rw [Filing.runOn_writeAll_cons, hfirst] at hall
    cases hall
  · -- all of it might as well have been written after the directory was made
    obtain ⟨t0, left, d, hmade, hwell, hout, hfirst0⟩ :=
      Filing.exists_leadsTo_of_writeAtomic ht houtput hpath hfirst
    have hall0 : (Filing.writeAll output (f :: files)).runOn t0 = (.ok (), t') := by
      rw [Filing.runOn_writeAll_cons, hfirst] at hall
      rw [Filing.runOn_writeAll_cons, hfirst0]
      exact hall
    have hgrows := grows_makeDirectories t output
    rw [hmade] at hgrows ⊢
    have hlinks0 := hgrows.noLinksBelow (hlinks d (by rw [hmade]))
    obtain ⟨hfilled, hout', hlinks', husable⟩ :=
      Filing.filled_of_writeAll _ hwell hout hlinks0 hrelative hnodup hall0
    exact ⟨left, d, hfilled, hout', hlinks', husable⟩

/-- **Generating succeeds** below a directory that is there, if the paths of the builders fit,
the ways down to them are clear, and they are apart. -/
theorem exists_generate (hg : ∀ r ∈ g.records, r.IsSound) (ht : t.WellFormed)
    (hout : t.LeadsTo output left d) (hlinks : t.NoLinksBelow d) (hnodup : g.paths.Nodup)
    (hapart : (g.files stamp).Pairwise Filing.Apart)
    (hfits : ∀ path ∈ g.paths, t.Fits output path ∧ t.Clear d (Path.pieces path)) :
    ∃ t', (g.generate stamp output).runOn t = (.ok g.paths, t') ∧
      Filled d (g.files stamp) t t' ∧ t'.LeadsTo output left d := by
  have hrelative := isRelative_of_mem_files hg stamp
  obtain ⟨t', hall⟩ := Filing.exists_writeAll (g.files stamp) ht hout hlinks hrelative hapart
    fun f hf => hfits f.path (by rw [← map_path_files g stamp]; exact List.mem_map_of_mem hf)
  obtain ⟨hfilled, hout', -, -⟩ := Filing.filled_of_writeAll _ ht hout hlinks hrelative
    (by rwa [map_path_files]) hall
  refine ⟨t', ?_, hfilled, hout'⟩
  rw [runOn_generate_of_nodup stamp output t hnodup, hall]

end Generator
end BuilderGen
