import BuilderGen.Proofs.Cleaning

/-!
# BuilderGen.Proofs.Removal

**What cleaning removes**, in any tree: the files that it lists, and nothing else (`Cleaned`,
`Generator.clean_removes_listed`). The files are known by the names on the way to them. Listed
are their paths as they are shown, and removed is what stands at their locations; the two belong
together because the search does not go through links.

What is gone is stale no more, and nothing becomes stale by it, so there is nothing to do for
cleaning a second time (`orphans_withoutOrphans`).
-/

namespace BuilderGen

namespace FileTree

section WithoutOrphans

variable {t : FileTree} {base extension : String} {expected : List String}

/-! ### Cleaning twice -/

/-- Nothing is there after cleaning that was not there before. -/
theorem get?_of_withoutOrphans (ht : t.WellFormed) {l : Location} {entry : Entry}
    (h : (t.withoutOrphans base extension expected).get? l = some entry) :
    t.get? l = some entry := by
  rw [get?_withoutOrphans ht] at h
  split at h
  next => cases h
  next => exact h

theorem Found.of_withoutOrphans (ht : t.WellFormed) {directory : Location} {names : List Name}
    {bytes : ByteArray}
    (h : (t.withoutOrphans base extension expected).Found directory names bytes) :
    t.Found directory names bytes where
  ne_nil := h.ne_nil
  file := get?_of_withoutOrphans ht h.file
  searched before name after hnames hafter :=
    (h.searched before name after hnames hafter).imp_left (get?_of_withoutOrphans ht)

/-- Where there are no orphans, none are removed. -/
theorem withoutOrphans_of_orphans_eq_nil (h : t.orphans base extension expected = []) :
    t.withoutOrphans base extension expected = t := by
  rw [withoutOrphans, orphanLocations, h]
  rfl

/-- There are no orphans without the orphans. -/
theorem orphans_withoutOrphans (ht : t.WellFormed) :
    (t.withoutOrphans base extension expected).orphans base extension expected = [] := by
  cases hdir : t.directory? base with
  | none =>
      have hnil : t.orphans base extension expected = [] := orphans_of_eq_none hdir
      rw [withoutOrphans_of_orphans_eq_nil hnil, hnil]
  | some directory =>
      rw [List.eq_nil_iff_forall_not_mem]
      intro o ho
      obtain ⟨names, hstale, rfl⟩ := (mem_orphans_iff ht.withoutOrphans).mp ho
      have hdir' : (t.withoutOrphans base extension expected).directory? base = some directory :=
        directory?_of_keeps (keeps_withoutOrphans ht) ht ht.withoutOrphans hdir
      obtain ⟨bytes, hfound, hrest⟩ := (isStale_iff_of_directory? hdir').mp hstale
      -- it would have been stale before, and would be gone
      have hbefore : t.IsStale base extension expected names :=
        (isStale_iff_of_directory? hdir).mpr ⟨bytes, hfound.of_withoutOrphans ht, hrest⟩
      have hfile := hfound.file
      rw [get?_withoutOrphans ht, if_pos ((append_mem_orphanLocations_iff ht hdir).mpr hbefore)]
        at hfile
      cases hfile

end WithoutOrphans

/-! ### Paths and locations -/

/-- Names lead to a location below the directory that a path leads to. -/
def IsBelow (t : FileTree) (base : String) (names : List Name) (l : Location) : Prop :=
  ∃ directory, t.directory? base = some directory ∧ l = directory ++ names

end FileTree

open FileTree

/-! ### Cleaning -/

/-- What cleaning does to a tree when it lists files, by the names on the way to them. -/
structure Cleaned (g : Generator) (output : String) (files : List (List Name)) (t t' : FileTree) :
    Prop extends Keeps t t' where
  /-- The files are those that are generated, not expected, and found without going through a
  link below the directory, each of them once; -/
  listed : ∀ names, names ∈ files ↔ t.IsStale output g.language.extension g.paths names
  nodup : files.Nodup
  /-- below the path of the directory, their names lead to them, -/
  leads : ∀ names ∈ files, ∃ l bytes, t.IsBelow output names l ∧
    t.find? ((output : RawPath).join ⟨names⟩) = some (l, .file bytes)
  /-- and so do their paths as they are shown, where the names are texts; -/
  shown : ∀ names ∈ files, (∀ name ∈ names, ∃ text : String, name = text) →
    Path.pieces (RawPath.shownNames names) = names
  /-- nothing is there any more; -/
  gone : ∀ names ∈ files, ∀ l, t.IsBelow output names l → t'.get? l = none
  /-- everything else is as before; -/
  other : ∀ l, (∀ names ∈ files, ¬ t.IsBelow output names l) → t'.get? l = t.get? l
  /-- so is what is expected -/
  expected : ∀ path ∈ g.paths, ∀ l, t.IsBelow output (Path.pieces path) l → t'.get? l = t.get? l
  /-- and what does not carry the marker. -/
  unmarked : ∀ l bytes, t.get? l = some (.file bytes) → ¬ CarriesMarker bytes →
    t'.get? l = some (.file bytes)

theorem cleaned_withoutOrphans {t : FileTree} (ht : t.WellFormed) (g : Generator)
    (output : String) {files : List (List Name)} (hnodup : files.Nodup)
    (hfiles : ∀ names, names ∈ files ↔ t.IsStale output g.language.extension g.paths names) :
    Cleaned g output files t (t.withoutOrphans output g.language.extension g.paths) where
  toKeeps := keeps_withoutOrphans ht
  listed := hfiles
  nodup := hnodup
  leads names hnames := by
    obtain ⟨d, bytes, hdir, hfound, -, -, -, husable⟩ := (hfiles names).mp hnames
    obtain ⟨-, left, hleads⟩ := (directory?_eq_some_iff ht).mp hdir
    refine ⟨_, bytes, ⟨d, hdir, rfl⟩, ?_⟩
    rw [hleads.find?_join ht hfound.ne_nil hfound.file nofun, if_pos husable]
  shown names hnames htexts := by
    obtain ⟨d, bytes, -, hfound, -⟩ := (hfiles names).mp hnames
    exact RawPath.pieces_shownNames hfound.ne_nil
      (fun name hname => (ht.isName_of_mem hfound.file hname).2) htexts
  gone names hnames l hl := by
    obtain ⟨d, hdir, rfl⟩ := hl
    rw [get?_withoutOrphans ht, if_pos]
    exact (append_mem_orphanLocations_iff ht hdir).mpr ((hfiles names).mp hnames)
  other l hl := by
    rw [get?_withoutOrphans ht, if_neg]
    intro hmem
    obtain ⟨d, names, hdir, rfl, hstale⟩ := (mem_orphanLocations_iff ht).mp hmem
    exact hl names ((hfiles names).mpr hstale) ⟨d, hdir, rfl⟩
  expected path hpath l hl := by
    obtain ⟨d, hdir, rfl⟩ := hl
    rw [get?_withoutOrphans ht, if_neg]
    intro hmem
    obtain ⟨-, -, -, -, -, hnew, -⟩ := (append_mem_orphanLocations_iff ht hdir).mp hmem
    rw [RawPath.shownNames_pieces] at hnew
    exact hnew hpath
  unmarked l bytes hfile hmarker := by
    rw [get?_withoutOrphans_of_other ht, hfile]
    intro bytes' name hfile' hmarker'
    cases hfile.symm.trans hfile'
    exact absurd hmarker' hmarker

/-- **Cleaning removes what it lists**, the same as is listed if nothing is to be removed, and
cleaning again finds nothing. -/
theorem Generator.clean_removes_listed {t : FileTree} (ht : t.WellFormed) (g : Generator)
    (output : String) :
    ∃ files t', (g.clean output true).runOn t = (.ok (files.map RawPath.shownNames), t) ∧
      (g.clean output false).runOn t = (.ok (files.map RawPath.shownNames), t') ∧
      Cleaned g output files t t' ∧ (g.clean output false).runOn t' = (.ok [], t') := by
  obtain ⟨files, hnodup, hfiles, horphans⟩ :=
    exists_stale_files ht output g.language.extension g.paths
  have hpaths : (t.orphans output g.language.extension g.paths).map (·.path) =
      files.map RawPath.shownNames := by
    rw [horphans, List.map_map]
    rfl
  have hrun : ∀ {t : FileTree}, t.WellFormed → (g.clean output false).runOn t =
      (.ok ((t.orphans output g.language.extension g.paths).map (·.path)),
        t.withoutOrphans output g.language.extension g.paths) := fun ht =>
    Filing.runOn_clean ht output g.language.extension g.paths
  refine ⟨files, _, ?_, ?_, cleaned_withoutOrphans ht g output hnodup hfiles, ?_⟩
  · rw [← hpaths]
    rfl
  · rw [hrun ht, hpaths]
  · have hnone : (t.withoutOrphans output g.language.extension g.paths).orphans output
        g.language.extension g.paths = [] := orphans_withoutOrphans ht
    rw [hrun ht.withoutOrphans, hnone, withoutOrphans_of_orphans_eq_nil hnone]
    rfl

/-- Where the builder of a record belongs, a link leads to a generated file somewhere else below
the output directory. -/
def linkedOut : FileTree :=
  (((({} : FileTree).put ["out"] .directory).put ["out", "real"] .directory).put
    ["out", "real", "KeyBuilder.java"] (.file ("// " ++ marker).toUTF8)).put
    ["out", "KeyBuilder.java"] (.link "real/KeyBuilder.java")

theorem wellFormed_linkedOut : linkedOut.WellFormed := by
  have hname : ∀ part ∈ ["out", "real", "KeyBuilder.java"],
      Path.IsName (.text part) ∧ Path.NoSlash (.text part) := by
    simp [Path.IsName, Path.NoSlash, Path.isIdle]
  refine (((wellFormed_empty.put (l := []) .directory (hname _ ?_) rfl ?_).put
    (l := ["out"]) .directory (hname _ ?_) ?_ ?_).put
    (l := ["out", "real"]) _ (hname _ ?_) ?_ ?_).put (l := ["out"]) _ (hname _ ?_) ?_ ?_
  all_goals simp [get?, FileTree.put, putEntry, List.lookup_cons, beq_eq_decide]

/-- The generator of the record. -/
def keyGenerator : Generator where
  language := .java
  records := [Round.lowerRecord "Key" { builder := true }]

theorem orphans_linkedOut :
    (linkedOut.orphans "out" keyGenerator.language.extension keyGenerator.paths).map (·.path) =
      ["real/KeyBuilder.java"] := by
  decide +kernel

/-- The file is removed, and the link stays. -/
theorem linkedOut_clean : linkedOut.WellFormed ∧ ∃ (files : List (List Name)) (t' : FileTree),
    (keyGenerator.clean "out" true).runOn linkedOut =
      (.ok (files.map RawPath.shownNames), linkedOut) ∧
    (keyGenerator.clean "out" false).runOn linkedOut =
      (.ok (files.map RawPath.shownNames), t') ∧
    files.map RawPath.shownNames = ["real/KeyBuilder.java"] ∧
    t'.get? ["out", "KeyBuilder.java"] = some (.link "real/KeyBuilder.java") ∧
    t'.get? ["out", "real"] = some .directory ∧
    (keyGenerator.clean "out" false).runOn t' = (.ok [], t') := by
  obtain ⟨files, t', hdry, hrun, hcleaned, hagain⟩ :=
    keyGenerator.clean_removes_listed wellFormed_linkedOut "out"
  refine ⟨wellFormed_linkedOut, files, t', hdry, hrun, ?_, ?_, ?_, hagain⟩
  · have hpaths := Except.ok.inj (Prod.mk.inj hdry).1
    rw [← hpaths, orphans_linkedOut]
  · exact hcleaned.link _ _ rfl
  · exact hcleaned.directory _ rfl

/-- Beside a generated file with a name that is no text, a file without the marker has the name
that is shown. -/
def lookalike : FileTree :=
  ((({} : FileTree).put ["out"] .directory).put ["out", strange]
    (.file ("// " ++ marker).toUTF8)).put ["out", "\uFFFDB.java"] (.file "".toUTF8)

theorem wellFormed_lookalike : lookalike.WellFormed := by
  have hname : ∀ part ∈ ["out", "\uFFFDB.java"],
      Path.IsName (.text part) ∧ Path.NoSlash (.text part) := by
    simp [Path.IsName, Path.NoSlash, Path.isIdle]
  have hstrange : Path.IsName strange ∧ Path.NoSlash strange :=
    ⟨trivial, by simp [strange, Path.NoSlash]⟩
  refine ((wellFormed_empty.put (l := []) .directory (hname _ ?_) rfl ?_).put
    (l := ["out"]) _ hstrange ?_ ?_).put (l := ["out"]) _ (hname _ ?_) ?_ ?_
  all_goals simp [get?, FileTree.put, putEntry, List.lookup_cons, beq_eq_decide, strange]

/-- The link led to the file of the record, and leads to nothing afterwards. And the file whose
path is listed is not the one that is removed. -/
theorem linked_builder_removed :
    ("KeyBuilder.java" ∈ keyGenerator.paths ∧
      linkedOut.get? ["out", "KeyBuilder.java"] = some (.link "real/KeyBuilder.java") ∧
      linkedOut.holds "out/KeyBuilder.java" = true ∧
      ∃ t', (keyGenerator.clean "out" false).runOn linkedOut = (.ok ["real/KeyBuilder.java"], t') ∧
        t'.holds "out/KeyBuilder.java" = false) ∧
    ∃ t', (keyGenerator.clean "out" false).runOn lookalike = (.ok ["\uFFFDB.java"], t') ∧
      t'.readText? "out/\uFFFDB.java" = some "" ∧
      lookalike.get? ["out", strange] = some (.file ("// " ++ marker).toUTF8) ∧
      t'.get? ["out", strange] = none := by
  refine ⟨⟨by decide +kernel, rfl, by decide +kernel,
    linkedOut.withoutOrphans "out" keyGenerator.language.extension keyGenerator.paths, ?_, ?_⟩,
    lookalike.withoutOrphans "out" keyGenerator.language.extension keyGenerator.paths, ?_, ?_,
    rfl, ?_⟩
  · rw [Generator.clean, Filing.runOn_clean wellFormed_linkedOut, orphans_linkedOut]
  · decide +kernel
  · have hpaths : (lookalike.orphans "out" keyGenerator.language.extension
        keyGenerator.paths).map (·.path) = ["\uFFFDB.java"] := by
      decide +kernel
    rw [Generator.clean, Filing.runOn_clean wellFormed_lookalike, hpaths]
  · decide +kernel
  · rw [get?_withoutOrphans wellFormed_lookalike, if_pos]
    decide +kernel

end BuilderGen
