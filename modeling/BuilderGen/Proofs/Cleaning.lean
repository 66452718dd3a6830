import BuilderGen.Proofs.Emit.Marked
import BuilderGen.Proofs.FileTree.Orphan
import BuilderGen.Proofs.Filling
import BuilderGen.Proofs.Manifest.Valid

/-!
# BuilderGen.Proofs.Cleaning

**Cleaning after generating** removes the builders that are stale, and nothing else
(`Manifest.clean_after_generate`).

Cleaning removes files by their paths, one after the other. What a path names stays the same
while other files are removed (`entryAt?_of_keeps`), and the paths of orphans name different
files, so all of them are removed (`Filing.runOn_clean`). A builder that was generated is stale
unless it is expected or lies where the search does not go (`Record.IsSound.isStale_iff`): it
carries the marker and the extension, and its directories have the names of its record's
package. The path that the search puts together is the one it was written to.
-/

namespace BuilderGen

open FileTree
open Text (isIdentifier isIdentifier_iff)

/-! ### Removing files -/

namespace FileTree

/-- Removes what stands at locations. -/
def removeAll (t : FileTree) (locations : List Location) : FileTree :=
  locations.foldl FileTree.erase t

/-- Nothing stands where something was removed, and all else is as before. -/
theorem get?_removeAll (l : Location) (locations : List Location) :
    ∀ t : FileTree, (∀ k ∈ locations, k ≠ []) →
      (t.removeAll locations).get? l = if l ∈ locations then none else t.get? l := by
  induction locations with
  | nil => intro t _; simp [removeAll]
  | cons k locations ih =>
      intro t h
      obtain ⟨hk, hlocations⟩ := List.forall_mem_cons.mp h
      rw [removeAll, List.foldl_cons, ← removeAll, ih _ hlocations, get?_erase _ _ hk]
      by_cases hl : l = k
      · simp [hl]
      · simp [hl]

theorem workingDirectory_removeAll (locations : List Location) :
    ∀ t : FileTree, (t.removeAll locations).workingDirectory = t.workingDirectory := by
  induction locations with
  | nil => intro t; rfl
  | cons k locations ih => intro t; exact ih (t.erase k)

theorem WellFormed.removeAll (locations : List Location) :
    ∀ {t : FileTree}, t.WellFormed → (∀ k ∈ locations, t.get? k ≠ some .directory) →
      (t.removeAll locations).WellFormed := by
  induction locations with
  | nil => intro t ht _; exact ht
  | cons k locations ih =>
      intro t ht h
      obtain ⟨hk, hlocations⟩ := List.forall_mem_cons.mp h
      have hroot : k ≠ [] := fun heq => hk (by rw [heq]; rfl)
      refine ih (ht.erase hk) fun k' hk' => ?_
      rw [get?_erase _ _ hroot]
      split
      · simp
      · exact hlocations k' hk'

/-- Directories and links are kept when a file is removed. -/
theorem keeps_erase {t : FileTree} {l : Location} {bytes : ByteArray}
    (hfile : t.get? l = some (.file bytes)) : Keeps t (t.erase l) := by
  have hroot : l ≠ [] := by
    rintro rfl
    cases hfile
  have hother : ∀ {k entry}, t.get? k = some entry → entry ≠ .file bytes →
      (t.erase l).get? k = some entry := by
    intro k entry hk hentry
    rw [get?_erase _ _ hroot, if_neg, hk]
    rintro rfl
    exact hentry (Option.some.inj (hk.symm.trans hfile))
  exact ⟨rfl, fun k hk => hother hk nofun, fun k target hk => hother hk nofun⟩

end FileTree

namespace Filing

theorem runOn_removeFile {t : FileTree} {path : RawPath} {l : Location} {bytes : ByteArray}
    (hplace : t.entryAt? path = some l) (hfile : t.get? l = some (.file bytes)) :
    (removeFile path).runOn t = (.ok (), t.erase l) := by
  have hremoved : t.removeFile? path = some (t.erase l) := by
    simp [removeFile?, hplace, hfile]
  rw [removeFile, Effect.runOn_bind, Effect.runOn_get]
  simp only [hremoved]
  rfl

/-- Files are removed by their paths one after the other. -/
theorem runOn_removeFiles {γ : Type} (path : γ → RawPath) (place : γ → Location) (files : List γ) :
    ∀ {t : FileTree}, (files.map place).Nodup →
      (∀ file ∈ files, t.entryAt? (path file) = some (place file) ∧
        ∃ bytes, t.get? (place file) = some (.file bytes)) →
      (files.forM fun file => removeFile (path file)).runOn t =
        (.ok (), t.removeAll (files.map place)) := by
  induction files with
  | nil => intro t _ _; rfl
  | cons file files ih =>
      intro t hnodup h
      obtain ⟨hnew, hnodup⟩ := List.nodup_cons.mp hnodup
      obtain ⟨⟨hplace, bytes, hfile⟩, hfiles⟩ := List.forall_mem_cons.mp h
      have hkeeps := keeps_erase hfile
      have hroot : place file ≠ [] := by
        intro hroot
        rw [hroot] at hfile
        cases hfile
      rw [List.forM, Effect.runOn_bind, runOn_removeFile hplace hfile]
      refine ih hnodup fun other hother => ?_
      obtain ⟨hplace', bytes', hfile'⟩ := hfiles other hother
      refine ⟨entryAt?_of_keeps hkeeps hplace', bytes', ?_⟩
      rw [get?_erase _ _ hroot, if_neg, hfile']
      exact fun heq => hnew (heq ▸ List.mem_map_of_mem hother)

end Filing

/-! ### Removing orphans -/

namespace FileTree

section WithoutOrphans

variable {t : FileTree} {base extension : String} {expected : List String}

/-- Where the orphans below a directory are. -/
def orphanLocations (t : FileTree) (base extension : String) (expected : List String) :
    List Location :=
  (t.orphans base extension expected).filterMap fun o => t.entryAt? o.fullPath

/-- A stale file is at the place that its path names. -/
theorem IsStale.entryAt?_join (ht : t.WellFormed) {names : List Name} {d : Location}
    (hdir : t.directory? base = some d) (h : t.IsStale base extension expected names) :
    t.entryAt? ((base : RawPath).join ⟨names⟩) = some (d ++ names) := by
  obtain ⟨bytes, hfound, -, -, -, husable⟩ := (isStale_iff_of_directory? hdir).mp h
  obtain ⟨-, left, hleads⟩ := (directory?_eq_some_iff ht).mp hdir
  exact hleads.entryAt?_join ht hfound.ne_nil hfound.file husable

/-- The locations are those of the stale files. -/
theorem exists_map_orphanLocations (ht : t.WellFormed) (extension : String)
    (expected : List String) {d : Location} (hdir : t.directory? base = some d) :
    ∃ files : List (List Name), files.Nodup ∧
      (∀ names, names ∈ files ↔ t.IsStale base extension expected names) ∧
      (t.orphans base extension expected = files.map fun names =>
        { path := RawPath.shownNames names, fullPath := (base : RawPath).join ⟨names⟩ }) ∧
      t.orphanLocations base extension expected = files.map (d ++ ·) := by
  obtain ⟨files, hnodup, hfiles, horphans⟩ := exists_stale_files ht base extension expected
  refine ⟨files, hnodup, hfiles, horphans, ?_⟩
  rw [orphanLocations, horphans, List.filterMap_map, ← List.filterMap_eq_map]
  refine List.filterMap_congr fun names hnames => ?_
  exact ((hfiles names).mp hnames).entryAt?_join ht hdir

/-- Orphans are below the directory at the names of stale files. -/
theorem mem_orphanLocations_iff (ht : t.WellFormed) {l : Location} :
    l ∈ t.orphanLocations base extension expected ↔ ∃ d names, t.directory? base = some d ∧
      l = d ++ names ∧ t.IsStale base extension expected names := by
  cases hdir : t.directory? base with
  | none => simp [orphanLocations, orphans_of_eq_none hdir]
  | some d =>
      obtain ⟨files, -, hfiles, -, hlocations⟩ :=
        exists_map_orphanLocations ht extension expected hdir
      rw [hlocations, List.mem_map]
      simp only [hfiles]
      refine ⟨fun h => ?_, fun h => ?_⟩
      · obtain ⟨names, hstale, rfl⟩ := h
        exact ⟨d, names, rfl, rfl, hstale⟩
      · obtain ⟨d', names, heq, rfl, hstale⟩ := h
        obtain rfl := Option.some.inj heq
        exact ⟨names, hstale, rfl⟩

theorem append_mem_orphanLocations_iff (ht : t.WellFormed) {d : Location}
    (hdir : t.directory? base = some d) {names : List Name} :
    d ++ names ∈ t.orphanLocations base extension expected ↔
      t.IsStale base extension expected names := by
  rw [mem_orphanLocations_iff ht]
  refine ⟨fun h => ?_, fun h => ⟨d, names, hdir, rfl, h⟩⟩
  obtain ⟨d', names', hdir', heq, hstale⟩ := h
  obtain rfl := Option.some.inj (hdir.symm.trans hdir')
  rwa [List.append_cancel_left heq]

/-- At the location of an orphan is a generated file with the extension. -/
theorem exists_of_mem_orphanLocations (ht : t.WellFormed) {l : Location}
    (h : l ∈ t.orphanLocations base extension expected) :
    ∃ bytes name, t.get? l = some (.file bytes) ∧ CarriesMarker bytes ∧
      l.getLast? = some name ∧ Path.HasExtension name extension := by
  obtain ⟨d, names, hdir, rfl, hstale⟩ := (mem_orphanLocations_iff ht).mp h
  obtain ⟨bytes, hfound, ⟨name, hname, hext⟩, -, hmarker, -⟩ :=
    (isStale_iff_of_directory? hdir).mp hstale
  refine ⟨bytes, name, hfound.file, hmarker, ?_, hext⟩
  rw [List.getLast?_append_of_ne_nil _ hfound.ne_nil, hname]

/-- The tree without the orphans below a directory. -/
def withoutOrphans (t : FileTree) (base extension : String) (expected : List String) : FileTree :=
  t.removeAll (t.orphanLocations base extension expected)

theorem get?_withoutOrphans (ht : t.WellFormed) (l : Location) :
    (t.withoutOrphans base extension expected).get? l =
      if l ∈ t.orphanLocations base extension expected then none else t.get? l := by
  refine get?_removeAll l _ t fun k hk hroot => ?_
  obtain ⟨bytes, -, hfile, -⟩ := exists_of_mem_orphanLocations ht hk
  rw [hroot] at hfile
  cases hfile

/-- What is no generated file with the extension stays. -/
theorem get?_withoutOrphans_of_other (ht : t.WellFormed) {l : Location}
    (h : ∀ bytes name, t.get? l = some (.file bytes) → CarriesMarker bytes →
      l.getLast? = some name → ¬ Path.HasExtension name extension) :
    (t.withoutOrphans base extension expected).get? l = t.get? l := by
  rw [get?_withoutOrphans ht, if_neg]
  intro hl
  obtain ⟨bytes, name, hfile, hmarker, hname, hext⟩ := exists_of_mem_orphanLocations ht hl
  exact h bytes name hfile hmarker hname hext

theorem keeps_withoutOrphans (ht : t.WellFormed) :
    Keeps t (t.withoutOrphans base extension expected) where
  workingDirectory := workingDirectory_removeAll _ t
  directory l hl := by
    rw [get?_withoutOrphans_of_other ht, hl]
    intro bytes name hfile
    rw [hl] at hfile
    cases hfile
  link l target hl := by
    rw [get?_withoutOrphans_of_other ht, hl]
    intro bytes name hfile
    rw [hl] at hfile
    cases hfile

theorem WellFormed.withoutOrphans (ht : t.WellFormed) :
    (t.withoutOrphans base extension expected).WellFormed := by
  refine WellFormed.removeAll _ ht fun k hk hdir => ?_
  obtain ⟨bytes, -, hfile, -⟩ := exists_of_mem_orphanLocations ht hk
  rw [hdir] at hfile
  cases hfile

end WithoutOrphans
end FileTree

/-- **Cleaning** removes the orphans and lists their paths. -/
theorem Filing.runOn_clean {t : FileTree} (ht : t.WellFormed) (base extension : String)
    (expected : List String) :
    (Filing.clean base extension expected false).runOn t =
      (.ok ((t.orphans base extension expected).map (·.path)),
        t.withoutOrphans base extension expected) := by
  have hremoved :
      ((t.orphans base extension expected).forM fun o => removeFile o.fullPath).runOn t =
        (.ok (), t.withoutOrphans base extension expected) := by
    cases hdir : t.directory? base with
    | none =>
        have hnone : t.orphans base extension expected = [] := orphans_of_eq_none hdir
        rw [withoutOrphans, orphanLocations, hnone]
        rfl
    | some d =>
        obtain ⟨files, hnodup, hfiles, horphans, hlocations⟩ :=
          exists_map_orphanLocations ht extension expected hdir
        rw [withoutOrphans, hlocations, horphans, List.forM_eq_forM, List.forM_map]
        refine runOn_removeFiles _ _ files (hnodup.map (List.append_right_injective d))
          fun names hnames => ?_
        have hstale := (hfiles names).mp hnames
        obtain ⟨bytes, hfound, -⟩ := (isStale_iff_of_directory? hdir).mp hstale
        exact ⟨hstale.entryAt?_join ht hdir, bytes, hfound.file⟩
  simp only [clean, Effect.runOn_bind, Effect.runOn_get, Bool.false_eq_true, if_false, hremoved]
  rfl

/-! ### Builders as orphans -/

theorem Language.hasExtension_fileName {language : Language} {name : String}
    (h : isIdentifier name = true) :
    Path.HasExtension (language.fileName name language.extension) language.extension := by
  refine ⟨(isName_fileName h).1.2, by cases language <;> decide, language.fileStem name, ?_, rfl⟩
  have hmem : 'u' ∈ (language.fileStem name).toList := by cases language <;> simp [fileStem]
  intro hempty
  rw [hempty] at hmem
  simp at hmem

namespace Record.IsSound

variable {language : Language} {r : Record} (hr : r.IsSound)
  (hpackage : ∀ segment ∈ r.packageSegments language, isIdentifier segment = true)
  {t : FileTree} (ht : t.WellFormed) {d : Location}
include hr hpackage ht

/-- A builder below a directory is found if none of the directories it is in is for build
output. -/
theorem found_builder_iff {bytes : ByteArray}
    (hfile : t.get? (d ++ Path.pieces (r.builderPath language)) = some (.file bytes)) :
    t.Found d (Path.pieces (r.builderPath language)) bytes ↔
      "target" ∉ r.packageSegments language := by
  rw [(hr.pieces_builderPath language).1] at hfile ⊢
  refine ⟨fun h hmem => ?_, fun h => ⟨by simp, hfile, ?_⟩⟩
  · have hname : Name.text "target" ∈ (r.packageSegments language).map .text :=
      List.mem_map_of_mem hmem
    obtain ⟨before, after, hsplit⟩ := List.append_of_mem hname
    have hsearched := (h.searched before (.text "target")
      (after ++ [.text (language.fileName r.name language.extension)]) (by simp [hsplit])
      (by simp)).2
    exact hsearched.1 rfl
  · intro before name after hsplit hafter
    obtain ⟨last, file, rfl⟩ := (List.eq_nil_or_concat after).resolve_left hafter
    rw [List.concat_eq_append, ← List.cons_append, ← List.append_assoc] at hsplit
    have hsegments := (List.append_inj' hsplit rfl).1
    obtain ⟨segment, hmem, rfl⟩ : ∃ segment ∈ r.packageSegments language, .text segment = name :=
      List.mem_map.mp (by simp [hsegments])
    refine ⟨?_, fun heq => h (heq ▸ hmem), fun hhidden => ?_⟩
    · have hbelow : t.get? (d ++ before ++ [.text segment] ++ (last ++ [file])) =
          some (.file bytes) := by
        rw [hsplit] at hfile
        simpa using hfile
      exact ht.directory_of_append (by simp) hbelow
    · -- identifiers hold no dots
      obtain ⟨cs, hcs⟩ := hhidden
      have hdot : '.' ∈ segment.toList := by
        rw [show segment.toList = ['.'] ++ cs from hcs.symm]
        simp
      exact Text.not_mem_of_isIdentifier (hpackage segment hmem) (by decide) hdot

/-- A builder that was generated is stale if it is not expected, unless it is in a directory for
build output. -/
theorem isStale_iff {output : String} (hdirectory : t.directory? output = some d) (stamp : Stamp)
    (husable : Path.isUsable (Path.join output (r.builderPath language)) = true)
    (hfile : t.get? (d ++ Path.pieces (r.builderPath language)) =
      some (.file (r.builderText language stamp).toUTF8)) (expected : List String) :
    t.IsStale output language.extension expected (Path.pieces (r.builderPath language)) ↔
      r.builderPath language ∉ expected ∧ "target" ∉ r.packageSegments language := by
  rw [← hr.found_builder_iff hpackage ht hfile, isStale_iff_of_directory? hdirectory]
  refine ⟨fun h => ?_, fun h => ?_⟩
  · obtain ⟨bytes, hfound, -, hnew, -⟩ := h
    rw [RawPath.shownNames_pieces] at hnew
    obtain rfl : bytes = (r.builderText language stamp).toUTF8 :=
      Entry.file.inj (Option.some.inj (hfound.file.symm.trans hfile))
    exact ⟨hnew, hfound⟩
  · refine ⟨_, h.2, ⟨_, ?_, Language.hasExtension_fileName hr.name⟩, ?_,
      r.carriesMarker_builderText language stamp, ?_⟩
    · rw [(hr.pieces_builderPath language).1, List.getLast?_concat]
    · rw [RawPath.shownNames_pieces]
      exact h.1
    · rw [RawPath.join_pieces, RawPath.isUsable_ofText]
      exact husable

end Record.IsSound

/-! ### Generating, then cleaning -/

namespace Manifest

/-- A builder is kept when the output directory is cleaned for a manifest: it is also one of
that manifest, or it is in a directory for build output. -/
def Keeps (m : Manifest) (r : Record) : Prop :=
  (∃ r' ∈ Round.lowerManifest m,
    r'.builderPath m.project.language = r.builderPath m.project.language) ∨
    "target" ∈ r.packageSegments m.project.language

/-- What becomes of the builders of one manifest when the output directory is cleaned for
another one. -/
structure CleanedFor (a b : Manifest) (stamp : Stamp) (output : String) (t t' : FileTree) :
    Prop where
  /-- Builders that are kept are there with their text, and no others are; -/
  kept : ∀ r ∈ Round.lowerManifest a,
    t'.readText? (Path.join output (r.builderPath a.project.language)) =
      some (r.builderText a.project.language stamp) ↔ b.Keeps r
  /-- nothing is where the others were; -/
  gone : ∀ r ∈ Round.lowerManifest a, ¬ b.Keeps r →
    t'.holds (Path.join output (r.builderPath a.project.language)) = false
  /-- everything is as before that is no generated file with the extension. -/
  other : ∀ l, (∀ bytes name, t.get? l = some (.file bytes) → CarriesMarker bytes →
      l.getLast? = some name → ¬ Path.HasExtension name a.project.language.extension) →
    t'.get? l = t.get? l

section Generated

variable {a b : Manifest} {stamp : Stamp} {output : String} {t t' : FileTree}
  {generation : Generation} {path : String} (ha : a.Conforms)
  (hvalid : (a.verdict path).isValid = true) (ht : t.WellFormed) (houtput : output ≠ "")
  (hlinks : ∀ d, (t.makeDirectories output).2 = some d → t.NoLinksBelow d)
  (hrun : (a.generate stamp { output }).runOn t = (.ok generation, t'))

include hvalid hrun in
theorem exists_runOn_generator :
    ∃ paths, (a.generator.generate stamp output).runOn t = (.ok paths, t') := by
  rw [runOn_generate hvalid] at hrun
  rcases hgenerate : (a.generator.generate stamp output).runOn t with ⟨failure | paths, t1⟩
  · simp [hgenerate] at hrun
  · simp only [hgenerate, Bool.false_eq_true, if_false, Prod.mk.injEq] at hrun
    exact ⟨paths, by rw [hrun.2]⟩

include ha hvalid ht houtput hlinks hrun

/-- The tree is well-formed afterwards, also if there was nothing to generate. -/
theorem wellFormed_of_generate : t'.WellFormed := by
  obtain ⟨paths, hgenerate⟩ := exists_runOn_generator hvalid hrun
  by_cases hrecords : a.generator.records = []
  · obtain ⟨-, -, hall⟩ := Generator.writeAll_of_generate hgenerate
    rw [Generator.files, hrecords] at hall
    cases hall
    exact ht
  · obtain ⟨_, _, hfilled, -⟩ := Generator.filled_of_generate
      (fun r hr => Round.isSound_of_mem_lowerManifest ha hr) hrecords ht houtput hlinks hgenerate
    exact hfilled.wellFormed

/-- Builders that were generated are there until the output directory is cleaned. -/
theorem exists_of_generate {r : Record} (hr : r ∈ Round.lowerManifest a) :
    ∃ left d, t'.WellFormed ∧ t'.LeadsTo output left d ∧ t'.directory? output = some d ∧
      Path.isUsable (Path.join output (r.builderPath a.project.language)) = true ∧
      t'.get? (d ++ Path.pieces (r.builderPath a.project.language)) =
        some (.file (r.builderText a.project.language stamp).toUTF8) := by
  obtain ⟨paths, hgenerate⟩ := exists_runOn_generator hvalid hrun
  have hsound : ∀ r ∈ a.generator.records, r.IsSound :=
    fun r hr => Round.isSound_of_mem_lowerManifest ha hr
  have hmem : r.builderFile a.project.language stamp ∈ a.generator.files stamp :=
    List.mem_map_of_mem hr
  obtain ⟨left, d, hfilled, hout, -, husable⟩ := Generator.filled_of_generate hsound
    (List.ne_nil_of_mem hr) ht houtput hlinks hgenerate
  have husable' : Path.isUsable (Path.join output (r.builderPath a.project.language)) = true := by
    have h := husable _ hmem
    rwa [Record.builderFile] at h
  have hfile : t'.get? (d ++ Path.pieces (r.builderPath a.project.language)) =
      some (.file (r.builderText a.project.language stamp).toUTF8) := by
    have h := hfilled.file _ hmem
    rwa [Record.builderFile] at h
  have habs : Path.isAbsolute (r.builderPath a.project.language) = false :=
    Path.isAbsolute_of_isName ((hsound r hr).pieces_builderPath a.project.language).2
  have houtput' : (output : RawPath).isUsable = true := by
    rw [RawPath.isUsable_ofText]
    exact Path.isUsable_of_join houtput habs husable'
  exact ⟨left, d, hfilled.wellFormed, hout,
    (directory?_eq_some_iff hfilled.wellFormed).mpr ⟨houtput', left, hout⟩, husable', hfile⟩

/-- What becomes of a single builder. -/
theorem builder_withoutOrphans (hlanguage : b.project.language = a.project.language) {r : Record}
    (hr : r ∈ Round.lowerManifest a) :
    let cleaned := t'.withoutOrphans output a.project.language.extension b.generator.paths
    b.Keeps r ∧ cleaned.readText? (Path.join output (r.builderPath a.project.language)) =
        some (r.builderText a.project.language stamp) ∨
      ¬ b.Keeps r ∧ cleaned.holds (Path.join output (r.builderPath a.project.language)) = false := by
  intro cleaned
  obtain ⟨left, d, ht', hout, hdirectory, husable, hfile⟩ :=
    exists_of_generate ha hvalid ht houtput hlinks hrun hr
  have hsound := Round.isSound_of_mem_lowerManifest ha hr
  obtain ⟨hpieces, hnames⟩ := hsound.pieces_builderPath a.project.language
  have hrelative : Path.IsRelative (r.builderPath a.project.language)
      ((r.packageSegments a.project.language).map .text)
      (.text (a.project.language.fileName r.name a.project.language.extension)) :=
    ⟨hpieces, by rwa [← hpieces]⟩
  have hkeeps : b.Keeps r ↔ ¬ (r.builderPath a.project.language ∉ b.generator.paths ∧
      "target" ∉ r.packageSegments a.project.language) := by
    rw [Keeps, hlanguage, not_and_or, not_not, not_not, Generator.paths, List.mem_map, generator,
      hlanguage]
  have hstale := hsound.isStale_iff
    (fun segment => Round.isIdentifier_of_mem_packageSegments ha hr) ht' hdirectory stamp husable
    hfile b.generator.paths
  rw [← append_mem_orphanLocations_iff ht' hdirectory] at hstale
  have hkept : FileTree.Keeps t' cleaned := keeps_withoutOrphans ht'
  have hout' : cleaned.LeadsTo output left d := hout.of_keeps hkept
  have hafter : cleaned.get? (d ++ Path.pieces (r.builderPath a.project.language)) = _ :=
    get?_withoutOrphans ht' _
  by_cases hgone : r.builderPath a.project.language ∉ b.generator.paths ∧
      "target" ∉ r.packageSegments a.project.language
  · -- the file is removed, and its directory stays
    rw [if_pos (hstale.mpr hgone)] at hafter
    have hdir : t'.get? (d ++ (r.packageSegments a.project.language).map .text) =
        some .directory := by
      rw [hpieces, ← List.append_assoc] at hfile
      exact ht'.directory hfile
    exact Or.inr ⟨fun h => hkeeps.mp h hgone, hout'.holds_join_eq_false ht'.withoutOrphans hrelative
      (hkept.directory _ hdir) hafter⟩
  · rw [if_neg fun hmem => hgone (hstale.mp hmem), hfile] at hafter
    exact Or.inl ⟨hkeeps.mpr hgone, hout'.readText?_join ht'.withoutOrphans husable hafter⟩

end Generated

theorem holds_of_readText? {t : FileTree} {path text : String} (h : t.readText? path = some text) :
    t.holds path = true := by
  rw [readText?] at h
  split at h
  next hfind => rw [holds, hfind]; rfl
  next => cases h

/-- Cleaning for a valid manifest succeeds and removes its orphans. -/
theorem exists_clean {m : Manifest} {path : String} (hvalid : (m.verdict path).isValid = true)
    (output : String) {t : FileTree} (ht : t.WellFormed) :
    ∃ cleaning, (m.clean output false).runOn t = (.ok cleaning,
      t.withoutOrphans output m.project.language.extension m.generator.paths) := by
  have hclean : (m.generator.clean output false).runOn t = _ := Filing.runOn_clean ht output _ _
  exact ⟨_, by rw [runOn_clean hvalid, hclean]; rfl⟩

/-- Cleaning right after generating. -/
theorem cleanedFor_of_generate {a b : Manifest} {stamp : Stamp} {output path : String}
    {t t' : FileTree} {generation : Generation} (ha : a.Conforms)
    (hvalid : (a.verdict path).isValid = true) (ht : t.WellFormed) (houtput : output ≠ "")
    (hlinks : ∀ d, (t.makeDirectories output).2 = some d → t.NoLinksBelow d)
    (hrun : (a.generate stamp { output }).runOn t = (.ok generation, t'))
    (hlanguage : b.project.language = a.project.language) :
    CleanedFor a b stamp output t'
      (t'.withoutOrphans output a.project.language.extension b.generator.paths) where
  kept r hr := by
    rcases builder_withoutOrphans ha hvalid ht houtput hlinks hrun hlanguage hr with
      ⟨hkeeps, hread⟩ | ⟨hgone, hholds⟩
    · exact iff_of_true hread hkeeps
    · refine iff_of_false (fun hread => ?_) hgone
      rw [holds_of_readText? hread] at hholds
      cases hholds
  gone r hr hgone :=
    (builder_withoutOrphans ha hvalid ht houtput hlinks hrun hlanguage hr).elim
      (fun h => absurd h.1 hgone) And.right
  other _ hl := get?_withoutOrphans_of_other
    (wellFormed_of_generate ha hvalid ht houtput hlinks hrun) hl

/-- **Generate, then clean.** After the builders of `a` were generated into an output directory
without links, cleaning it for `b` keeps exactly those that are also builders of `b` or are in
a directory for build output, and all files that are not generated or have another extension.
Cleaning it for `a` itself keeps all of them.

An empty path names no directory that could be cleaned, and is refused on the command line. -/
theorem clean_after_generate {text pathA pathB output : String} {a b : Manifest}
    {stamp : Stamp} {t t' : FileTree} {generation : Generation}
    (ha : Manifest.parse text = .ok a) (hlanguage : b.project.language = a.project.language)
    (hvalidA : (a.verdict pathA).isValid = true) (hvalidB : (b.verdict pathB).isValid = true)
    (ht : t.WellFormed) (houtput : output ≠ "")
    (hlinks : ∀ d, (t.makeDirectories output).2 = some d → t.NoLinksBelow d)
    (hrun : (a.generate stamp { output }).runOn t = (.ok generation, t')) :
    (∃ cleaning t'', (b.clean output false).runOn t' = (.ok cleaning, t'') ∧
      CleanedFor a b stamp output t' t'') ∧
    ∃ cleaning t'', (a.clean output false).runOn t' = (.ok cleaning, t'') ∧
      ∀ r ∈ Round.lowerManifest a,
        t''.readText? (Path.join output (r.builderPath a.project.language)) =
          some (r.builderText a.project.language stamp) := by
  have hconforms := violation?_eq_none_iff.mp (parse_eq_ok_iff.mp ha).2
  have ht' := wellFormed_of_generate hconforms hvalidA ht houtput hlinks hrun
  refine ⟨?_, ?_⟩
  · obtain ⟨cleaning, hclean⟩ := exists_clean hvalidB output ht'
    rw [hlanguage] at hclean
    exact ⟨cleaning, _, hclean,
      cleanedFor_of_generate hconforms hvalidA ht houtput hlinks hrun hlanguage⟩
  · obtain ⟨cleaning, hclean⟩ := exists_clean hvalidA output ht'
    have hcleaned := cleanedFor_of_generate hconforms hvalidA ht houtput hlinks hrun
      (rfl : a.project.language = a.project.language)
    exact ⟨cleaning, _, hclean, fun r hr => (hcleaned.kept r hr).mpr (Or.inl ⟨r, hr, rfl⟩)⟩

/-- The manifest of a record without components. -/
def withKey : Manifest where
  project := { name := "p" }
  types := [("Key", { builder := true })]

set_option maxRecDepth 100000 in
theorem parse_withKey :
    parse "[project]\nname = \"p\"\n[types.Key]\nbuilder = true\n" = .ok withKey := by
  rfl

/-- The manifest after the record has been dropped. -/
def withoutKey : Manifest where
  project := { name := "p" }

set_option maxRecDepth 100000 in
/-- The builder of a record is there after generating, and gone when its record is. -/
theorem withoutKey_clean : ∃ generation t' cleaning t'',
    (withKey.generate ⟨2024, 5, 1, 12, 0, 0, 0⟩ { output := "out" }).runOn {} =
      (.ok generation, t') ∧
    (withoutKey.clean "out" false).runOn t' = (.ok cleaning, t'') ∧
    t''.holds "out/KeyBuilder.java" = false := by
  have hlinks : ∀ d, (({} : FileTree).makeDirectories "out").2 = some d →
      ({} : FileTree).NoLinksBelow d := by
    intro d _ names target hl
    simp [FileTree.get?] at hl
  have hok : ((withKey.generate ⟨2024, 5, 1, 12, 0, 0, 0⟩ { output := "out" }).runOn {}).1.isOk =
      true := by
    decide +kernel
  rcases hrun : (withKey.generate ⟨2024, 5, 1, 12, 0, 0, 0⟩ { output := "out" }).runOn {} with
    ⟨failure | generation, t'⟩
  · rw [hrun] at hok
    cases hok
  · obtain ⟨⟨cleaning, t'', hclean, hcleaned⟩, -⟩ := clean_after_generate parse_withKey
      (show withoutKey.project.language = withKey.project.language from rfl)
      (show (withKey.verdict "rebar.toml").isValid = true by rfl)
      (show (withoutKey.verdict "rebar.toml").isValid = true by rfl) wellFormed_empty (by decide)
      hlinks hrun
    have hgone : ¬ withoutKey.Keeps (Round.lowerRecord "Key" { builder := true }) := by
      intro hkeeps
      rcases hkeeps with ⟨r', hr', -⟩ | htarget
      · cases hr'
      · rw [Record.packageSegments_of_empty rfl] at htarget
        cases htarget
    have hholds := hcleaned.gone _ (by decide) hgone
    have hpath : Path.join "out" ((Round.lowerRecord "Key" { builder := true }).builderPath
        withKey.project.language) = "out/KeyBuilder.java" := by
      decide +kernel
    rw [hpath] at hholds
    exact ⟨generation, t', cleaning, t'', rfl, hclean, hholds⟩

end Manifest
end BuilderGen
