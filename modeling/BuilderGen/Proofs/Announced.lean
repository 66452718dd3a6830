import BuilderGen.Proofs.Filling
import BuilderGen.Proofs.Manifest.Declared
import BuilderGen.Proofs.Manifest.Valid

/-!
# BuilderGen.Proofs.Announced

**What is announced is generated** (`Manifest.generate_announced`). A verdict counts the
builders of a valid manifest and a preview shows them; generating into an empty directory
leaves just these, unless two of them have the same path. Then nothing is written.

Verdicts and previews look at no paths. That paths can be the same is due to file names that
fold case (`Record.IsSound.builderPath_eq_iff`), so classes, whose file names do not, have
different ones (`Manifest.nodup_paths_of_java`). One more thing could keep a builder from
being written: a directory where the file of another builder is. File names hold a dot, and
names of directories do not, as long as packages are split where they should be
(`Manifest.eq_of_pieces_isPrefix`).
-/

namespace BuilderGen

open FileTree
open Text (isIdentifier)

/-! ### The paths of builders -/

theorem Language.fileStem_java_inj {name name' : String}
    (h : Language.java.fileStem name = Language.java.fileStem name') : name = name' := by
  rw [fileStem, fileStem, ← String.toList_inj, String.toList_append, String.toList_append] at h
  exact String.toList_inj.mp (List.append_cancel_right h)

theorem Language.fileStem_of_fileName {language : Language} {name name' extension : String}
    (h : language.fileName name extension = language.fileName name' extension) :
    language.fileStem name = language.fileStem name' := by
  rw [fileName, fileName, ← String.toList_inj] at h
  simp only [String.toList_append] at h
  exact String.toList_inj.mp (List.append_cancel_right (List.append_cancel_right h))

/-- A file name holds a dot. -/
theorem Language.mem_dot_fileName (language : Language) (name extension : String) :
    '.' ∈ (language.fileName name extension).toList := by
  simp [fileName]

namespace Record.IsSound

variable {r r' : Record} (hr : r.IsSound) (hr' : r'.IsSound) {language : Language}
include hr hr'

/-- Builders have the same path if they are in the same directory and their file names come
out the same. -/
theorem builderPath_eq_iff : r.builderPath language = r'.builderPath language ↔
    r.packageSegments language = r'.packageSegments language ∧
      language.fileStem r.name = language.fileStem r'.name := by
  refine ⟨fun h => ?_, fun h => ?_⟩
  · have hpieces := congrArg Path.pieces h
    rw [(hr.pieces_builderPath language).1, (hr'.pieces_builderPath language).1] at hpieces
    obtain ⟨hsegments, hnames⟩ := List.append_inj' hpieces rfl
    exact ⟨(List.map_inj_right fun _ _ => Name.text.inj).mp hsegments,
      Language.fileStem_of_fileName (Name.text.inj (List.cons.inj hnames).1)⟩
  · rw [builderPath, builderPath, Language.fileName, Language.fileName, h.1, h.2]

/-- The path of a builder does not lead through that of another one whose directories have no
dots in their names. -/
theorem builderPath_eq_of_isPrefix
    (hdots : ∀ segment ∈ r'.packageSegments language, '.' ∉ segment.toList)
    (h : Path.pieces (r.builderPath language) <+: Path.pieces (r'.builderPath language)) :
    r.builderPath language = r'.builderPath language := by
  have hmem : .text (language.fileName r.name language.extension) ∈
      Path.pieces (r.builderPath language) := by
    rw [(hr.pieces_builderPath language).1]
    simp
  rw [(hr'.pieces_builderPath language).1, List.prefix_concat_iff] at h
  rcases h with heq | hway
  · rw [← (hr'.pieces_builderPath language).1] at heq
    exact Path.pieces_inj.mp heq
  · obtain ⟨segment, hsegment, heq⟩ := List.mem_map.mp (hway.subset hmem)
    have hdot := language.mem_dot_fileName r.name language.extension
    rw [← Name.text.inj heq] at hdot
    exact absurd hdot (hdots _ hsegment)

end Record.IsSound

/-- Packages of classes are split at their dots. -/
theorem Record.not_mem_dot_of_java {r : Record} {segment : String}
    (h : segment ∈ r.packageSegments .java) : '.' ∉ segment.toList := by
  rw [packageSegments, List.mem_filter] at h
  have hdot : Language.java.separator.toList = ['.'] := by simp [Language.separator]
  exact Text.not_mem_of_mem_segments hdot h.1

namespace Manifest

/-- The path of the builder of a declared type. -/
def builderPath (m : Manifest) (t : String × TypeDecl) : String :=
  (Round.lowerRecord t.1 t.2).builderPath m.project.language

theorem paths_generator (m : Manifest) : m.generator.paths = m.buildable.map m.builderPath := by
  simp only [Generator.paths, generator, Round.lowerManifest_eq, List.map_map, Function.comp_def]
  exact List.map_congr_left fun _ _ => rfl

/-- There are as many builders as the verdict announces. -/
theorem length_files_generator (m : Manifest) (stamp : Stamp) (path : String) :
    (m.generator.files stamp).length = (m.verdict path).buildable := by
  rw [Generator.files, generator, Round.lowerManifest_eq, List.length_map, List.length_map]
  rfl

section Paths

variable {m : Manifest} (hm : m.Conforms) {language : Option Language}
include hm

theorem isSound_of_mem_records {r : Record} (hr : r ∈ (m.withLanguage language).generator.records) :
    r.IsSound := by
  refine Round.isSound_of_mem_lowerManifest hm ?_
  rw [generator, Round.lowerManifest_eq, buildable_withLanguage] at hr
  rwa [Round.lowerManifest_eq]

/-- The builders of classes have different paths. -/
theorem nodup_paths_of_java (htypes : (m.types.map Prod.fst).Nodup)
    (hjava : (m.withLanguage language).project.language = .java) :
    (m.withLanguage language).generator.paths.Nodup := by
  have hnames : (m.buildable.map Prod.fst).Nodup :=
    htypes.sublist (List.filter_sublist.map _)
  rw [paths_generator, buildable_withLanguage, List.Nodup, List.pairwise_map]
  rw [List.Nodup, List.pairwise_map] at hnames
  refine hnames.imp_of_mem fun {type type'} htype htype' hne heq => hne ?_
  rw [builderPath, builderPath, hjava] at heq
  have hsound := Round.isSound_lowerRecord (hm.of_mem_buildable htype)
  have hsound' := Round.isSound_lowerRecord (hm.of_mem_buildable htype')
  exact Language.fileStem_java_inj ((hsound.builderPath_eq_iff hsound').mp heq).2

/-- No path leads through another one, except when packages of classes are not split. -/
theorem eq_of_pieces_isPrefix
    (hsplit : ¬ (m.project.language = .java ∧ language = some .rust)) {p q : String}
    (hp : p ∈ (m.withLanguage language).generator.paths)
    (hq : q ∈ (m.withLanguage language).generator.paths)
    (h : Path.pieces p <+: Path.pieces q) : p = q := by
  obtain ⟨r, hr, rfl⟩ := List.mem_map.mp hp
  obtain ⟨r', hr', rfl⟩ := List.mem_map.mp hq
  refine (isSound_of_mem_records hm hr).builderPath_eq_of_isPrefix (isSound_of_mem_records hm hr')
    (fun segment hsegment => ?_) h
  have hown : (m.withLanguage language).generator.language = .java ∨
      (m.withLanguage language).generator.language = m.project.language := by
    rcases language with _ | _ | _
    · exact Or.inr rfl
    · exact Or.inl rfl
    · exact Or.inr (by cases hjava : m.project.language <;> simp_all [withLanguage, generator])
  rcases hown with hjava | hown
  · rw [hjava] at hsegment
    exact Record.not_mem_dot_of_java hsegment
  · rw [hown] at hsegment
    rw [generator, Round.lowerManifest_eq, buildable_withLanguage, ← Round.lowerManifest_eq] at hr'
    exact Text.not_mem_of_isIdentifier
      (Round.isIdentifier_of_mem_packageSegments hm hr' hsegment) (by decide)

end Paths
end Manifest

/-! ### Generating into an empty directory -/

/-- Below a location are some files, the directories they are in, and nothing else. -/
structure FileTree.HoldsJust (t : FileTree) (d : Location) (files : List BuilderFile) : Prop where
  file : ∀ names bytes, t.get? (d ++ names) = some (.file bytes) ↔
    ∃ f ∈ files, names = Path.pieces f.path ∧ bytes = f.content.toUTF8
  directory : ∀ names, names ≠ [] → (t.get? (d ++ names) = some .directory ↔
    ∃ f ∈ files, names <+: Path.pieces f.path ∧ names ≠ Path.pieces f.path)
  noLinks : t.NoLinksBelow d

/-- Nothing stands below a directory. -/
structure FileTree.IsEmptyDirectory (t : FileTree) (d : Location) : Prop where
  directory : t.get? d = some .directory
  empty : ∀ names, names ≠ [] → t.get? (d ++ names) = none

namespace FileTree.IsEmptyDirectory

variable {t : FileTree} {d : Location} (h : t.IsEmptyDirectory d)
include h

/-- What stands at or below an empty directory is the directory. -/
theorem eq_nil {names : List Name} {entry : Entry} (hl : t.get? (d ++ names) = some entry) :
    names = [] ∧ entry = .directory := by
  by_cases hnames : names = []
  · rw [hnames, List.append_nil, h.directory] at hl
    exact ⟨hnames, (Option.some.inj hl).symm⟩
  · rw [h.empty names hnames] at hl
    cases hl

theorem noLinksBelow : t.NoLinksBelow d := by
  intro names target hl
  cases (h.eq_nil hl).2

/-- The way to a file is clear. -/
theorem clear (path : String) : t.Clear d (Path.pieces path) where
  way front hne _ _ := Or.inl (h.empty front hne)
  place := by
    rw [h.empty _ (Path.pieces_ne_nil path)]
    simp

end FileTree.IsEmptyDirectory

namespace Filled

variable {d : Location} {files : List BuilderFile} {t t' : FileTree} (h : Filled d files t t')
include h

/-- What stands where after files have been written. -/
theorem get?_cases (l : Location) :
    (∃ f ∈ files, l = d ++ Path.pieces f.path) ∨ t'.get? l = t.get? l ∨
      t'.get? l = some .directory ∧ ∃ f ∈ files, ∃ names, names ≠ [] ∧ l = d ++ names ∧
        names <+: Path.pieces f.path ∧ names ≠ Path.pieces f.path := by
  by_cases hl : l ∈ files.map fun f => d ++ Path.pieces f.path
  · obtain ⟨f, hf, heq⟩ := List.mem_map.mp hl
    exact Or.inl ⟨f, hf, heq.symm⟩
  · rcases h.changes.other l hl with heq | ⟨hway, -, hdir⟩
    · exact Or.inr (Or.inl heq)
    · obtain ⟨f, hf, hmem⟩ := List.mem_flatMap.mp hway
      obtain ⟨names, hne, hprefix, hproper, heq⟩ :=
        (mem_wayBelow_iff (Path.pieces_ne_nil f.path)).mp hmem
      exact Or.inr (Or.inr ⟨hdir, f, hf, names, hne, heq, hprefix, hproper⟩)

/-- Nothing changes elsewhere. -/
theorem get?_of_not_isPrefix {l : Location} (hl : ¬ d <+: l) : t'.get? l = t.get? l := by
  rcases h.get?_cases l with ⟨f, -, rfl⟩ | heq | ⟨-, f, -, names, -, rfl, -⟩
  · exact absurd (List.prefix_append _ _) hl
  · exact heq
  · exact absurd (List.prefix_append _ _) hl

/-- A directory that was empty holds just the files. -/
theorem holdsJust (hd : t.IsEmptyDirectory d) : t'.HoldsJust d files where
  file names bytes := by
    refine ⟨fun hfile => ?_, fun hmem => ?_⟩
    · rcases h.get?_cases (d ++ names) with ⟨f, hf, heq⟩ | heq | ⟨hdir, -⟩
      · refine ⟨f, hf, List.append_cancel_left heq, ?_⟩
        rw [heq, h.file f hf] at hfile
        exact (Entry.file.inj (Option.some.inj hfile)).symm
      · rw [hfile] at heq
        cases (hd.eq_nil heq.symm).2
      · rw [hfile] at hdir
        cases hdir
    · obtain ⟨f, hf, rfl, rfl⟩ := hmem
      exact h.file f hf
  directory names hnames := by
    refine ⟨fun hdir => ?_, fun hmem => ?_⟩
    · rcases h.get?_cases (d ++ names) with ⟨f, hf, heq⟩ | heq | ⟨-, f, hf, names', -, heq, hway⟩
      · rw [heq, h.file f hf] at hdir
        cases hdir
      · rw [hdir] at heq
        exact absurd (hd.eq_nil heq.symm).1 hnames
      · obtain rfl := List.append_cancel_left heq
        exact ⟨f, hf, hway⟩
    · obtain ⟨f, hf, ⟨rest, hrest⟩, hproper⟩ := hmem
      have hfile := h.file f hf
      rw [← hrest, ← List.append_assoc] at hfile
      refine h.wellFormed.directory_of_append (fun hnil => hproper ?_) hfile
      rw [← hrest, hnil, List.append_nil]
  noLinks := by
    intro names target hl
    rcases h.get?_cases (d ++ names) with ⟨f, hf, heq⟩ | heq | ⟨hdir, -⟩
    · rw [heq, h.file f hf] at hl
      cases hl
    · exact hd.noLinksBelow names target (heq ▸ hl)
    · rw [hl] at hdir
      cases hdir

end Filled

/-- Files have been put into a directory that was empty: it holds just these, each is read with
its content, and elsewhere everything is as before. -/
structure Delivered (output : String) (d : Location) (files : List BuilderFile) (t t' : FileTree) :
    Prop where
  just : t'.HoldsJust d files
  content : ∀ f ∈ files, t'.readText? (Path.join output f.path) = some f.content
  elsewhere : ∀ l, ¬ d <+: l → t'.get? l = t.get? l

/-- **Generating into an empty directory** delivers all builders if their paths fit, are different
and do not lead through one another. -/
theorem Generator.exists_delivered {g : Generator} (hg : ∀ r ∈ g.records, r.IsSound) {t : FileTree}
    (ht : t.WellFormed) {output : String} {left : Nat} {d : Location}
    (hout : t.LeadsTo output left d) (hd : t.IsEmptyDirectory d) (hnodup : g.paths.Nodup)
    (hthrough : ∀ p ∈ g.paths, ∀ q ∈ g.paths, Path.pieces p <+: Path.pieces q → p = q)
    (hfits : ∀ path ∈ g.paths, t.Fits output path) (stamp : Stamp) :
    ∃ t', (g.generate stamp output).runOn t = (.ok g.paths, t') ∧
      Delivered output d (g.files stamp) t t' := by
  have hmem : ∀ f ∈ g.files stamp, f.path ∈ g.paths := by
    intro f hf
    rw [← map_path_files g stamp]
    exact List.mem_map_of_mem hf
  have hapart : (g.files stamp).Pairwise Filing.Apart := by
    rw [← map_path_files g stamp, List.Nodup, List.pairwise_map] at hnodup
    refine hnodup.imp_of_mem fun {f f'} hf hf' hne => ⟨fun h => ?_, fun h => ?_⟩
    · exact hne (hthrough _ (hmem f hf) _ (hmem f' hf') h)
    · exact hne (hthrough _ (hmem f' hf') _ (hmem f hf) h).symm
  obtain ⟨t', hrun, hfilled, hout'⟩ := exists_generate hg ht hout hd.noLinksBelow hnodup hapart
    fun path hpath => ⟨hfits path hpath, hd.clear path⟩
  refine ⟨t', hrun, hfilled.holdsJust hd, fun f hf => ?_, fun l => hfilled.get?_of_not_isPrefix⟩
  exact hout'.readText?_join hfilled.wellFormed (hfits _ (hmem f hf)).usable (hfilled.file f hf)

/-! ### What is announced -/

namespace Manifest

/-- A manifest that is previewed is valid. -/
theorem isValid_of_preview {m : Manifest} {stamp : Stamp} {output : String} {t t' : FileTree}
    {preview : Generation}
    (h : (m.generate stamp { output, dryRun := true }).runOn t = (.ok preview, t'))
    (path : String) : (m.verdict path).isValid = true := by
  by_contra hinvalid
  rw [Bool.not_eq_true] at hinvalid
  rw [runOn_generate_of_invalid hinvalid] at h
  cases h

/-- **What is announced is generated.** A manifest, in its own language or in another one, that is
valid or can be previewed has as many builders as the verdict announces, and these are
previewed. Generating them into an empty directory that has room for them delivers just
these, if they have different paths; classes always have. Otherwise one of the paths is
reported, and nothing is written.

Where packages of classes are read as modules they are not split, and directories may have
names like files; then nothing is said of builders whose paths lead through one another. -/
theorem generate_announced {text : String} {m : Manifest} (hm : Manifest.parse text = .ok m)
    (language : Option Language) {path : String} (stamp : Stamp) {output : String} {t : FileTree}
    (hchecked : ((m.withLanguage language).verdict path).isValid = true ∨
      ∃ preview t', ((m.withLanguage language).generate stamp { output, dryRun := true }).runOn t =
        (.ok preview, t'))
    (ht : t.WellFormed) {d : Location} (houtput : t.directory? output = some d)
    (hempty : t.IsEmptyDirectory d)
    (hfits : ∀ p ∈ (m.withLanguage language).generator.paths, t.Fits output p) :
    let announced := m.withLanguage language
    let files := announced.generator.files stamp
    let paths := announced.generator.paths
    files.length = (announced.verdict path).buildable ∧
    (∃ preview, (announced.generate stamp { output, dryRun := true }).runOn t = (.ok preview, t) ∧
      preview.outcome = .preview files) ∧
    (announced.project.language = .java → paths.Nodup) ∧
    (paths.Nodup →
      (m.project.language = .java → language = some .rust →
        ∀ p ∈ paths, ∀ q ∈ paths, Path.pieces p <+: Path.pieces q → p = q) →
      ∃ generation t', (announced.generate stamp { output }).runOn t = (.ok generation, t') ∧
        generation.outcome = .written output paths none ∧ Delivered output d files t t') ∧
    (¬ paths.Nodup → ∃ p ∈ paths, (announced.generate stamp { output }).runOn t =
      (.error { undertakings := [.generation], cause := .collision p }, t)) := by
  intro announced files paths
  have hvalid : (announced.verdict path).isValid = true := by
    rcases hchecked with hvalid | ⟨preview, t', hpreview⟩
    · exact hvalid
    · exact isValid_of_preview hpreview path
  have hconforms := violation?_eq_none_iff.mp (parse_eq_ok_iff.mp hm).2
  have hrun := runOn_generate hvalid stamp output false t
  refine ⟨length_files_generator _ _ _, ?_, ?_, ?_, ?_⟩
  · exact ⟨_, runOn_generate hvalid stamp output true t, rfl⟩
  · exact nodup_paths_of_java hconforms (nodup_types_of_parse hm)
  · intro hnodup hway
    have hthrough : ∀ p ∈ paths, ∀ q ∈ paths, Path.pieces p <+: Path.pieces q → p = q := by
      intro p hp q hq h
      by_cases hsplit : m.project.language = .java ∧ language = some .rust
      · exact hway hsplit.1 hsplit.2 p hp q hq h
      · exact eq_of_pieces_isPrefix hconforms hsplit hp hq h
    obtain ⟨-, left, hout⟩ := (directory?_eq_some_iff ht).mp houtput
    obtain ⟨t', hgenerate, hdelivered⟩ := Generator.exists_delivered
      (fun r hr => isSound_of_mem_records hconforms hr) ht hout hempty hnodup hthrough hfits stamp
    rw [hgenerate] at hrun
    exact ⟨_, t', hrun, rfl, hdelivered⟩
  · intro hrepeated
    obtain ⟨p, hp, hfail⟩ := Generator.runOn_generate_of_not_nodup stamp output t hrepeated
    rw [hfail] at hrun
    exact ⟨p, hp, hrun⟩

/-! ### Two records with file names that come out the same -/

/-- An empty directory to generate into. -/
def emptyOut : FileTree := ({} : FileTree).put ["out"] .directory

theorem wellFormed_emptyOut : emptyOut.WellFormed :=
  wellFormed_empty.put (l := []) .directory (by simp [Path.IsName, Path.NoSlash, Path.isIdle]) rfl
    (by simp [get?])

theorem isEmptyDirectory_emptyOut : emptyOut.IsEmptyDirectory ["out"] where
  directory := by simp [emptyOut]
  empty names hnames := by
    have hother : [Name.text "out"] ++ names ≠ [.text "out"] := by simpa using hnames
    rw [emptyOut, get?_put _ _ _ (by simp), if_neg hother]
    simp [get?]

/-- Two records whose file names come out the same in snake case. -/
def clash : Manifest where
  project := { name := "clash", language := .rust }
  types := [("AB", { builder := true }), ("A_B", { builder := true })]

/-- The text of the manifest. -/
def clashText : String :=
  "[project]\nname = \"clash\"\nlanguage = \"rust\"\n[types.AB]\nbuilder = true\n" ++
    "[types.A_B]\nbuilder = true\n"

set_option maxRecDepth 100000 in
theorem parse_clashText : parse clashText = .ok clash := by rfl

/-- The two builders of the valid manifest are announced and previewed, but not generated. -/
theorem clash_refused : parse clashText = .ok clash ∧
    (clash.verdict "rebar.toml").isValid = true ∧ (clash.verdict "rebar.toml").buildable = 2 ∧
    emptyOut.IsEmptyDirectory ["out"] ∧
    (∃ preview files,
      (clash.generate ⟨2024, 5, 1, 12, 0, 0, 0⟩ { output := "out", dryRun := true }).runOn emptyOut =
        (.ok preview, emptyOut) ∧ preview.outcome = .preview files ∧ files.length = 2) ∧
    (clash.generate ⟨2024, 5, 1, 12, 0, 0, 0⟩ { output := "out" }).runOn emptyOut =
      (.error { undertakings := [.generation], cause := .collision "a_b_builder.rs" }, emptyOut) := by
  have hvalid : (clash.verdict "rebar.toml").isValid = true := by rfl
  refine ⟨parse_clashText, hvalid, rfl, isEmptyDirectory_emptyOut, ?_, ?_⟩
  · exact ⟨_, _, runOn_generate hvalid _ _ true _, rfl, rfl⟩
  · have hrepeated : Generator.repeated? [] clash.generator.paths = some "a_b_builder.rs" := by
      decide +kernel
    have hgenerate : (clash.generator.generate ⟨2024, 5, 1, 12, 0, 0, 0⟩ "out").runOn emptyOut =
        (.error { cause := .collision "a_b_builder.rs" }, emptyOut) := by
      rw [Generator.generate, hrepeated]
      rfl
    rw [runOn_generate hvalid _ _ false, hgenerate]
    rfl

/-- As classes the two are generated. -/
theorem clash_generate_java :
    ((clash.withLanguage (some .java)).verdict "rebar.toml").isValid = true ∧
    ∃ generation t',
      ((clash.withLanguage (some .java)).generate ⟨2024, 5, 1, 12, 0, 0, 0⟩
        { output := "out" }).runOn emptyOut = (.ok generation, t') ∧
      generation.outcome = .written "out" ["ABBuilder.java", "A_BBuilder.java"] none ∧
      Delivered "out" ["out"]
        ((clash.withLanguage (some .java)).generator.files ⟨2024, 5, 1, 12, 0, 0, 0⟩) emptyOut t' := by
  have hvalid : ((clash.withLanguage (some .java)).verdict "rebar.toml").isValid = true := by rfl
  have hpaths : (clash.withLanguage (some .java)).generator.paths =
      ["ABBuilder.java", "A_BBuilder.java"] := by
    decide +kernel
  have hfits : ∀ p ∈ (clash.withLanguage (some .java)).generator.paths, emptyOut.Fits "out" p := by
    rw [hpaths]
    intro p hp
    rcases List.mem_cons.mp hp with rfl | hp
    · exact ⟨by decide +kernel, by decide +kernel, by decide +kernel⟩
    · rw [List.mem_singleton.mp hp]
      exact ⟨by decide +kernel, by decide +kernel, by decide +kernel⟩
  obtain ⟨-, -, hnodup, hwritten, -⟩ := generate_announced parse_clashText (some .java)
    ⟨2024, 5, 1, 12, 0, 0, 0⟩ (Or.inl hvalid) wellFormed_emptyOut
    (show emptyOut.directory? "out" = some [.text "out"] by decide +kernel) isEmptyDirectory_emptyOut hfits
  obtain ⟨generation, t', hrun, houtcome, hdelivered⟩ := hwritten (hnodup rfl) fun hjava => by
    cases hjava
  rw [hpaths] at houtcome
  exact ⟨hvalid, generation, t', hrun, houtcome, hdelivered⟩

end Manifest
end BuilderGen
