import BuilderGen.Proofs.Announced

/-!
# BuilderGen.Proofs.Confinement

**Builders stay below the output directory** (`Manifest.builders_confined`). The path of a
builder consists of names, which lead down only, and without links below the directory it is
written to, nothing changes but below it, whether or not all of the builders can be written
(`Generator.changesBelow_generate`).

The names are those of the package and of the file. The package is checked in the language of
the manifest and split in the language of the builders; where these differ, it is a single name.
-/

namespace BuilderGen

open FileTree
open Text (IsIdentifier isIdentifier_iff)

/-! ### Changes below a directory -/

/-- Nothing has changed but at locations properly below a directory. -/
def FileTree.ChangesBelow (d : Location) (t t' : FileTree) : Prop :=
  ∀ l, t'.get? l ≠ t.get? l → ∃ names, names ≠ [] ∧ l = d ++ names

namespace FileTree

variable {d : Location} {t t1 t' : FileTree}

theorem ChangesBelow.refl (d : Location) (t : FileTree) : ChangesBelow d t t :=
  fun _ hl => absurd rfl hl

theorem ChangesBelow.trans (h : ChangesBelow d t t1) (h' : ChangesBelow d t1 t') :
    ChangesBelow d t t' := by
  intro l hl
  by_cases hl1 : t'.get? l = t1.get? l
  · exact h l (hl1 ▸ hl)
  · exact h' l hl1

/-- What is written properly below a directory, on ways that lead down from it. -/
theorem Changes.below {written : List Location} {directories : List Name}
    (h : Changes written (Path.entered d (directories.map .into)) t t')
    (hwritten : ∀ l ∈ written, ∃ names, names ≠ [] ∧ l = d ++ names) : ChangesBelow d t t' := by
  intro l hl
  by_cases hmem : l ∈ written
  · exact hwritten l hmem
  · obtain ⟨hway, -⟩ := (h.other l hmem).resolve_left hl
    obtain ⟨names, hne, -, heq⟩ := Path.mem_entered_into_iff.mp hway
    exact ⟨names, hne, heq⟩

end FileTree

namespace Filing

variable {output path : String} {directories : List Name} {name : Name} {left : Nat} {d : Location}
  {t : FileTree}

/-- Writing a file below a directory changes nothing elsewhere, also if it fails. -/
theorem changesBelow_writeAtomic (ht : t.WellFormed) (hout : t.LeadsTo output left d)
    (h : Path.IsRelative path directories name) (hlinks : t.NoLinksBelow d) (content : String) :
    ChangesBelow d t ((writeAtomic (Path.join output path) content).runOn t).2 := by
  rcases hrun : (writeAtomic (Path.join output path) content).runOn t with ⟨failure | _, t'⟩
  · -- directories are all that a failure can leave behind
    obtain ⟨front, hends⟩ := h.exists_ends_join output
    have hchanges := hout.changes_makeDirectories_join ht h hlinks
    rcases hmk : t.makeDirectories (Path.directoryOf (Path.join output path)) with ⟨t1, _ | there⟩
    · rw [runOn_writeAtomic, hmk] at hrun
      rw [hmk] at hchanges
      rw [← (Prod.mk.inj hrun).2]
      exact hchanges.below (by simp)
    · rw [hmk] at hchanges
      rcases runOn_writeAtomic_of_made hends content hmk with ⟨-, hok⟩ | ⟨-, failure', hfail⟩
      · rw [hok] at hrun
        cases hrun
      · rw [hfail] at hrun
        rw [← (Prod.mk.inj hrun).2]
        exact hchanges.below (by simp)
  · obtain ⟨hplaced, -⟩ := writeAtomic_join_eq_ok ht hout h hlinks hrun
    refine hplaced.changes.below fun l hl => ?_
    rw [List.mem_singleton] at hl
    exact ⟨Path.pieces path, Path.pieces_ne_nil path, hl⟩

/-- Writing several files goes on below the directory after each of them. -/
theorem changesBelow_writeAll (files : List BuilderFile) :
    ∀ {t : FileTree}, t.WellFormed → t.LeadsTo output left d → t.NoLinksBelow d →
      (∀ f ∈ files, f.IsRelative) → ChangesBelow d t ((writeAll output files).runOn t).2 := by
  induction files with
  | nil => intro t _ _ _ _; exact ChangesBelow.refl d t
  | cons f files ih =>
      intro t ht hout hlinks hrelative
      obtain ⟨⟨directories, name, hpath⟩, hrest⟩ := List.forall_mem_cons.mp hrelative
      have hfirst := changesBelow_writeAtomic ht hout hpath hlinks f.content
      rw [runOn_writeAll_cons]
      rcases hrun : (writeAtomic (Path.join output f.path) f.content).runOn t with ⟨failure | _, t1⟩
      · rwa [hrun] at hfirst
      · rw [hrun] at hfirst
        obtain ⟨hplaced, -⟩ := writeAtomic_join_eq_ok ht hout hpath hlinks hrun
        exact hfirst.trans (ih hplaced.wellFormed (hout.of_keeps (hplaced.keeps hlinks))
          (hplaced.noLinksBelow hlinks) hrest)

end Filing

/-- **Generating changes nothing but below the output directory**, also if it fails. -/
theorem Generator.changesBelow_generate {g : Generator} (hg : ∀ r ∈ g.records, r.IsSound)
    (stamp : Stamp) {output : String} {left : Nat} {d : Location} {t : FileTree}
    (ht : t.WellFormed) (hout : t.LeadsTo output left d) (hlinks : t.NoLinksBelow d) :
    ChangesBelow d t ((g.generate stamp output).runOn t).2 := by
  by_cases hnodup : g.paths.Nodup
  · have hall := Filing.changesBelow_writeAll (g.files stamp) ht hout hlinks
      (isRelative_of_mem_files hg stamp)
    rw [runOn_generate_of_nodup stamp output t hnodup]
    rcases hrun : (Filing.writeAll output (g.files stamp)).runOn t with ⟨failure | _, t'⟩ <;>
      rwa [hrun] at hall
  · obtain ⟨path, -, hfail⟩ := runOn_generate_of_not_nodup stamp output t hnodup
    rw [hfail]
    exact ChangesBelow.refl d t

/-! ### The paths of builders -/

theorem Language.fileName_java (record : String) :
    java.fileName record java.extension = record ++ "Builder.java" := by
  rw [fileName, fileStem, String.append_assoc, String.append_assoc]
  rfl

theorem Language.fileName_rust (record : String) :
    rust.fileName record rust.extension = Text.snakeCase record ++ "_builder.rs" := by
  rw [fileName, fileStem, String.append_assoc, String.append_assoc]
  rfl

/-- **Builders stay below the output directory.** The path of a builder is made of names, and the
last one is that of its file. In the language of the manifest the others are the identifiers of
its package, and no path leads through another one. Wherever the output directory is, a builder
belongs properly below it; and if no link there leads elsewhere, generating changes nothing that
is not properly below it. -/
theorem Manifest.builders_confined {text : String} {m : Manifest} (hparse : parse text = .ok m)
    (override : Option Language) :
    let target := m.withLanguage override
    let language := target.project.language
    (∀ type ∈ target.buildable,
      let path := (Round.lowerRecord type.1 type.2).builderPath language
      ∃ directories file, path = Text.joinWith "/" (directories ++ [file]) ∧
        (∀ segment ∈ directories ++ [file],
          segment ≠ "" ∧ '/' ∉ segment.toList ∧ segment ≠ "." ∧ segment ≠ "..") ∧
        (language = .java → file = type.1 ++ "Builder.java") ∧
        (language = .rust → file = Text.snakeCase type.1 ++ "_builder.rs") ∧
        (language = m.project.language → (∀ name ∈ directories, IsIdentifier name) ∧
          type.2.package = Text.joinWith language.separator directories) ∧
        ∀ (t : FileTree) (output : String),
          t.destination (Path.join output path) =
            t.destination output ++ (directories ++ [file]).map .text) ∧
    (language = m.project.language → ∀ p ∈ target.generator.paths, ∀ q ∈ target.generator.paths,
      Path.pieces p <+: Path.pieces q → p = q) ∧
    ∀ (stamp : Stamp) (output : String) (t : FileTree) (d : Location), t.WellFormed →
      t.directory? output = some d → t.NoLinksBelow d →
      ChangesBelow d t ((target.generator.generate stamp output).runOn t).2 := by
  intro target language
  have hconforms := violation?_eq_none_iff.mp (parse_eq_ok_iff.mp hparse).2
  refine ⟨fun type htype => ?_, fun hlanguage p hp q hq h => ?_, ?_⟩
  · have hdecl := hconforms.of_mem_buildable (buildable_withLanguage m override ▸ htype)
    have hsound := Round.isSound_lowerRecord hdecl
    obtain ⟨hpieces, hnames⟩ := hsound.pieces_builderPath language
    refine ⟨_, _, rfl, fun segment hsegment => ?_, fun hjava => ?_, fun hrust => ?_,
      fun hlanguage => ?_, fun t output => ?_⟩
    · obtain ⟨⟨hidle, hup⟩, hslash⟩ := hsound.isName_of_mem_parts hsegment
      rw [Path.isIdle, Bool.or_eq_false_iff] at hidle
      exact ⟨by simpa using hidle.1, hslash, by simpa using hidle.2, hup⟩
    · rw [hjava]
      exact Language.fileName_java type.1
    · rw [hrust]
      exact Language.fileName_rust type.1
    · -- where the package was checked it is split into what it was checked to be joined from
      have hpackage := hdecl.package
      rw [← hlanguage, ← trim_of_isPackage hdecl.package] at hpackage
      have hnames := Record.packageSegments_of_isPackage
        (r := Round.lowerRecord type.1 type.2) hpackage
      rwa [show (Round.lowerRecord type.1 type.2).package = type.2.package from
        trim_of_isPackage hdecl.package] at hnames
    · rw [FileTree.destination_join t hnames, hpieces, List.map_append, List.map_singleton]
      rfl
  · refine eq_of_pieces_isPrefix hconforms (fun hsplit => ?_) hp hq h
    obtain ⟨hjava, rfl⟩ := hsplit
    rw [hjava] at hlanguage
    exact absurd (show Language.rust = .java from hlanguage) (by decide)
  · intro stamp output t d ht houtput hlinks
    obtain ⟨-, left, hout⟩ := (directory?_eq_some_iff ht).mp houtput
    exact Generator.changesBelow_generate (fun r hr => isSound_of_mem_records hconforms hr) stamp ht
      hout hlinks

/-- The builder of a struct in a module within a module, below an empty directory. -/
theorem nested_module_confined :
    ∃ text, Manifest.parse text = .ok nestedModule ∧
      (∃ directories, "a/b/p_builder.rs" = Text.joinWith "/" (directories ++ ["p_builder.rs"]) ∧
        (∀ name ∈ directories, IsIdentifier name) ∧ "a::b" = Text.joinWith "::" directories ∧
        Manifest.emptyOut.destination "out/a/b/p_builder.rs" =
          [.text "out"] ++ (directories ++ ["p_builder.rs"]).map .text) ∧
      ChangesBelow ["out"] Manifest.emptyOut ((nestedModule.generator.generate
        ⟨2024, 5, 1, 12, 0, 0, 0⟩ "out").runOn Manifest.emptyOut).2 := by
  obtain ⟨hpaths, -, heffect⟩ := Manifest.builders_confined parse_nestedModule none
  obtain ⟨directories, file, hpath, -, -, hfile, hown, hplace⟩ :=
    hpaths ("P", { package := "a::b", builder := true }) (by decide)
  obtain rfl : file = "p_builder.rs" := (hfile rfl).trans (by decide +kernel)
  obtain ⟨hnames, hpackage⟩ := hown rfl
  refine ⟨_, parse_nestedModule, ⟨directories, ?_, hnames, hpackage, ?_⟩, ?_⟩
  · rw [← hpath]
    decide +kernel
  · exact hplace Manifest.emptyOut "out"
  · exact heffect _ "out" _ ["out"] Manifest.wellFormed_emptyOut (by decide +kernel)
      Manifest.isEmptyDirectory_emptyOut.noLinksBelow

end BuilderGen
