import BuilderGen.Emit.BuilderFile
import BuilderGen.Proofs.Lint
import BuilderGen.Proofs.Manifest.Grammar
import BuilderGen.Round

/-!
# BuilderGen.Proofs.Manifest.Package

**Packages in the language builders are written in.** A manifest is checked in the
language it declares, but another one can take its place before builders are
written. The lints run after that and look for reserved words only. So a package of
several segments fits the language builders are written in exactly if that is the
declared one; the empty package and packages of one segment fit either
(`fitsLanguage_iff`).
-/

namespace BuilderGen

open Text (IsIdentifier isIdentifier_iff)

/-- A package in the syntax of a language: no package at all, or one that is cut into
identifiers. Classes declare their package, so none of its names is reserved. -/
def FitsLanguage (language : Language) (package : String) : Prop :=
  package = "" ∨ ∀ name ∈ Text.segments language.separator package,
    IsIdentifier name ∧ (language = .java → language.isReserved name = false)

/-! ### Packages of a manifest that keeps the rules -/

/-- A package that keeps the rules holds no blanks. -/
theorem trim_of_isPackage {language : Language} {package : String}
    (h : IsPackage language.separator package) : Text.trim package = package := by
  refine Text.trim_of_no_blank fun c hc => ?_
  rcases h with rfl | ⟨names, -, hnames, rfl⟩
  · simp at hc
  · rcases Text.mem_joinWith hc with hc | ⟨name, hname, hc⟩
    · cases language <;> simp [Language.separator] at hc <;> subst hc <;> rfl
    · exact Text.isBlank_of_isIdentifierRest
        (Text.isIdentifierRest_of_mem (isIdentifier_iff.mpr (hnames name hname)) hc)

/-- No separator of one language is found in a package of the other. -/
theorem segments_of_other_language {language other : Language} {package : String}
    (h : IsPackage language.separator package) (hne : other ≠ language) :
    Text.segments other.separator package = [package] := by
  obtain ⟨d, ds, hsep, hd⟩ := other.separator_head
  refine Text.segments_of_not_mem hsep fun hmem => ?_
  rcases h with rfl | ⟨names, -, hnames, rfl⟩
  · simp at hmem
  · rcases Text.mem_joinWith hmem with hmem | ⟨name, hname, hmem⟩
    · cases language <;> cases other <;> simp_all [Language.separator]
    · exact Text.not_mem_of_isIdentifier (isIdentifier_iff.mpr (hnames name hname)) hd hmem

/-- A package of identifiers is cut into them. -/
theorem isIdentifier_of_mem_segments {language : Language} {package : String}
    (h : IsPackage language.separator package) (hne : package ≠ "") :
    ∀ name ∈ Text.segments language.separator package, IsIdentifier name := by
  obtain ⟨names, hnil, hnames, rfl⟩ := h.resolve_left hne
  have hid : ∀ name ∈ names, Text.isIdentifier name = true :=
    fun name hname => isIdentifier_iff.mpr (hnames name hname)
  rwa [(segments_eq_iff_of_identifiers language hid).mpr ⟨hnil, rfl⟩]

@[simp] theorem Manifest.types_withLanguage (m : Manifest) (language : Option Language) :
    (m.withLanguage language).types = m.types := by
  cases language <;> rfl

@[simp] theorem Manifest.buildable_withLanguage (m : Manifest) (language : Option Language) :
    (m.withLanguage language).buildable = m.buildable := by
  rw [buildable, types_withLanguage, buildable]

theorem Manifest.Conforms.of_mem_buildable {m : Manifest} (h : m.Conforms)
    {t : String × TypeDecl} (ht : t ∈ m.buildable) :
    t.2.Conforms m.project.language.separator t.1 :=
  h.types t (List.mem_filter.mp ht).1

/-! ### The language builders are written in -/

/-- A package that keeps the rules of its manifest fits the language of builders if
that is the language of the manifest, or if the package has at most one segment. -/
theorem fitsLanguage_iff {declared language : Language} {package : String}
    (hpackage : IsPackage declared.separator package)
    (hreserved : language = .java → ∀ name ∈ Text.segments language.separator package,
      language.isReserved name = false) :
    FitsLanguage language package ↔
      language = declared ∨ package = "" ∨ IsIdentifier package := by
  by_cases hempty : package = ""
  · simp [FitsLanguage, hempty]
  by_cases hlanguage : language = declared
  · subst hlanguage
    simp only [true_or, iff_true]
    exact Or.inr fun name hname => ⟨isIdentifier_of_mem_segments hpackage hempty name hname,
      fun hjava => hreserved hjava name hname⟩
  · simp only [FitsLanguage, hempty, hlanguage, false_or,
      segments_of_other_language hpackage hlanguage, List.mem_singleton, forall_eq] at hreserved ⊢
    exact ⟨And.left, fun h => ⟨h, hreserved⟩⟩

theorem Record.packageSegments_of_empty {language : Language} {r : Record} (h : r.package = "") :
    r.packageSegments language = [] := by
  cases language <;> rw [packageSegments, h] <;> rfl

/-- A package that is cut into identifiers, of whatever kind, is joined from the segments that
take a directory. -/
theorem Record.packageSegments_of_identifiers {language : Language} {r : Record}
    {P : String → Prop} (hid : ∀ {name}, P name → IsIdentifier name)
    (h : r.package = "" ∨ ∀ name ∈ Text.segments language.separator r.package, P name) :
    (∀ name ∈ r.packageSegments language, P name) ∧
      r.package = Text.joinWith language.separator (r.packageSegments language) := by
  by_cases hempty : r.package = ""
  · simp [packageSegments_of_empty hempty, hempty]
  · have hnames := h.resolve_left hempty
    have hall : r.packageSegments language = Text.segments language.separator r.package := by
      rw [packageSegments, List.filter_eq_self]
      intro name hname
      have hne := Text.ne_empty_of_isIdentifier (isIdentifier_iff.mpr (hid (hnames name hname)))
      simpa using hne
    rw [hall]
    have hsep : language.separator ≠ "" := by cases language <;> decide
    exact ⟨hnames, (Text.joinWith_segments hsep _).symm⟩

/-- The segments of a package that fits are the identifiers it is joined from. -/
theorem Record.packageSegments_of_fits {language : Language} {r : Record}
    (h : FitsLanguage language r.package) :
    (∀ name ∈ r.packageSegments language,
      IsIdentifier name ∧ (language = .java → language.isReserved name = false)) ∧
      r.package = Text.joinWith language.separator (r.packageSegments language) :=
  packageSegments_of_identifiers And.left h

/-- So are those of a package in the language it was checked in. -/
theorem Record.packageSegments_of_isPackage {language : Language} {r : Record}
    (h : IsPackage language.separator r.package) :
    (∀ name ∈ r.packageSegments language, IsIdentifier name) ∧
      r.package = Text.joinWith language.separator (r.packageSegments language) :=
  packageSegments_of_identifiers id (or_iff_not_imp_left.mpr (isIdentifier_of_mem_segments h))

/-- A package that is neither empty nor an identifier has several segments. -/
theorem one_lt_segments_of_not_identifier {language : Language} {package : String}
    (h : IsPackage language.separator package) (hempty : package ≠ "")
    (hid : ¬ IsIdentifier package) :
    1 < (Text.segments language.separator package).length := by
  have hnames := isIdentifier_of_mem_segments h hempty
  have hsep : language.separator ≠ "" := by cases language <;> decide
  have hjoin := Text.joinWith_segments hsep package
  match hsegments : Text.segments language.separator package with
  | [] => exact absurd hsegments (Text.segments_ne_nil _ _)
  | [name] =>
      rw [hsegments] at hnames hjoin
      rw [Text.joinWith_singleton] at hjoin
      exact absurd (hjoin ▸ hnames name (by simp)) hid
  | _ :: _ :: _ => simp

theorem ClassUnit.package_builderFile (r : Record) (stamp : Stamp) :
    (ClassUnit.builderFile r stamp).package = if r.package = "" then none else some r.package := by
  simp only [builderFile, File.inPackage, String.isEmpty_iff]

/-- **Packages of valid manifests in the language builders are written in.** They fit
exactly if that is the declared language or they have at most one segment. A package
that fits is declared as identifiers, with one directory for each; one that does not
has several segments and still a single directory. -/
theorem Manifest.package_fits_iff {text path : String} {m : Manifest} {language? : Option Language}
    (hparse : Manifest.parse text = .ok m)
    (hvalid : ((m.withLanguage language?).verdict path).isValid = true)
    {t : String × TypeDecl} (ht : t ∈ (m.withLanguage language?).buildable) :
    let language := (m.withLanguage language?).project.language
    let record := Round.lowerRecord t.1 t.2
    let file := language.fileName t.1 language.extension
    (FitsLanguage language t.2.package ↔
      language = m.project.language ∨ t.2.package = "" ∨ IsIdentifier t.2.package) ∧
    (FitsLanguage language t.2.package → ∃ names,
      (∀ name ∈ names, IsIdentifier name ∧ (language = .java → language.isReserved name = false)) ∧
      t.2.package = Text.joinWith language.separator names ∧
      (language = .java → ∀ stamp, (ClassUnit.builderFile record stamp).package =
        if names = [] then none else some (Text.joinWith language.separator names)) ∧
      record.builderPath language = Text.joinWith "/" (names ++ [file])) ∧
    (¬ FitsLanguage language t.2.package →
      1 < (Text.segments m.project.language.separator t.2.package).length ∧
      record.builderPath language = Text.joinWith "/" [t.2.package, file]) := by
  intro language record file
  have hconforms : t.2.Conforms m.project.language.separator t.1 :=
    (violation?_eq_none_iff.mp (parse_eq_ok_iff.mp hparse).2).of_mem_buildable
      (buildable_withLanguage m language? ▸ ht)
  have husable := hasUsableNames_of_no_errors (verdict_isValid_iff.mp hvalid) ht
  have hpackage : record.package = t.2.package := trim_of_isPackage hconforms.package
  have hiff := fitsLanguage_iff hconforms.package husable.package
  refine ⟨hiff, fun hfits => ?_, fun hunfit => ?_⟩
  · rw [← hpackage] at hfits ⊢
    obtain ⟨hnames, hjoin⟩ := Record.packageSegments_of_fits hfits
    refine ⟨_, hnames, hjoin, fun _ stamp => ?_, rfl⟩
    rw [ClassUnit.package_builderFile, ← hjoin]
    refine if_congr ⟨Record.packageSegments_of_empty, fun hnil => ?_⟩ rfl rfl
    rw [hjoin, hnil, Text.joinWith_nil]
  · rw [hiff, not_or, not_or] at hunfit
    obtain ⟨hlanguage, hempty, hid⟩ := hunfit
    refine ⟨one_lt_segments_of_not_identifier hconforms.package hempty hid, ?_⟩
    rw [Record.builderPath, Record.packageSegments, hpackage,
      segments_of_other_language hconforms.package hlanguage]
    simp [hempty, Record.pathInPackage, file, record, Round.lowerRecord]

/-- The manifest of a struct in a module within a module. -/
def nestedModule : Manifest where
  project := { name := "p", language := .rust }
  types := [("P", { package := "a::b", builder := true })]

set_option maxRecDepth 100000 in
theorem parse_nestedModule : Manifest.parse
    ("[project]\nname = \"p\"\nlanguage = \"rust\"\n" ++
      "[types.P]\npackage = \"a::b\"\nbuilder = true\n") = .ok nestedModule := by
  rfl

/-- A package of two modules does not fit a class: nothing is wrong with its manifest,
and yet both modules become one directory. -/
theorem nested_module_unfit_for_classes :
    ∃ text, Manifest.parse text = .ok nestedModule ∧
      ((nestedModule.withLanguage (some .java)).verdict "rebar.toml").isValid = true ∧
      ("P", { package := "a::b", builder := true }) ∈
        (nestedModule.withLanguage (some .java)).buildable ∧
      ¬ FitsLanguage .java "a::b" ∧
      (Round.lowerRecord "P" { package := "a::b", builder := true }).builderPath .java =
        "a::b/PBuilder.java" := by
  have hvalid : ((nestedModule.withLanguage (some .java)).verdict "rebar.toml").isValid = true := by
    rfl
  have hbuildable : ("P", { package := "a::b", builder := true }) ∈
      (nestedModule.withLanguage (some .java)).buildable := by decide
  obtain ⟨hiff, -, hunfit⟩ := Manifest.package_fits_iff parse_nestedModule hvalid hbuildable
  have hnot : ¬ FitsLanguage .java "a::b" := by
    rw [show FitsLanguage .java "a::b" ↔ _ from hiff, ← isIdentifier_iff]
    decide
  exact ⟨_, parse_nestedModule, hvalid, hbuildable, hnot, (hunfit hnot).2⟩

end BuilderGen
