import BuilderGen.Emit.BuilderFile
import BuilderGen.Proofs.FileTree.Write
import BuilderGen.Proofs.Record
import BuilderGen.Proofs.Text.SnakeCase

/-!
# BuilderGen.Proofs.Emit.BuilderPath

**The paths of builders.** The path of a sound record's builder consists of names: the
segments of its package and the name of its file (`Record.IsSound.pieces_builderPath`).
This also holds for a language other than that of the record's manifest, where a package
is a single segment with its separators in it.

So no builder is written above the output directory, and builders at different paths are
written to different places (`destination_join_inj`).
-/

namespace BuilderGen

open Text (IsIdentifier isIdentifier isIdentifier_iff isIdentifierRest)

/-! ### Names of entries -/

/-- A piece with a character of an identifier is a name. -/
theorem Path.isName_of_mem {piece : String} {c : Char} (hmem : c ∈ piece.toList)
    (hc : isIdentifierRest c = true) : Path.IsName (.text piece) := by
  have hne : ∀ other : String, other.toList.all (fun d => !isIdentifierRest d) = true →
      piece ≠ other := by
    intro other hother heq
    rw [heq] at hmem
    have hc' := List.all_eq_true.mp hother c hmem
    rw [hc] at hc'
    cases hc'
  refine ⟨?_, hne ".." rfl⟩
  rw [isIdle, Bool.or_eq_false_iff]
  exact ⟨by simpa using hne "" rfl, by simpa using hne "." rfl⟩

/-- The name of a builder's file, without its extension, is made of characters of
identifiers. -/
theorem isIdentifierRest_of_mem_fileStem {language : Language} {name : String}
    (h : isIdentifier name = true) {c : Char} (hc : c ∈ (language.fileStem name).toList) :
    isIdentifierRest c = true := by
  cases language with
  | java =>
      rw [Language.fileStem, String.toList_append, List.mem_append] at hc
      rcases hc with hc | hc
      · exact Text.isIdentifierRest_of_mem h hc
      · exact List.all_eq_true.mp (show "Builder".toList.all isIdentifierRest = true from rfl) c hc
  | rust =>
      rw [Language.fileStem, String.toList_append, List.mem_append] at hc
      rcases hc with hc | hc
      · exact Text.isIdentifierRest_of_mem (Text.isIdentifier_snakeCase h) hc
      · exact List.all_eq_true.mp (show "_builder".toList.all isIdentifierRest = true from rfl) c hc

theorem isName_fileName {language : Language} {name : String} (h : isIdentifier name = true) :
    Path.IsName (.text (language.fileName name language.extension)) ∧
      '/' ∉ (language.fileName name language.extension).toList := by
  have hu : 'u' ∈ (language.fileName name language.extension).toList := by
    cases language <;> simp [Language.fileName, Language.fileStem]
  have hstem : '/' ∉ (language.fileStem name).toList := fun hmem =>
    absurd (isIdentifierRest_of_mem_fileStem h hmem) (by decide)
  refine ⟨Path.isName_of_mem hu (by decide), ?_⟩
  cases language <;> simpa [Language.fileName, Language.extension] using hstem

/-! ### The segments of a package -/

/-- A package has the characters of identifiers and of the separator. -/
theorem IsPackage.not_mem {separator package : String} (h : IsPackage separator package) {c : Char}
    (hrest : isIdentifierRest c = false) (hsep : c ∉ separator.toList) : c ∉ package.toList := by
  rcases h with rfl | ⟨names, -, hnames, rfl⟩
  · simp
  · intro hmem
    rcases Text.mem_joinWith hmem with hmem | ⟨name, hname, hmem⟩
    · exact hsep hmem
    · exact Text.not_mem_of_isIdentifier (isIdentifier_iff.mpr (hnames name hname)) hrest hmem

theorem IsPackage.exists_isIdentifierRest {separator package : String}
    (h : IsPackage separator package) (hne : package ≠ "") :
    ∃ c ∈ package.toList, isIdentifierRest c = true := by
  obtain ⟨names, hnil, hnames, rfl⟩ := h.resolve_left hne
  obtain ⟨name, rest, rfl⟩ := List.exists_cons_of_ne_nil hnil
  have hid := isIdentifier_iff.mpr (hnames name (by simp))
  obtain ⟨c, cs, hcs, -⟩ := hnames name (by simp)
  have hc : c ∈ name.toList := by simp [hcs]
  refine ⟨c, ?_, Text.isIdentifierRest_of_mem hid hc⟩
  by_cases hrest : rest = []
  · simpa [hrest] using hc
  · rw [Text.joinWith_cons hrest]
    simp [hc]

/-- In any language, the directories of a builder have names. -/
theorem Record.IsSound.isName_packageSegments {r : Record} (h : r.IsSound) (language : Language)
    {segment : String} (hs : segment ∈ r.packageSegments language) :
    Path.IsName (.text segment) ∧ '/' ∉ segment.toList := by
  obtain ⟨declared, hpackage⟩ := h.package
  by_cases hempty : r.package = ""
  · rw [Record.packageSegments_of_empty hempty] at hs
    cases hs
  rw [Record.packageSegments, List.mem_filter] at hs
  obtain ⟨hs, hne⟩ := hs
  by_cases hlanguage : language = declared
  · rw [hlanguage] at hs
    have hid := isIdentifier_iff.mpr (isIdentifier_of_mem_segments hpackage hempty segment hs)
    obtain ⟨c, hc⟩ := List.exists_mem_of_ne_nil segment.toList (by simpa using hne)
    exact ⟨Path.isName_of_mem hc (Text.isIdentifierRest_of_mem hid hc),
      Text.not_mem_of_isIdentifier hid (by decide)⟩
  · -- the package is a single directory, with the separators of its own language in it
    rw [segments_of_other_language hpackage hlanguage, List.mem_singleton] at hs
    obtain ⟨c, hc, hrest⟩ := hpackage.exists_isIdentifierRest hempty
    rw [hs]
    exact ⟨Path.isName_of_mem hc hrest, hpackage.not_mem (by decide) (by cases declared <;> decide)⟩

/-! ### Paths -/

/-- The parts of a builder's path are names. -/
theorem Record.IsSound.isName_of_mem_parts {r : Record} (h : r.IsSound) {language : Language}
    {part : String} (hpart : part ∈ r.packageSegments language ++
      [language.fileName r.name language.extension]) :
    Path.IsName (.text part) ∧ '/' ∉ part.toList := by
  rcases List.mem_append.mp hpart with hpart | hpart
  · exact h.isName_packageSegments language hpart
  · rw [List.mem_singleton.mp hpart]
    exact isName_fileName h.name

/-- **The path of a builder** consists of names. -/
theorem Record.IsSound.pieces_builderPath {r : Record} (h : r.IsSound) (language : Language) :
    Path.pieces (r.builderPath language) =
        (r.packageSegments language).map .text ++
          [.text (language.fileName r.name language.extension)] ∧
      ∀ piece ∈ Path.pieces (r.builderPath language), Path.IsName piece := by
  have hparts : Path.parts (r.builderPath language) =
      r.packageSegments language ++ [language.fileName r.name language.extension] :=
    Path.parts_joinWith (by simp) fun part hpart => (h.isName_of_mem_parts hpart).2
  refine ⟨by rw [Path.pieces, hparts, List.map_append, List.map_singleton], fun piece hpiece => ?_⟩
  obtain ⟨part, hpart, rfl⟩ := List.mem_map.mp hpiece
  exact (h.isName_of_mem_parts (hparts ▸ hpart)).1

namespace FileTree

variable {output path path' : String}

/-- A path of names below an output directory leads below where the directory does. -/
theorem destination_join (t : FileTree) (h : ∀ piece ∈ Path.pieces path, Path.IsName piece) :
    t.destination (Path.join output path) =
      Path.arrive (t.start output) (Path.steps output) ++ Path.pieces path := by
  obtain ⟨front, hpieces, hfront⟩ := Path.pieces_join output (Path.isAbsolute_of_isName h)
  have hstart : t.start (Path.join output path) = t.start output := by
    rw [start, start, RawPath.isAbsolute_ofText, RawPath.isAbsolute_ofText,
      Path.isAbsolute_join output (Path.isAbsolute_of_isName h)]
  have hsteps : (Path.pieces path).map Path.step = (Path.pieces path).map .into :=
    List.map_congr_left fun piece hpiece => (h piece hpiece).step
  rw [destination, Path.steps, hpieces, List.map_append, Path.arrive_append, hstart, hsteps,
    Path.arrive_into, ← Path.arrive_filter (front.map Path.step),
    ← Path.arrive_filter (Path.steps output)]
  exact congrArg (fun moves => Path.arrive (t.start output) moves ++ _) hfront

/-- Different paths of names lead to different places. -/
theorem destination_join_inj (t : FileTree) (h : ∀ piece ∈ Path.pieces path, Path.IsName piece)
    (h' : ∀ piece ∈ Path.pieces path', Path.IsName piece)
    (heq : t.destination (Path.join output path) = t.destination (Path.join output path')) :
    path = path' := by
  rw [destination_join t h, destination_join t h'] at heq
  exact Path.pieces_inj.mp (List.append_cancel_left heq)

end FileTree
end BuilderGen
