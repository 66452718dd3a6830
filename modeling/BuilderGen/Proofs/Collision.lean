import BuilderGen.Proofs.Announced
import BuilderGen.Proofs.Manifest.Verdict

/-!
# BuilderGen.Proofs.Collision

**Builders collide exactly when file names fold their case** (`Manifest.collides_iff`). The path
of a builder tells the package of its record in any language, and as much of the name as a file
name shows: all of it for a class, and what snake case leaves of it for a struct
(`Record.IsSound.builderPath_eq_iff_names`).

Writing builders fails in other ways than by a collision (`Filing.comesTo_writeAll`). So one is
reported only before anything is written, and it is the first path that repeats one before.
-/

namespace BuilderGen

open Effect (ComesTo)

/-! ### What paths tell -/

/-- What the file name of a builder shows of the name of its record. -/
def Language.shownName : Language → String → String
  | java, name => name
  | rust, name => Text.snakeCase name

theorem Language.fileStem_eq_iff (language : Language) {name name' : String} :
    language.fileStem name = language.fileStem name' ↔
      language.shownName name = language.shownName name' := by
  cases language with
  | java => exact ⟨fileStem_java_inj, congrArg _⟩
  | rust =>
      refine ⟨fun h => ?_, fun h => congrArg (· ++ "_builder") h⟩
      exact (String.append_left_inj _).mp h

namespace Record.IsSound

variable {r r' : Record} (hr : r.IsSound)
include hr

/-- A package is put together again from the segments that take a directory, also in a language
that does not cut it. -/
theorem joinWith_packageSegments (language : Language) :
    Text.joinWith language.separator (r.packageSegments language) = r.package := by
  obtain ⟨declared, hpackage⟩ := hr.package
  by_cases hlanguage : language = declared
  · subst hlanguage
    exact (Record.packageSegments_of_isPackage hpackage).2.symm
  · by_cases hempty : r.package = ""
    · rw [Record.packageSegments_of_empty hempty, Text.joinWith_nil, hempty]
    · rw [packageSegments, segments_of_other_language hpackage hlanguage]
      simp [hempty]

theorem packageSegments_eq_iff (hr' : r'.IsSound) (language : Language) :
    r.packageSegments language = r'.packageSegments language ↔ r.package = r'.package := by
  refine ⟨fun h => ?_, fun h => by rw [packageSegments, packageSegments, h]⟩
  rw [← hr.joinWith_packageSegments language, h, hr'.joinWith_packageSegments]

/-- **Paths tell packages and names**, as far as file names show them. -/
theorem builderPath_eq_iff_names (hr' : r'.IsSound) {language : Language} :
    r.builderPath language = r'.builderPath language ↔
      r.package = r'.package ∧ language.shownName r.name = language.shownName r'.name := by
  rw [hr.builderPath_eq_iff hr', hr.packageSegments_eq_iff hr', Language.fileStem_eq_iff]

end Record.IsSound

/-! ### When a collision is reported -/

/-- Files that cannot be written are no collision. -/
theorem Filing.comesTo_writeAll (output : String) (files : List BuilderFile) :
    (writeAll output files).ComesTo (fun _ => True) fun failure =>
      ∀ path, failure.cause ≠ .collision path := by
  refine ComesTo.forM fun file _ => ?_
  refine ((comesTo_writeOutput_always _ _).mono fun failure hfailure path hcause => ?_).bind
    fun _ _ => .pure trivial
  simp only [List.mem_cons, List.not_mem_nil, or_false] at hfailure
  rcases hfailure with rfl | rfl | rfl <;> cases hcause

/-- A collision that is reported is of the first path that repeats one before, and nothing was
written. -/
theorem Generator.repeats_of_collision {g : Generator} {stamp : Stamp} {output path : String}
    {t t' : FileTree} {failure : Failure}
    (hrun : (g.generate stamp output).runOn t = (.error failure, t'))
    (hcause : failure.cause = .collision path) :
    (failure = { cause := .collision path } ∧ t' = t) ∧
      ∃ before after, g.paths = before ++ path :: after ∧ before.Nodup ∧ path ∈ before := by
  cases hrepeated : repeated? [] g.paths with
  | none =>
      rw [runOn_generate_of_nodup stamp output t (repeated?_eq_none_iff.mp hrepeated).1] at hrun
      rcases hall : (Filing.writeAll output (g.files stamp)).runOn t with ⟨failure' | _, t1⟩ <;>
        rw [hall] at hrun
      · cases hrun
        exact absurd hcause ((Filing.comesTo_writeAll output _).error hall path)
      · cases hrun
  | some first =>
      have hfail : (g.generate stamp output).runOn t = (.error { cause := .collision first }, t) := by
        rw [generate, hrepeated]
        rfl
      obtain ⟨hfailure, rfl⟩ := Prod.mk.inj (hfail.symm.trans hrun)
      obtain rfl := Except.error.inj hfailure
      obtain rfl := Cause.collision.inj hcause
      obtain ⟨before, after, hpaths, hnodup, -, hmem⟩ := exists_of_repeated? hrepeated
      exact ⟨⟨rfl, rfl⟩, before, after, hpaths, hnodup, by simpa using hmem⟩

namespace Manifest

section Paths

variable {m : Manifest} (hm : m.Conforms)
include hm

/-- The paths of two builders of a manifest, in any language. -/
theorem builderPath_eq_iff_names {language : Language} {u v : String × TypeDecl}
    (hu : u ∈ m.buildable) (hv : v ∈ m.buildable) :
    (Round.lowerRecord u.1 u.2).builderPath language =
        (Round.lowerRecord v.1 v.2).builderPath language ↔
      u.2.package = v.2.package ∧ language.shownName u.1 = language.shownName v.1 := by
  have hu := hm.of_mem_buildable hu
  have hv := hm.of_mem_buildable hv
  rw [(Round.isSound_lowerRecord hu).builderPath_eq_iff_names (Round.isSound_lowerRecord hv)]
  simp only [Round.lowerRecord, trim_of_isPackage hu.package, trim_of_isPackage hv.package]

/-- Paths are repeated just where names of structs in one package are the same in snake case. -/
theorem not_nodup_paths_iff (htypes : (m.types.map Prod.fst).Nodup) {language : Option Language} :
    ¬ (m.withLanguage language).generator.paths.Nodup ↔
      (m.withLanguage language).project.language = .rust ∧
        ∃ u ∈ m.buildable, ∃ v ∈ m.buildable, u.1 ≠ v.1 ∧ u.2.package = v.2.package ∧
          Text.snakeCase u.1 = Text.snakeCase v.1 := by
  have hnames : (m.buildable.map Prod.fst).Nodup := htypes.sublist (List.filter_sublist.map _)
  have hname : ∀ {u v}, u ∈ m.buildable → v ∈ m.buildable → (u.1 = v.1 ↔ u = v) :=
    fun hu hv => ⟨fun h => List.inj_on_of_nodup_map hnames hu hv h, congrArg Prod.fst⟩
  rw [paths_generator, buildable_withLanguage, List.nodup_map_iff_inj_on hnames.of_map]
  simp only [builderPath]
  cases (m.withLanguage language).project.language with
  | java =>
      simp only [reduceCtorEq, false_and, iff_false, not_not]
      intro u hu v hv heq
      exact (hname hu hv).mp ((builderPath_eq_iff_names hm hu hv).mp heq).2
  | rust =>
      simp only [not_forall, exists_prop, true_and]
      refine exists_congr fun u => and_congr_right fun hu => exists_congr fun v =>
        and_congr_right fun hv => ?_
      rw [builderPath_eq_iff_names hm hu hv, ← hname hu hv, and_comm]
      rfl

end Paths

/-- Generating fails with the message that more than one builder has a path. -/
def ReportsCollision (m : Manifest) (stamp : Stamp) (output : String) (t : FileTree)
    (path : String) : Prop :=
  ∃ failure, ((m.generate stamp { output }).runOn t).1 = .error failure ∧
    failure.cause = .collision path

section Valid

variable {m : Manifest} {path : String} (hvalid : (m.verdict path).isValid = true) {stamp : Stamp}
  {output : String} {t : FileTree}
include hvalid

theorem ReportsCollision.repeats {p : String} (h : m.ReportsCollision stamp output t p) :
    (m.generate stamp { output }).runOn t =
        (.error { undertakings := [.generation], cause := .collision p }, t) ∧
      ∃ before after, m.generator.paths = before ++ p :: after ∧ before.Nodup ∧ p ∈ before := by
  obtain ⟨failure, hfailure, hcause⟩ := h
  have hrun := runOn_generate hvalid stamp output false t
  rcases hgenerate : (m.generator.generate stamp output).runOn t with ⟨failure' | _, t'⟩ <;>
    simp only [hgenerate, Bool.false_eq_true, if_false] at hrun
  · rw [hrun] at hfailure
    obtain rfl := Except.error.inj hfailure
    obtain ⟨⟨rfl, rfl⟩, hrepeats⟩ := Generator.repeats_of_collision hgenerate hcause
    exact ⟨hrun, hrepeats⟩
  · rw [hrun] at hfailure
    cases hfailure

/-- A collision is reported just if paths are repeated, whatever stands in the tree. -/
theorem exists_reportsCollision_iff :
    (∃ p, m.ReportsCollision stamp output t p) ↔ ¬ m.generator.paths.Nodup := by
  refine ⟨fun ⟨p, hreports⟩ hnodup => ?_, fun hrepeated => ?_⟩
  · obtain ⟨-, before, after, hpaths, -, hmem⟩ := hreports.repeats hvalid
    rw [hpaths] at hnodup
    exact (List.nodup_append.mp hnodup).2.2 p hmem p List.mem_cons_self rfl
  · obtain ⟨p, -, hfail⟩ := Generator.runOn_generate_of_not_nodup stamp output t hrepeated
    have hrun := runOn_generate hvalid stamp output false t
    rw [hfail] at hrun
    exact ⟨p, _, congrArg Prod.fst hrun, rfl⟩

end Valid

/-- **Builders collide exactly when file names fold their case.** A manifest is parsed and, in its
own language or in another one, valid. Generating reports a collision just if the target are
structs and two of the records that builders are wanted for are in the same package and have
names that are the same in snake case. It then reports, before anything is written, the path of
the first record, in the order of the types, whose path is that of a record before it. Paths of
classes tell packages and names, so there it never does. -/
theorem collides_iff {text : String} {m : Manifest} (hparse : parse text = .ok m)
    (language : Option Language) {path : String}
    (hvalid : ((m.withLanguage language).verdict path).isValid = true) (stamp : Stamp)
    (output : String) (t : FileTree) :
    let target := m.withLanguage language
    let buildable := m.types.filter fun u => u.2.builder = true ∧ u.2.kind = .record
    ((∃ p, target.ReportsCollision stamp output t p) ↔
      target.project.language = .rust ∧
        ∃ u ∈ buildable, ∃ v ∈ buildable, u.1 ≠ v.1 ∧ u.2.package = v.2.package ∧
          Text.snakeCase u.1 = Text.snakeCase v.1) ∧
    (∀ p, target.ReportsCollision stamp output t p →
      (target.generate stamp { output }).runOn t =
          (.error { undertakings := [.generation], cause := .collision p }, t) ∧
        ∃ before v after, buildable = before ++ v :: after ∧ target.builderPath v = p ∧
          (∃ u ∈ before, target.builderPath u = p) ∧ (before.map target.builderPath).Nodup) ∧
    ∀ u ∈ buildable, ∀ v ∈ buildable, target.builderPath u = target.builderPath v ↔
      u.2.package = v.2.package ∧
        match target.project.language with
        | .java => u.1 = v.1
        | .rust => Text.snakeCase u.1 = Text.snakeCase v.1 := by
  intro target buildable
  have hconforms := violation?_eq_none_iff.mp (parse_eq_ok_iff.mp hparse).2
  have hbuildable : buildable = m.buildable := m.buildable_eq_filter.symm
  refine ⟨?_, fun p hreports => ?_, fun u hu v hv => ?_⟩
  · rw [exists_reportsCollision_iff hvalid, hbuildable]
    exact not_nodup_paths_iff hconforms (nodup_types_of_parse hparse)
  · obtain ⟨hrun, paths, others, hsplit, hdistinct, hmem⟩ := hreports.repeats hvalid
    rw [paths_generator, buildable_withLanguage, ← hbuildable] at hsplit
    obtain ⟨before, rest, hbefore, rfl, hrest⟩ := List.map_eq_append_iff.mp hsplit
    obtain ⟨v, after, rfl, rfl, rfl⟩ := List.map_eq_cons_iff.mp hrest
    exact ⟨hrun, before, v, after, hbefore, rfl, List.mem_map.mp hmem, hdistinct⟩
  · rw [hbuildable] at hu hv
    refine (builderPath_eq_iff_names hconforms hu hv).trans ?_
    cases target.project.language <;> rfl

/-- The structs `AB` and `A_B` collide. -/
theorem clash_collides :
    ((clash.withLanguage none).verdict "rebar.toml").isValid = true ∧
    ((clash.withLanguage none).generate ⟨2024, 5, 1, 12, 0, 0, 0⟩ { output := "out" }).runOn {} =
      (.error { undertakings := [.generation], cause := .collision "a_b_builder.rs" }, {}) := by
  have hvalid : ((clash.withLanguage none).verdict "rebar.toml").isValid = true := by rfl
  obtain ⟨hiff, hfirst, -⟩ :=
    collides_iff parse_clashText none hvalid ⟨2024, 5, 1, 12, 0, 0, 0⟩ "out" {}
  obtain ⟨p, hreports⟩ := hiff.mpr ⟨rfl, ("AB", { builder := true }), by decide,
    ("A_B", { builder := true }), by decide, by decide, rfl, by decide +kernel⟩
  obtain ⟨houtcome, before, v, after, hsplit, rfl, -⟩ := hfirst p hreports
  have hv : v ∈ clash.types := by
    have hmem : v ∈ before ++ v :: after := by simp
    rw [← hsplit] at hmem
    exact (List.mem_filter.mp hmem).1
  have hpath : ∀ v ∈ clash.types, (clash.withLanguage none).builderPath v = "a_b_builder.rs" := by
    decide +kernel
  rw [hpath v hv] at houtcome
  exact ⟨hvalid, houtcome⟩

end Manifest
end BuilderGen
