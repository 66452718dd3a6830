import BuilderGen.Proofs.Emit.Called
import BuilderGen.Proofs.Manifest.Declared
import BuilderGen.Proofs.Manifest.Valid

/-!
# BuilderGen.Proofs.Accounted

**Nothing is ignored silently.** Lowering, two lints and the builder of a struct decide on
their own whether the marker and the constructor of a type count. Together they account for
every entry exactly once (`Manifest.entries_accounted`).

All of them go through the types in order and say one thing or nothing about each. Types are
declared once, so what is said about one of them is found by its name
(`filter_filterMap_of_nodup`). The other lints warn of nothing.
-/

namespace BuilderGen

open Lint (typeLocation)

/-- What a list says about one of its entries, where entries have different keys and the key
is known from what is said. -/
theorem filter_filterMap_of_nodup {α β κ : Type} {key : α → κ} {f : α → Option β} {p : β → Bool}
    {x : α} : ∀ {xs : List α}, (xs.map key).Nodup → x ∈ xs →
      (∀ y ∈ xs, ∀ b, f y = some b → (p b = true ↔ key y = key x)) →
      (xs.filterMap f).filter p = (f x).toList := by
  intro xs
  induction xs with
  | nil => exact fun _ hx => nomatch hx
  | cons y ys ih =>
      intro hnodup hx hp
      obtain ⟨hy, hys⟩ := List.forall_mem_cons.mp hp
      rw [List.map_cons, List.nodup_cons] at hnodup
      by_cases hkey : key y = key x
      · -- no other entry has the key
        have hnone : (ys.filterMap f).filter p = [] := by
          rw [List.filter_eq_nil_iff]
          intro b hb hpb
          obtain ⟨z, hz, hfz⟩ := List.mem_filterMap.mp hb
          exact hnodup.1 (hkey ▸ (hys z hz b hfz).mp hpb ▸ List.mem_map_of_mem hz)
        obtain rfl : x = y := by
          rcases List.mem_cons.mp hx with rfl | hx
          · rfl
          · exact absurd (hkey ▸ List.mem_map_of_mem hx) hnodup.1
        cases hf : f x with
        | none => simpa [List.filterMap_cons, hf] using hnone
        | some b => simpa [List.filterMap_cons, hf, (hy b hf).mpr rfl] using hnone
      · have hx' : x ∈ ys := by
          rcases List.mem_cons.mp hx with rfl | hx
          · exact absurd rfl hkey
          · exact hx
        rw [← ih hnodup.2 hx' hys]
        cases hf : f y with
        | none => rw [List.filterMap_cons_none hf]
        | some b =>
            have hpb : ¬ p b = true := fun h => hkey ((hy b hf).mp h)
            rw [List.filterMap_cons_some hf, List.filter_cons_of_neg hpb]

/-! ### Warnings -/

namespace Lint

/-- The remark on a marked type that is no record. -/
def nonRecordRemark (name : String) (kind : TypeKind) : Diagnostic :=
  remark .warning
    ("type '" ++ name ++ "' is marked for a builder but is a " ++ kind.name ++
      ", not a record; no builder is generated")
    (typeLocation name)

/-- The remark on a constructor that is never called. -/
def unusedRemark (name constructor reason : String) : Diagnostic :=
  remark .warning ("constructor '" ++ constructor ++ "' of type '" ++ name ++ "' is ignored: " ++ reason)
    (typeLocation name ++ ".constructor")

/-- What `nonRecordBuilder` remarks on a type. -/
def nonRecordRemark? (t : String × TypeDecl) : Option Diagnostic :=
  if t.2.builder = true ∧ t.2.kind ≠ .record then some (nonRecordRemark t.1 t.2.kind) else none

/-- What `unusedConstructor` remarks on a type. -/
def unusedRemark? (language : Language) (t : String × TypeDecl) : Option Diagnostic := do
  let constructor ← t.2.constructor
  let reason ← constructorIgnored? language t.2
  return unusedRemark t.1 constructor.name reason

theorem nonRecordRemark?_eq_some_iff {t : String × TypeDecl} {d : Diagnostic} :
    nonRecordRemark? t = some d ↔
      (t.2.builder = true ∧ t.2.kind ≠ .record) ∧ d = nonRecordRemark t.1 t.2.kind := by
  rw [nonRecordRemark?, Option.ite_none_right_eq_some, Option.some.injEq, @eq_comm _ d]

theorem unusedRemark?_eq_some_iff {language : Language} {t : String × TypeDecl} {d : Diagnostic} :
    unusedRemark? language t = some d ↔ ∃ c reason, t.2.constructor = some c ∧
      constructorIgnored? language t.2 = some reason ∧ d = unusedRemark t.1 c.name reason := by
  simp only [unusedRemark?, Option.bind_eq_bind, Option.bind_eq_some_iff, Option.pure_def,
    Option.some.injEq, exists_and_left, @eq_comm _ d]

theorem nonRecordBuilder_check (m : Manifest) :
    nonRecordBuilder.check m = m.types.filterMap nonRecordRemark? := by
  simp only [nonRecordBuilder, Manifest.marked, List.filterMap_filter]
  congr 1
  funext t
  by_cases hb : t.2.builder = true <;> by_cases hk : t.2.kind = .record <;>
    simp [nonRecordRemark?, nonRecordRemark, hb, hk]

theorem unusedConstructor_check (m : Manifest) :
    unusedConstructor.check m = m.types.filterMap (unusedRemark? m.project.language) := rfl

theorem severity_of_mem_nonRecordBuilder {m : Manifest} {d : Diagnostic}
    (h : d ∈ nonRecordBuilder.check m) : d.severity = .warning := by
  rw [nonRecordBuilder_check] at h
  obtain ⟨t, -, ht⟩ := List.mem_filterMap.mp h
  rw [(nonRecordRemark?_eq_some_iff.mp ht).2]
  rfl

theorem severity_of_mem_unusedConstructor {m : Manifest} {d : Diagnostic}
    (h : d ∈ unusedConstructor.check m) : d.severity = .warning := by
  rw [unusedConstructor_check] at h
  obtain ⟨t, -, ht⟩ := List.mem_filterMap.mp h
  obtain ⟨c, reason, -, -, rfl⟩ := unusedRemark?_eq_some_iff.mp ht
  rfl

theorem severity_of_mem_reservedWord {m : Manifest} {d : Diagnostic}
    (h : d ∈ reservedWord.check m) : d.severity ≠ .warning := by
  simp only [reservedWord, List.mem_flatMap, List.mem_append] at h
  obtain ⟨t, -, (hrecord | hpackage) | ⟨c, -, hcomponent⟩⟩ := h
  · unfold recordNameRemarks at hrecord
    split at hrecord <;> simp_all [remark]
  · unfold packageRemarks at hpackage
    split at hpackage
    · cases hpackage
    · split at hpackage <;> simp_all [remark]
  · unfold componentRemarks at hcomponent
    split at hcomponent <;> (repeat split at hcomponent) <;> simp_all [remark]

theorem severity_of_mem_emptyRecord {m : Manifest} {d : Diagnostic}
    (h : d ∈ emptyRecord.check m) : d.severity ≠ .warning := by
  obtain ⟨t, -, ht⟩ := List.mem_filterMap.mp h
  simp only [Option.ite_none_right_eq_some, Option.some.injEq] at ht
  rw [← ht.2]
  simp [remark]

end Lint

namespace Round

/-- The warnings at a place, in order. -/
def warningsAt (r : Round) (location : String) : List Diagnostic :=
  (r.ofSeverity .warning).filter (·.location = some location)

/-- Linting warns of marked types that are no records and of constructors that are never
called. -/
theorem warnings_lint (m : Manifest) :
    (({ manifest := m } : Round).lint Lint.builtin).ofSeverity .warning =
      m.types.filterMap Lint.nonRecordRemark? ++
        m.types.filterMap (Lint.unusedRemark? m.project.language) := by
  have hkept : ∀ ds : List Diagnostic, (∀ d ∈ ds, d.severity = .warning) →
      ds.filter (·.severity == .warning) = ds :=
    fun ds h => List.filter_eq_self.mpr fun d hd => beq_iff_eq.mpr (h d hd)
  have hdropped : ∀ ds : List Diagnostic, (∀ d ∈ ds, d.severity ≠ .warning) →
      ds.filter (·.severity == .warning) = [] :=
    fun ds h => List.filter_eq_nil_iff.mpr fun d hd => by simpa using h d hd
  simp only [ofSeverity, lint, diagnostics_remark, Lint.builtin, List.nil_append,
    List.flatMap_cons, List.flatMap_nil, List.append_nil, List.filter_append]
  rw [hkept _ fun _ => Lint.severity_of_mem_nonRecordBuilder,
    hkept _ fun _ => Lint.severity_of_mem_unusedConstructor,
    hdropped _ fun _ => Lint.severity_of_mem_reservedWord,
    hdropped _ fun _ => Lint.severity_of_mem_emptyRecord, List.nil_append, List.nil_append,
    Lint.nonRecordBuilder_check, Lint.unusedConstructor_check]

theorem warningsAt_loweredRound (m : Manifest) (location : String) :
    m.loweredRound.warningsAt location =
      (m.types.filterMap Lint.nonRecordRemark?).filter (·.location = some location) ++
        (m.types.filterMap (Lint.unusedRemark? m.project.language)).filter
          (·.location = some location) := by
  have hlowered : m.loweredRound.ofSeverity .warning =
      (({ manifest := m } : Round).lint Lint.builtin).ofSeverity .warning := rfl
  rw [warningsAt, hlowered, warnings_lint, List.filter_append]

theorem lowerManifest_eq_filterMap (m : Manifest) : lowerManifest m =
    m.types.filterMap fun t => if t.2.wantsBuilder then some (lowerRecord t.1 t.2) else none := by
  simp only [lowerManifest, Manifest.marked, List.filterMap_filter]
  congr 1
  funext t
  by_cases hb : t.2.builder = true <;> simp [hb, TypeDecl.wantsBuilder]

end Round

/-! ### What is said about a type -/

theorem Lint.typeLocation_inj {a b : String} : typeLocation a = typeLocation b ↔ a = b :=
  String.append_right_inj _

/-- Constructors have places of their own, because names have no dots. -/
theorem Lint.constructorLocation_ne {a b : String} (ha : Text.isIdentifier a = true) :
    typeLocation b ++ ".constructor" ≠ typeLocation a := by
  intro heq
  rw [typeLocation, typeLocation, String.append_assoc, String.append_right_inj] at heq
  exact Text.not_mem_of_isIdentifier ha (c := '.') (by decide) (by simp [← heq])

namespace Manifest

section Declared

variable {m : Manifest} (hnodup : (m.types.map Prod.fst).Nodup) {t : String × TypeDecl}
  (ht : t ∈ m.types)
include hnodup ht

theorem filter_lowerManifest : (Round.lowerManifest m).filter (·.name = t.1) =
    if t.2.wantsBuilder then [Round.lowerRecord t.1 t.2] else [] := by
  rw [Round.lowerManifest_eq_filterMap, filter_filterMap_of_nodup hnodup ht]
  · split <;> rfl
  · intro u _ r hr
    rw [Option.ite_none_right_eq_some] at hr
    rw [← Option.some.inj hr.2, decide_eq_true_iff]
    rfl

variable (hids : ∀ u ∈ m.types, Text.isIdentifier u.1 = true)
include hids

theorem warningsAt_type :
    m.loweredRound.warningsAt (typeLocation t.1) = (Lint.nonRecordRemark? t).toList := by
  have hunused : (m.types.filterMap (Lint.unusedRemark? m.project.language)).filter
      (·.location = some (typeLocation t.1)) = [] := by
    rw [List.filter_eq_nil_iff]
    intro d hd hlocation
    obtain ⟨u, hu, hud⟩ := List.mem_filterMap.mp hd
    obtain ⟨c, reason, -, -, rfl⟩ := Lint.unusedRemark?_eq_some_iff.mp hud
    rw [decide_eq_true_iff] at hlocation
    exact Lint.constructorLocation_ne (hids t ht) (Option.some.inj hlocation)
  rw [Round.warningsAt_loweredRound, hunused, List.append_nil]
  refine filter_filterMap_of_nodup hnodup ht fun u _ d hd => ?_
  rw [(Lint.nonRecordRemark?_eq_some_iff.mp hd).2, decide_eq_true_iff]
  exact Option.some_inj.trans Lint.typeLocation_inj

theorem warningsAt_constructor :
    m.loweredRound.warningsAt (typeLocation t.1 ++ ".constructor") =
      (Lint.unusedRemark? m.project.language t).toList := by
  have hnonRecord : (m.types.filterMap Lint.nonRecordRemark?).filter
      (·.location = some (typeLocation t.1 ++ ".constructor")) = [] := by
    rw [List.filter_eq_nil_iff]
    intro d hd hlocation
    obtain ⟨u, hu, hud⟩ := List.mem_filterMap.mp hd
    rw [(Lint.nonRecordRemark?_eq_some_iff.mp hud).2, decide_eq_true_iff] at hlocation
    exact Lint.constructorLocation_ne (hids u hu) (Option.some.inj hlocation).symm
  rw [Round.warningsAt_loweredRound, hnonRecord, List.nil_append]
  refine filter_filterMap_of_nodup hnodup ht fun u _ d hd => ?_
  obtain ⟨c, reason, -, -, rfl⟩ := Lint.unusedRemark?_eq_some_iff.mp hd
  rw [decide_eq_true_iff]
  exact Option.some_inj.trans ((String.append_left_inj _).trans Lint.typeLocation_inj)

end Declared

/-! ### Accounting for entries -/

/-- The builder of a struct, which is generated for one of the records, calls the declared
constructor, and returns what it does: the record, unless something else is declared. -/
def CallsConstructor (language : Language) (records : List Record) (name : String)
    (c : ConstructorDecl) : Prop :=
  language = .rust ∧ ∃ r ∈ records, r.name = name ∧ r.CallsFunction c.name (c.returns.getD name)

/-- What became of the entries of a type. -/
structure Accounted (language : Language) (round : Round) (records : List Record) (name : String)
    (decl : TypeDecl) : Prop where
  /-- A marked type was lowered to one record, or there is one warning that it is no record; -/
  marked : decl.builder = true →
    records.filter (·.name = name) = [Round.lowerRecord name decl] ∧
        round.warningsAt (typeLocation name) = [] ∨
      records.filter (·.name = name) = [] ∧
        round.warningsAt (typeLocation name) = [Lint.nonRecordRemark name decl.kind]
  /-- any other type was neither lowered nor warned of. -/
  unmarked : decl.builder = false →
    records.filter (·.name = name) = [] ∧ round.warningsAt (typeLocation name) = []
  /-- A constructor is called, or there is one warning that it is not. -/
  constructor : ∀ c, decl.constructor = some c →
    (∃ reason, Lint.constructorIgnored? language decl = some reason ∧
        round.warningsAt (typeLocation name ++ ".constructor") =
          [Lint.unusedRemark name c.name reason]) ∧
        ¬ CallsConstructor language records name c ∨
      round.warningsAt (typeLocation name ++ ".constructor") = [] ∧
        CallsConstructor language records name c
  noConstructor : decl.constructor = none →
    round.warningsAt (typeLocation name ++ ".constructor") = []

/-- The manifest with other constructors. -/
def withConstructors (m : Manifest) (declared : String → Option ConstructorDecl) : Manifest :=
  { m with types := m.types.map fun t => (t.1, { t.2 with constructor := declared t.1 }) }

/-- The builders of classes are the same whatever constructors are declared. -/
theorem files_withConstructors {m : Manifest} (hjava : m.project.language = .java)
    (declared : String → Option ConstructorDecl) (stamp : Stamp) :
    (m.withConstructors declared).generator.files stamp = m.generator.files stamp := by
  simp only [Generator.files, generator, hjava, Round.lowerManifest_eq_filterMap,
    withConstructors, List.map_filterMap, List.filterMap_map]
  congr 1
  funext t
  -- whether a type is lowered does not depend on its constructor
  have hwants : ({ t.2 with constructor := declared t.1 } : TypeDecl).wantsBuilder =
      t.2.wantsBuilder := rfl
  simp only [Function.comp_apply, hwants]
  split
  next =>
    exact congrArg some
      (Record.builderFile_java_congr (Round.lowerRecord t.1 t.2) (Round.lowerConstructor _) stamp)
  next => rfl

theorem constructorIgnored?_eq_none_iff {language : Language} {decl : TypeDecl} :
    Lint.constructorIgnored? language decl = none ↔
      decl.wantsBuilder = true ∧ language = .rust := by
  cases language <;> cases hwants : decl.wantsBuilder <;> simp [Lint.constructorIgnored?, hwants]

section Accepted

variable {text : String} {m : Manifest} (hm : parse text = .ok m) (language : Option Language)

include hm in
theorem nodup_types_withLanguage : ((m.withLanguage language).types.map Prod.fst).Nodup := by
  rw [types_withLanguage]
  exact nodup_types_of_parse hm

variable {path : String} (hvalid : ((m.withLanguage language).verdict path).isValid = true)
  {t : String × TypeDecl} (ht : t ∈ m.types)
include hm hvalid ht

/-- A constructor is called if no reason is given why it is not. -/
theorem callsConstructor_iff {c : ConstructorDecl} (hc : t.2.constructor = some c) :
    CallsConstructor (m.withLanguage language).project.language
        (Round.lowerManifest (m.withLanguage language)) t.1 c ↔
      Lint.constructorIgnored? (m.withLanguage language).project.language t.2 = none := by
  have ht' : t ∈ (m.withLanguage language).types := by rwa [types_withLanguage]
  have hlowered := filter_lowerManifest (nodup_types_withLanguage hm language) ht'
  rw [constructorIgnored?_eq_none_iff]
  refine ⟨fun h => ?_, fun h => ?_⟩
  · obtain ⟨hrust, r, hr, hname, -⟩ := h
    have hmem : r ∈ (Round.lowerManifest (m.withLanguage language)).filter (·.name = t.1) :=
      List.mem_filter.mpr ⟨hr, decide_eq_true hname⟩
    rw [hlowered] at hmem
    split at hmem
    next hwants => exact ⟨hwants, hrust⟩
    next => cases hmem
  · obtain ⟨hwants, hrust⟩ := h
    rw [if_pos hwants] at hlowered
    have hmem : Round.lowerRecord t.1 t.2 ∈ Round.lowerManifest (m.withLanguage language) := by
      refine List.mem_of_mem_filter (p := (·.name = t.1)) ?_
      rw [hlowered]
      exact List.mem_singleton_self _
    have hconforms := (violation?_eq_none_iff.mp (parse_eq_ok_iff.mp hm).2).types t ht
    have hnames := hasUsableNames_of_no_errors (verdict_isValid_iff.mp hvalid)
      (List.mem_filter.mpr ⟨ht', hwants⟩)
    rw [hrust] at hnames
    refine ⟨hrust, _, hmem, rfl, ?_⟩
    exact Record.callsFunction (Round.isUsable_lowerRecord hconforms hnames)
      (by simp [Round.lowerRecord, Round.lowerConstructor, hc])

/-- Every entry of a type is accounted for. -/
theorem accounted : Accounted (m.withLanguage language).project.language
    (m.withLanguage language).loweredRound (Round.lowerManifest (m.withLanguage language)) t.1
    t.2 := by
  have hnodup := nodup_types_withLanguage hm language
  have hids : ∀ u ∈ (m.withLanguage language).types, Text.isIdentifier u.1 = true := by
    rw [types_withLanguage]
    exact fun u hu => Text.isIdentifier_iff.mpr
      ((violation?_eq_none_iff.mp (parse_eq_ok_iff.mp hm).2).types u hu).name
  have ht' : t ∈ (m.withLanguage language).types := by rwa [types_withLanguage]
  have hlowered := filter_lowerManifest hnodup ht'
  have htype := warningsAt_type hnodup ht' hids
  have hconstructor := warningsAt_constructor hnodup ht' hids
  exact {
    marked := by
      intro hb
      rw [hlowered, htype]
      by_cases hk : t.2.kind = .record
      · exact Or.inl (by simp [TypeDecl.wantsBuilder, Lint.nonRecordRemark?, hb, hk])
      · exact Or.inr (by simp [TypeDecl.wantsBuilder, Lint.nonRecordRemark?, hb, hk])
    unmarked := by
      intro hb
      rw [hlowered, htype]
      simp [TypeDecl.wantsBuilder, Lint.nonRecordRemark?, hb]
    constructor := by
      intro c hc
      rw [hconstructor, callsConstructor_iff hm language hvalid ht hc]
      cases hreason : Lint.constructorIgnored? (m.withLanguage language).project.language t.2 with
      | none => exact Or.inr (by simp [Lint.unusedRemark?, hc, hreason])
      | some reason => exact Or.inl (by simp [Lint.unusedRemark?, hc, hreason])
    noConstructor := by
      intro hc
      rw [hconstructor]
      simp [Lint.unusedRemark?, hc] }

end Accepted

/-- **Nothing is ignored silently.** When the pipeline accepts a manifest, in its own language
or in another one, every marked type was lowered to one record or is named by one warning, and
every constructor is called or named by one warning. Nothing else is lowered or warned of. The
builders of classes do not depend on constructors at all. -/
theorem entries_accounted {text : String} {m : Manifest} (hm : parse text = .ok m)
    (language : Option Language) {σ : Type} {s s' : σ} {round : Round}
    (hrun : (({} : Pipeline σ).run (m.withLanguage language)).runOn s = (.ok round, s')) :
    let target := (m.withLanguage language).project.language
    ∃ records, round.records = some records ∧
      (∀ t ∈ m.types, Accounted target round records t.1 t.2) ∧
      (∀ r ∈ records, ∃ t ∈ m.types, t.2.builder = true ∧ t.1 = r.name) ∧
      (∀ w ∈ round.ofSeverity .warning, ∃ t ∈ m.types,
        w.location = some (typeLocation t.1) ∧ t.2.builder = true ∨
          w.location = some (typeLocation t.1 ++ ".constructor") ∧ t.2.constructor.isSome) ∧
      (target = .java → ∀ declared stamp,
        ((m.withLanguage language).withConstructors declared).generator.files stamp =
          (m.withLanguage language).generator.files stamp) := by
  intro target
  obtain ⟨hvalid, rfl, -⟩ := (runOn_pipeline_eq_ok_iff "").mp hrun
  refine ⟨_, rfl, fun t ht => accounted hm language hvalid ht, fun r hr => ?_, fun w hw => ?_,
    files_withConstructors⟩
  · change r ∈ Round.lowerManifest (m.withLanguage language) at hr
    rw [Round.lowerManifest_eq_filterMap, types_withLanguage] at hr
    obtain ⟨t, ht, hlowered⟩ := List.mem_filterMap.mp hr
    rw [Option.ite_none_right_eq_some, TypeDecl.wantsBuilder, Bool.and_eq_true] at hlowered
    obtain ⟨⟨hb, -⟩, hr⟩ := hlowered
    exact ⟨t, ht, hb, by rw [← Option.some.inj hr]; rfl⟩
  · change w ∈ (({ manifest := m.withLanguage language } : Round).lint Lint.builtin).ofSeverity
      .warning at hw
    rw [Round.warnings_lint, types_withLanguage, List.mem_append, List.mem_filterMap,
      List.mem_filterMap] at hw
    rcases hw with ⟨t, ht, hw⟩ | ⟨t, ht, hw⟩
    · obtain ⟨⟨hb, -⟩, rfl⟩ := Lint.nonRecordRemark?_eq_some_iff.mp hw
      exact ⟨t, ht, Or.inl ⟨rfl, hb⟩⟩
    · obtain ⟨c, reason, hc, -, rfl⟩ := Lint.unusedRemark?_eq_some_iff.mp hw
      exact ⟨t, ht, Or.inr ⟨rfl, by rw [hc]; rfl⟩⟩

/-- The manifest of a struct with a constructor, and of a marked type that is no record. -/
def markedClass : Manifest where
  project := { name := "p", language := .rust }
  types := [
    ("Point", { builder := true, constructor := some { name := "of", returns := some "Self" } }),
    ("Shape", { kind := .class, builder := true })]

set_option maxRecDepth 100000 in
/-- The class is warned of, and the constructor of the struct is called. -/
theorem marked_class_accounted :
    ∃ text round records, parse text = .ok markedClass ∧
      (({} : Pipeline Unit).run markedClass).runOn () = (.ok round, ()) ∧
      round.records = some records ∧
      round.warningsAt "types.Shape" = [Lint.nonRecordRemark "Shape" .class] ∧
      CallsConstructor .rust records "Point" { name := "of", returns := some "Self" } := by
  have hparse : parse
      ("[project]\nname = \"p\"\nlanguage = \"rust\"\n[types.Point]\nbuilder = true\n" ++
        "constructor = \x7bname=\"of\",returns=\"Self\"\x7d\n" ++
        "[types.Shape]\nkind = \"class\"\nbuilder = true\n") = .ok markedClass := by rfl
  have hrun : (({} : Pipeline Unit).run (markedClass.withLanguage none)).runOn () =
      (.ok markedClass.loweredRound, ()) := by rfl
  obtain ⟨records, hrecords, haccounted, -⟩ := entries_accounted hparse none hrun
  obtain rfl : Round.lowerManifest markedClass = records := Option.some.inj hrecords
  have hpoint := haccounted _ List.mem_cons_self
  have hshape := haccounted _ (List.mem_cons_of_mem _ List.mem_cons_self)
  refine ⟨_, _, _, hparse, hrun, hrecords, ?_, ?_⟩
  · exact (hshape.marked rfl).elim (fun h => absurd h.1 (by decide)) And.right
  · exact (hpoint.constructor _ rfl).elim (fun ⟨⟨_, hreason, _⟩, _⟩ => nomatch hreason) And.right

end Manifest
end BuilderGen
