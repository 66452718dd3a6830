import BuilderGen.Manifest.Load
import BuilderGen.Proofs.Manifest.FirstBreach
import BuilderGen.Proofs.Text.Identifier
import Mathlib.Tactic.ByContra
import Mathlib.Tactic.Tauto

/-!
# BuilderGen.Proofs.Manifest.Grammar

**The grammar of manifests**, and that checking a manifest decides it. `Conforms`
says which manifests keep the rules, without an order; `Breach` lists the rules that
a manifest breaks, each at its place. The check finds nothing exactly when the
manifest conforms, and otherwise the breach at the first place.

A package is given by a grammar of its own: identifiers joined by a separator. The
check cuts the package instead; no identifier holds a character of a separator, so
the two agree (`isPackage_iff`).
-/

namespace BuilderGen

open Text (IsIdentifier isIdentifier_iff)

/-! ### Packages -/

/-- A package in the syntax of a separator: no package at all, or identifiers with
the separator between neighbours. -/
def IsPackage (separator package : String) : Prop :=
  package = "" ∨ ∃ names : List String, names ≠ [] ∧ (∀ name ∈ names, IsIdentifier name) ∧
    package = Text.joinWith separator names

/-- Separators start with a character that no identifier holds. -/
theorem Language.separator_head (language : Language) :
    ∃ d ds, language.separator.toList = d :: ds ∧ Text.isIdentifierRest d = false := by
  cases language with
  | java => exact ⟨'.', [], rfl, rfl⟩
  | rust => exact ⟨':', [':'], rfl, rfl⟩

/-- The segments of a package are the identifiers it is joined from. -/
theorem segments_eq_iff_of_identifiers (language : Language) {package : String}
    {names : List String} (h : ∀ name ∈ names, Text.isIdentifier name = true) :
    Text.segments language.separator package = names ↔
      names ≠ [] ∧ package = Text.joinWith language.separator names := by
  obtain ⟨d, ds, hsep, hd⟩ := language.separator_head
  exact Text.segments_eq_iff hsep fun name hname => Text.not_mem_of_isIdentifier (h name hname) hd

/-- Cutting a package at the separator decides the grammar of packages. -/
theorem isPackage_iff (language : Language) {package : String} :
    isPackage language.separator package = true ↔ IsPackage language.separator package := by
  simp only [isPackage, IsPackage, Bool.or_eq_true, String.isEmpty_iff, List.all_eq_true]
  refine or_congr_right ⟨fun h => ?_, fun h => ?_⟩
  · obtain ⟨hne, heq⟩ := (segments_eq_iff_of_identifiers language h).mp rfl
    exact ⟨_, hne, fun name hname => isIdentifier_iff.mp (h name hname), heq⟩
  · obtain ⟨names, hne, hnames, heq⟩ := h
    have hid : ∀ name ∈ names, Text.isIdentifier name = true :=
      fun name hname => isIdentifier_iff.mpr (hnames name hname)
    rw [(segments_eq_iff_of_identifiers language hid).mpr ⟨hne, heq⟩]
    exact hid

/-! ### Manifests that keep the rules -/

/-- A declared type that keeps the rules. -/
structure TypeDecl.Conforms (separator name : String) (decl : TypeDecl) : Prop where
  name : IsIdentifier name
  package : IsPackage separator decl.package
  components : ∀ c ∈ decl.components, IsIdentifier c.name
  /-- The type of a component holds a character that is no blank. -/
  types : ∀ c ∈ decl.components, ∃ ch ∈ c.type.toList, Text.isBlank ch = false
  distinct : (decl.components.map (·.name)).Nodup
  constructor : ∀ k, decl.constructor = some k → IsIdentifier k.name

/-- A manifest that keeps the rules. -/
structure Manifest.Conforms (m : Manifest) : Prop where
  project : Text.trim m.project.name ≠ ""
  types : ∀ t ∈ m.types, t.2.Conforms m.project.language.separator t.1

/-! ### Broken rules

The place of a rule within its part of a manifest is the order in which the parts
are looked at: of a manifest the project (`[0]`) and the types (`[1, i, ..]`), of a
type its name (`[0]`), its package (`[1]`), its components (`[2, j, ..]`) and its
constructor (`[3]`), of a component its name (`[0]`), its type (`[1]`) and whether it
is new (`[2]`). -/

/-- What is wrong with a component of a type; `earlier` are the names of the ones
before it. -/
inductive ComponentDecl.Breach (record : String) (earlier : List String) (c : ComponentDecl) :
    Place → Violation → Prop
  | name : ¬ IsIdentifier c.name → Breach record earlier c [0] (.componentName record c.name)
  | type : (∀ ch ∈ c.type.toList, Text.isBlank ch = true) →
      Breach record earlier c [1] (.missingType record c.name)
  | repetition : c.name ∈ earlier →
      Breach record earlier c [2] (.duplicateComponent record c.name)

/-- What is wrong with a declared type. -/
inductive TypeDecl.Breach (separator name : String) (decl : TypeDecl) : Place → Violation → Prop
  | name : ¬ IsIdentifier name → Breach separator name decl [0] (.typeName name)
  | package : ¬ IsPackage separator decl.package →
      Breach separator name decl [1] (.package name decl.package)
  | component {j : Nat} {c : ComponentDecl} {place : Place} {v : Violation} :
      decl.components[j]? = some c →
      c.Breach name ((decl.components.take j).map (·.name)) place v →
      Breach separator name decl (2 :: j :: place) v
  | constructor {k : ConstructorDecl} : decl.constructor = some k → ¬ IsIdentifier k.name →
      Breach separator name decl [3] (.constructorName name k.name)

/-- What is wrong with a manifest. -/
inductive Manifest.Breach (m : Manifest) : Place → Violation → Prop
  | project : Text.trim m.project.name = "" → Breach m [0] .namelessProject
  | type {i : Nat} {name : String} {decl : TypeDecl} {place : Place} {v : Violation} :
      m.types[i]? = some (name, decl) → decl.Breach m.project.language.separator name place v →
      Breach m (1 :: i :: place) v

/-! ### The check finds the first breach -/

/-- What is wrong with a component only depends on which names came before. -/
theorem ComponentDecl.Breach.of_names {record : String} {earlier earlier' : List String}
    {c : ComponentDecl} {place : Place} {v : Violation} (h : c.Breach record earlier place v)
    (hnames : ∀ name, name ∈ earlier → name ∈ earlier') : c.Breach record earlier' place v := by
  cases h with
  | name hn => exact .name hn
  | type ht => exact .type ht
  | repetition hr => exact .repetition (hnames _ hr)

/-- The first violation of a component, where `seen` are the names of the ones
before. -/
def ComponentDecl.violation? (record : String) (seen : List String) (c : ComponentDecl) :
    Option Violation :=
  violationUnless (Text.isIdentifier c.name) (.componentName record c.name) <|>
  violationUnless (!Text.isBlankText c.type) (.missingType record c.name) <|>
  violationUnless (!seen.contains c.name) (.duplicateComponent record c.name)

theorem componentViolation?_cons (record : String) (seen : List String) (c : ComponentDecl)
    (rest : List ComponentDecl) :
    componentViolation? record seen (c :: rest) =
      (c.violation? record seen <|> componentViolation? record (c.name :: seen) rest) := by
  rw [componentViolation?, ComponentDecl.violation?]
  cases violationUnless (Text.isIdentifier c.name) (.componentName record c.name) <;>
    cases violationUnless (!Text.isBlankText c.type) (.missingType record c.name) <;> rfl

/-- Checking a component finds its first breach. -/
theorem ComponentDecl.first_violation? (record : String) (seen : List String) (c : ComponentDecl) :
    First (c.Breach record seen) (c.violation? record seen) := by
  refine (First.orElse (First.check (n := 0)) (First.orElse (First.check (n := 1))
    (First.check (n := 2)) ?_) ?_).congr fun place v => ⟨fun h => ?_, fun h => ?_⟩
  · intro p q v w hp hq
    obtain ⟨rfl, -⟩ := hp
    obtain ⟨rfl, -⟩ := hq
    exact Or.inl (by omega)
  · intro p q v w hp hq
    obtain ⟨rfl, -⟩ := hp
    rcases hq with ⟨rfl, -⟩ | ⟨rfl, -⟩ <;> exact Or.inl (by omega)
  · rcases h with ⟨rfl, h, rfl⟩ | ⟨rfl, h, rfl⟩ | ⟨rfl, h, rfl⟩
    · exact .name (by rw [← isIdentifier_iff, h]; simp)
    · exact .type (by simpa [Text.isBlankText] using h)
    · exact .repetition (by simpa using h)
  · cases h with
    | name h => exact Or.inl ⟨rfl, by rwa [← isIdentifier_iff, Bool.not_eq_true] at h, rfl⟩
    | type h => exact Or.inr (Or.inl ⟨rfl, by simpa [Text.isBlankText] using h, rfl⟩)
    | repetition h => exact Or.inr (Or.inr ⟨rfl, by simpa using h, rfl⟩)

theorem first_componentViolation? (record : String) :
    ∀ (cs : List ComponentDecl) (seen : List String),
      First (InItems cs fun c j => c.Breach record (seen ++ (cs.take j).map (·.name)))
        (componentViolation? record seen cs)
  | [], seen => First.nothing.congr fun place v => by simp [InItems]
  | c :: rest, seen => by
      rw [componentViolation?_cons]
      refine First.cons ?_ ((first_componentViolation? record rest (c.name :: seen)).congr
        fun place v => ?_)
      · simpa using c.first_violation? record seen
      -- the names before a later component are the same, in another order
      · refine exists_congr fun j => exists_congr fun inner => and_congr_right fun _ =>
          exists_congr fun d => and_congr_right fun _ => ⟨fun h => ?_, fun h => ?_⟩
        · exact h.of_names fun name => by simp; tauto
        · exact h.of_names fun name => by simp; tauto

theorem first_constructorViolation? (record : String) (constructor : Option ConstructorDecl) :
    First (fun place v => ∃ k, constructor = some k ∧ place = [3] ∧ ¬ IsIdentifier k.name ∧
      v = .constructorName record k.name) (constructorViolation? record constructor) := by
  cases constructor with
  | none => exact First.nothing.congr fun place v => by simp
  | some k =>
      refine (First.check (n := 3)).congr fun place v => ?_
      simp [← isIdentifier_iff]

theorem TypeDecl.first_violation? (language : Language) (name : String) (decl : TypeDecl) :
    First (decl.Breach language.separator name) (typeViolation? language.separator name decl) := by
  refine (First.orElse (First.check (n := 0)) (First.orElse (First.check (n := 1))
    (First.orElse ((first_componentViolation? name decl.components []).nest 2)
      (first_constructorViolation? name decl.constructor) ?_) ?_) ?_).congr
        fun place v => ⟨fun h => ?_, fun h => ?_⟩
  -- the parts of a type are searched in the order of their places
  · intro p q v w hp hq
    obtain ⟨_, rfl, -⟩ := hp
    obtain ⟨_, -, rfl, -⟩ := hq
    exact Or.inl (by omega)
  · intro p q v w hp hq
    obtain ⟨rfl, -⟩ := hp
    rcases hq with ⟨_, rfl, -⟩ | ⟨_, -, rfl, -⟩ <;> exact Or.inl (by omega)
  · intro p q v w hp hq
    obtain ⟨rfl, -⟩ := hp
    rcases hq with ⟨rfl, -⟩ | ⟨_, rfl, -⟩ | ⟨_, -, rfl, -⟩ <;> exact Or.inl (by omega)
  · rcases h with ⟨rfl, h, rfl⟩ | ⟨rfl, h, rfl⟩ | ⟨_, rfl, j, inner, rfl, c, hc, h⟩ |
      ⟨k, hk, rfl, h, rfl⟩
    · exact .name (by rw [← isIdentifier_iff, h]; simp)
    · exact .package (by rw [← isPackage_iff, h]; simp)
    · exact .component hc h
    · exact .constructor hk h
  · cases h with
    | name h => exact Or.inl ⟨rfl, by rwa [← isIdentifier_iff, Bool.not_eq_true] at h, rfl⟩
    | package h =>
        exact Or.inr (Or.inl ⟨rfl, by rwa [← isPackage_iff, Bool.not_eq_true] at h, rfl⟩)
    | component hc h => exact Or.inr (Or.inr (Or.inl ⟨_, rfl, _, _, rfl, _, hc, h⟩))
    | constructor hk h => exact Or.inr (Or.inr (Or.inr ⟨_, hk, rfl, h, rfl⟩))

/-- Checking a manifest finds its first breach. -/
theorem Manifest.first_violation? (m : Manifest) : First m.Breach m.violation? := by
  have htypes := First.findSome? (l := m.types) fun t : String × TypeDecl =>
    TypeDecl.first_violation? m.project.language t.1 t.2
  refine (First.orElse (First.check (n := 0)) (htypes.nest 1) ?_).congr
    fun place v => ⟨fun h => ?_, fun h => ?_⟩
  · intro p q v w hp hq
    obtain ⟨rfl, -⟩ := hp
    obtain ⟨_, rfl, -⟩ := hq
    exact Or.inl (by omega)
  · rcases h with ⟨rfl, h, rfl⟩ | ⟨_, rfl, i, inner, rfl, t, ht, h⟩
    · exact .project (by simpa [Text.trim_eq_empty_iff] using h)
    · exact .type ht h
  · cases h with
    | project h => exact Or.inl ⟨rfl, by simpa [Text.trim_eq_empty_iff] using h, rfl⟩
    | type ht h => exact Or.inr ⟨_, rfl, _, _, rfl, _, ht, h⟩

/-! ### The check decides the grammar -/

/-- Names are distinct when none of them is among the ones before it. -/
theorem nodup_iff_not_mem_take {names : List String} :
    names.Nodup ↔ ∀ (j : Nat) (name : String), names[j]? = some name → name ∉ names.take j := by
  simp only [List.Nodup, List.pairwise_iff_getElem, List.mem_take_iff_getElem, not_exists]
  refine ⟨fun h => ?_, fun h => ?_⟩
  · intro j name hj i hi heq
    obtain ⟨hlt, rfl⟩ := List.getElem?_eq_some_iff.mp hj
    exact h i j (by omega) hlt (by omega) heq
  · intro i j hi hj hij heq
    exact h j _ (List.getElem?_eq_getElem hj) i (by omega) heq

/-- A type keeps the rules when it breaks none. -/
theorem TypeDecl.conforms_iff {separator name : String} {decl : TypeDecl} :
    decl.Conforms separator name ↔ ∀ place v, ¬ decl.Breach separator name place v := by
  refine ⟨fun h => ?_, fun h => ?_⟩
  · intro place v hb
    cases hb with
    | name hn => exact hn h.name
    | package hp => exact hp h.package
    | component hc hb =>
        cases hb with
        | name hn => exact hn (h.components _ (List.mem_of_getElem? hc))
        | type ht =>
            obtain ⟨ch, hmem, hblank⟩ := h.types _ (List.mem_of_getElem? hc)
            rw [ht ch hmem] at hblank
            cases hblank
        | repetition hr =>
            refine nodup_iff_not_mem_take.mp h.distinct _ _ ?_ (List.map_take ▸ hr)
            rw [List.getElem?_map, hc]
            rfl
    | constructor hk hn => exact hn (h.constructor _ hk)
  · -- the rules on components name the one that breaks them by its position
    have hcomponent : ∀ {j : Nat} {c : ComponentDecl} {place : Place} {v : Violation},
        decl.components[j]? = some c →
          ¬ c.Breach name ((decl.components.take j).map (·.name)) place v :=
      fun hc hb => h _ _ (.component hc hb)
    refine
      { name := Classical.byContradiction fun hn => h _ _ (.name hn)
        package := Classical.byContradiction fun hp => h _ _ (.package hp)
        components := fun c hc => ?_
        types := fun c hc => ?_
        distinct := nodup_iff_not_mem_take.mpr fun j n hj hmem => ?_
        constructor := fun k hk => Classical.byContradiction fun hn => h _ _ (.constructor hk hn) }
    · obtain ⟨j, hj⟩ := List.mem_iff_getElem?.mp hc
      exact Classical.byContradiction fun hn => hcomponent hj (.name hn)
    · obtain ⟨j, hj⟩ := List.mem_iff_getElem?.mp hc
      by_contra ht
      refine hcomponent hj (.type fun ch hmem => ?_)
      by_contra hblank
      exact ht ⟨ch, hmem, by simpa using hblank⟩
    · rw [List.getElem?_map, Option.map_eq_some_iff] at hj
      obtain ⟨c, hc, rfl⟩ := hj
      exact hcomponent hc (.repetition (List.map_take ▸ hmem))

theorem Manifest.conforms_iff {m : Manifest} : m.Conforms ↔ ∀ place v, ¬ m.Breach place v := by
  refine ⟨fun h => ?_, fun h => ?_⟩
  · intro place v hb
    cases hb with
    | project hp => exact h.project hp
    | type ht hb => exact TypeDecl.conforms_iff.mp (h.types _ (List.mem_of_getElem? ht)) _ _ hb
  · refine ⟨fun hp => h _ _ (.project hp), fun t ht => TypeDecl.conforms_iff.mpr fun _ _ hb => ?_⟩
    obtain ⟨i, hi⟩ := List.mem_iff_getElem?.mp ht
    exact h _ _ (.type hi hb)

/-- Nothing is found in a manifest exactly when it keeps the rules. -/
theorem Manifest.violation?_eq_none_iff {m : Manifest} : m.violation? = none ↔ m.Conforms := by
  have hfirst := m.first_violation?
  rw [conforms_iff]
  refine ⟨fun h => ?_, fun h => ?_⟩
  · rwa [h] at hfirst
  · cases hv : m.violation? with
    | none => rfl
    | some v =>
        rw [hv] at hfirst
        obtain ⟨place, hb, -⟩ := hfirst
        exact absurd hb (h place v)

/-- At one place at most one thing is wrong. -/
theorem Manifest.Breach.unique {m : Manifest} {place : Place} {v w : Violation}
    (hv : m.Breach place v) (hw : m.Breach place w) : v = w := by
  cases hv with
  | project => cases hw; rfl
  | type ht hv =>
      cases hw with
      | type ht' hw =>
          obtain ⟨rfl, rfl⟩ := Prod.mk.inj (Option.some.inj (ht.symm.trans ht'))
          cases hv with
          | name | package => cases hw; rfl
          | constructor hk =>
              cases hw with
              | constructor hk' => rw [Option.some.inj (hk.symm.trans hk')]
          | component hc hv =>
              cases hw with
              | component hc' hw =>
                  obtain rfl := Option.some.inj (hc.symm.trans hc')
                  cases hv <;> cases hw <;> rfl

/-- **Checking a manifest decides its grammar and finds the first breach.** -/
theorem Manifest.violation?_decides_grammar (m : Manifest) :
    (m.violation? = none ↔ m.Conforms) ∧
      ∀ v, m.violation? = some v ↔
        ∃ place, m.Breach place v ∧ ∀ other w, m.Breach other w → place.UpTo other := by
  refine ⟨violation?_eq_none_iff, fun v => ⟨fun h => ?_, fun h => ?_⟩⟩
  · have hfirst := m.first_violation?
    rwa [h] at hfirst
  · obtain ⟨place, hb, hle⟩ := h
    have hfirst := m.first_violation?
    cases hv : m.violation? with
    | none =>
        rw [hv] at hfirst
        exact absurd hb (hfirst place v)
    | some w =>
        rw [hv] at hfirst
        -- both breaches come before each other, so their places are the same
        obtain ⟨place', hb', hle'⟩ := hfirst
        obtain rfl := (hle place' w hb').antisymm (hle' place v hb)
        rw [hb.unique hb']

end BuilderGen
