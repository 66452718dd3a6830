import BuilderGen.Toml.Table
import Mathlib.Data.List.Nodup

/-!
# BuilderGen.Proofs.Toml.Keys

**Distinct keys.** In a table and in all tables of its values, keys are distinct
(`DistinctKeys`), and they stay so when something is added. A table is changed at a single
key (`DistinctKeys.alter?`), which a path of keys may lead to (`DistinctKeys.descend?`), or
gets a key that it has not got yet (`DistinctKeys.concat`).
-/

namespace BuilderGen.Toml

mutual

/-- In all tables of a value, keys are distinct. -/
def Value.IsDistinct : Value → Prop
  | .list items => AreDistinct items
  | .tables items => AreDistinctKeys items
  | .table _ entries => DistinctKeys entries
  | _ => True

/-- In all tables of some values, keys are distinct. -/
def AreDistinct : List Value → Prop
  | [] => True
  | item :: rest => item.IsDistinct ∧ AreDistinct rest

/-- Keys are distinct in some tables, and in all tables of their values. -/
def AreDistinctKeys : List Entries → Prop
  | [] => True
  | entries :: rest => DistinctKeys entries ∧ AreDistinctKeys rest

/-- Keys are distinct in a table, and in all tables of its values. -/
def DistinctKeys : Entries → Prop
  | [] => True
  | (key, value) :: rest => key ∉ rest.map Prod.fst ∧ value.IsDistinct ∧ DistinctKeys rest

end

theorem areDistinct_iff {items : List Value} :
    AreDistinct items ↔ ∀ item ∈ items, item.IsDistinct := by
  induction items with
  | nil => simp [AreDistinct]
  | cons item rest ih => simp [AreDistinct, ih]

theorem areDistinctKeys_iff {items : List Entries} :
    AreDistinctKeys items ↔ ∀ entries ∈ items, DistinctKeys entries := by
  induction items with
  | nil => simp [AreDistinctKeys]
  | cons entries rest ih => simp [AreDistinctKeys, ih]

theorem distinctKeys_iff {entries : Entries} :
    DistinctKeys entries ↔
      (entries.map Prod.fst).Nodup ∧ ∀ entry ∈ entries, entry.2.IsDistinct := by
  induction entries with
  | nil => simp [DistinctKeys]
  | cons entry rest ih =>
      rw [DistinctKeys, ih, List.map_cons, List.nodup_cons, List.forall_mem_cons]
      tauto

theorem DistinctKeys.nodup {entries : Entries} (h : DistinctKeys entries) :
    (entries.map Prod.fst).Nodup :=
  (distinctKeys_iff.mp h).1

theorem DistinctKeys.value {entries : Entries} (h : DistinctKeys entries) {key : String}
    {value : Value} (hmem : (key, value) ∈ entries) : value.IsDistinct :=
  (distinctKeys_iff.mp h).2 _ hmem

/-- A value is added behind others under a key that is not there. -/
theorem DistinctKeys.concat {entries : Entries} (h : DistinctKeys entries) {key : String}
    {value : Value} (hnew : key ∉ entries.map Prod.fst) (hvalue : value.IsDistinct) :
    DistinctKeys (entries ++ [(key, value)]) := by
  rw [distinctKeys_iff] at h ⊢
  refine ⟨?_, fun entry hentry => ?_⟩
  · rw [List.map_append, List.nodup_append']
    refine ⟨h.1, List.nodup_singleton _, fun k hk hkey => hnew ?_⟩
    obtain rfl : k = key := by simpa using hkey
    exact hk
  · rcases List.mem_append.mp hentry with hentry | hentry
    · exact h.2 entry hentry
    · rw [List.mem_singleton.mp hentry]
      exact hvalue

theorem DistinctKeys.filter {entries : Entries} (h : DistinctKeys entries)
    (keep : String × Value → Bool) : DistinctKeys (entries.filter keep) := by
  rw [distinctKeys_iff] at h ⊢
  exact ⟨h.1.sublist (List.filter_sublist.map _),
    fun entry hentry => h.2 entry (List.mem_filter.mp hentry).1⟩

theorem mem_of_get? {entries : Entries} {key : String} {value : Value}
    (h : entries.get? key = some value) : (key, value) ∈ entries := by
  obtain ⟨before, after, rfl, -⟩ := List.lookup_eq_some_iff.mp h
  simp

/-! ### Changing tables -/

/-- What a function makes of distinct values is distinct. -/
def KeepsDistinct (f : Option Value → Option Value) : Prop :=
  ∀ found value, (∀ v, found = some v → v.IsDistinct) → f found = some value → value.IsDistinct

/-- Altering a key adds no other. -/
theorem mem_keys_of_alter? {key k : String} {f : Option Value → Option Value} {entries : Entries} :
    ∀ {altered : Entries}, Entries.alter? key f entries = some altered →
      k ∈ altered.map Prod.fst → k = key ∨ k ∈ entries.map Prod.fst := by
  induction entries with
  | nil =>
      intro altered h hk
      obtain ⟨value, -, rfl⟩ := Option.map_eq_some_iff.mp h
      simpa using hk
  | cons entry rest ih =>
      obtain ⟨k', value⟩ := entry
      intro altered h hk
      rw [Entries.alter?] at h
      split at h
      · obtain ⟨_, -, rfl⟩ := Option.map_eq_some_iff.mp h
        exact Or.inr hk
      · obtain ⟨rest', hrest, rfl⟩ := Option.map_eq_some_iff.mp h
        rcases List.mem_cons.mp hk with rfl | hk
        · simp
        · exact (ih hrest hk).imp_right (List.mem_cons_of_mem _)

/-- **Keys stay distinct** when one is altered. -/
theorem DistinctKeys.alter? {key : String} {f : Option Value → Option Value}
    (hf : KeepsDistinct f) {entries : Entries} :
    ∀ {altered : Entries}, DistinctKeys entries →
      Entries.alter? key f entries = some altered → DistinctKeys altered := by
  induction entries with
  | nil =>
      intro altered _ h
      obtain ⟨value, hvalue, rfl⟩ := Option.map_eq_some_iff.mp h
      exact ⟨by simp, hf none value (by simp) hvalue, trivial⟩
  | cons entry rest ih =>
      obtain ⟨k, value⟩ := entry
      intro altered hentries h
      obtain ⟨hk, hvalue, hrest⟩ := hentries
      rw [Entries.alter?] at h
      split at h
      · obtain ⟨value', hvalue', rfl⟩ := Option.map_eq_some_iff.mp h
        refine ⟨hk, hf (some value) value' (fun v hv => ?_) hvalue', hrest⟩
        rwa [← Option.some.inj hv]
      next hne =>
        obtain ⟨rest', hrest', rfl⟩ := Option.map_eq_some_iff.mp h
        exact ⟨fun hmem => (mem_keys_of_alter? hrest' hmem).elim hne hk, hvalue, ih hrest hrest'⟩

/-- Keys stay distinct in tables when they do in the last one. -/
theorem areDistinctKeys_alterLast? {f : Entries → Option Entries}
    (hf : ∀ {entries altered}, DistinctKeys entries → f entries = some altered →
      DistinctKeys altered) {items : List Entries} :
    ∀ {altered : List Entries}, AreDistinctKeys items → alterLast? f items = some altered →
      AreDistinctKeys altered := by
  fun_induction alterLast? f items with
  | case1 => intro _ _ h; cases h
  | case2 last =>
      intro altered hitems h
      obtain ⟨last', hlast, rfl⟩ := Option.map_eq_some_iff.mp h
      exact ⟨hf hitems.1 hlast, trivial⟩
  | case3 entries rest _ ih =>
      intro altered hitems h
      obtain ⟨rest', hrest, rfl⟩ := Option.map_eq_some_iff.mp h
      exact ⟨hitems.1, ih hitems.2 hrest⟩

/-- **Keys stay distinct** along a path when they do at its end. -/
theorem DistinctKeys.descend? {dotted : Bool} {act : Origin → Entries → Option Entries}
    (hact : ∀ {origin entries altered}, DistinctKeys entries → act origin entries = some altered →
      DistinctKeys altered) (path : List String) :
    ∀ {origin : Origin} {entries altered : Entries}, DistinctKeys entries →
      Toml.descend? dotted act path origin entries = some altered → DistinctKeys altered := by
  induction path with
  | nil => intro origin entries altered hentries h; exact hact hentries h
  | cons key path ih =>
      intro origin entries altered hentries h
      rw [Toml.descend?] at h
      refine hentries.alter? ?_ h
      intro found value hfound hvalue
      match found with
      | none =>
          obtain ⟨inner, hinner, rfl⟩ := Option.map_eq_some_iff.mp hvalue
          have hempty : DistinctKeys [] := trivial
          exact ih hempty hinner
      | some (.table _ _) =>
          simp only at hvalue
          split at hvalue
          · obtain ⟨inner, hinner, rfl⟩ := Option.map_eq_some_iff.mp hvalue
            exact ih (hfound _ rfl) hinner
          · cases hvalue
      | some (.tables _) =>
          obtain ⟨items, hitems, rfl⟩ := Option.map_eq_some_iff.mp hvalue
          exact areDistinctKeys_alterLast? ih (hfound _ rfl) hitems

theorem DistinctKeys.addNew? {key : String} {value : Value} (hvalue : value.IsDistinct)
    {entries altered : Entries} (h : DistinctKeys entries)
    (hadd : Toml.addNew? key value entries = some altered) : DistinctKeys altered := by
  refine h.alter? ?_ hadd
  intro found value' _ hvalue'
  cases found with
  | none => rwa [← Option.some.inj hvalue']
  | some _ => cases hvalue'

theorem DistinctKeys.assign? {key : List String} {value : Value} (hvalue : value.IsDistinct)
    {origin : Origin} {entries altered : Entries} (h : DistinctKeys entries)
    (hassign : Toml.assign? key value origin entries = some altered) : DistinctKeys altered := by
  simp only [Toml.assign?, Option.bind_eq_bind, Option.bind_eq_some_iff] at hassign
  obtain ⟨⟨path, last⟩, -, hdescend⟩ := hassign
  refine h.descend? (fun hentries hadd => ?_) path hdescend
  split at hadd
  · cases hadd
  · exact hentries.addNew? hvalue hadd

theorem DistinctKeys.claim? {key : String} {entries altered : Entries} (h : DistinctKeys entries)
    (hclaim : Toml.claim? key entries = some altered) : DistinctKeys altered := by
  rw [Toml.claim?] at hclaim
  split at hclaim
  next hget =>
    rw [← Option.some.inj hclaim]
    refine h.concat ?_ trivial
    intro hmem
    obtain ⟨entry, hentry, hkey⟩ := List.mem_map.mp hmem
    exact absurd hkey.symm (by simpa using List.lookup_eq_none_iff.mp hget entry hentry)
  next inner hget =>
    rw [← Option.some.inj hclaim]
    have hinner : (Value.table .implied inner).IsDistinct := h.value (mem_of_get? hget)
    exact (h.filter _).concat (by simp) hinner
  next => cases hclaim

theorem DistinctKeys.declare? {path : List String} {root altered : Entries} (h : DistinctKeys root)
    (hdeclare : Toml.declare? path root = some altered) : DistinctKeys altered := by
  simp only [Toml.declare?, Option.bind_eq_bind, Option.bind_eq_some_iff] at hdeclare
  obtain ⟨⟨parents, last⟩, -, hdescend⟩ := hdeclare
  exact h.descend? (fun hentries => hentries.claim?) parents hdescend

theorem DistinctKeys.declareItem? {path : List String} {root altered : Entries}
    (h : DistinctKeys root) (hdeclare : Toml.declareItem? path root = some altered) :
    DistinctKeys altered := by
  simp only [Toml.declareItem?, Option.bind_eq_bind, Option.bind_eq_some_iff] at hdeclare
  obtain ⟨⟨parents, last⟩, -, hdescend⟩ := hdeclare
  refine h.descend? (fun hentries halter => hentries.alter? ?_ halter) parents hdescend
  intro found value hfound hvalue
  match found with
  | none =>
      rw [← Option.some.inj hvalue]
      exact ⟨trivial, trivial⟩
  | some (.tables items) =>
      rw [← Option.some.inj hvalue]
      refine areDistinctKeys_iff.mpr fun entries hmem => ?_
      rcases List.mem_append.mp hmem with hmem | hmem
      · exact areDistinctKeys_iff.mp (hfound _ rfl) entries hmem
      · rw [List.mem_singleton.mp hmem]
        trivial

theorem DistinctKeys.assignIn? {header key : List String} {value : Value}
    (hvalue : value.IsDistinct) {root altered : Entries} (h : DistinctKeys root)
    (hassign : Toml.assignIn? header key value root = some altered) : DistinctKeys altered :=
  h.descend? (fun hentries => hentries.assign? hvalue) header hassign

end BuilderGen.Toml
