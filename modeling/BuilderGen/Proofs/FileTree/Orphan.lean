import BuilderGen.Proofs.FileTree.Search

/-!
# BuilderGen.Proofs.FileTree.Orphan

**Which files are orphans.** An orphan is a file that is found, with the right extension, an
unexpected path and the marker, if the system takes the path to it (`mem_orphans_iff`).

Orphans come in the order of the bytes of their paths. These are the paths that are shown,
and two of them can be the same, but not if the names on the way are texts. What is found
depends only on what stands at each location, and not on the order of the entries
(`orphans_exact`).
-/

namespace BuilderGen

open Text (joinWith)

namespace FileTree

/-! ### Orphans -/

/-- A generated file that is stale, by the names on the way to it from the directory that a
path leads to. The system takes the path to the file. -/
def IsStale (t : FileTree) (base extension : String) (expected : List String)
    (names : List Name) : Prop :=
  ∃ directory bytes, t.directory? base = some directory ∧ t.Found directory names bytes ∧
    (∃ name, names.getLast? = some name ∧ Path.HasExtension name extension) ∧
    RawPath.shownNames names ∉ expected ∧ CarriesMarker bytes ∧
    ((base : RawPath).join ⟨names⟩).isUsable = true

/-- An orphan is a stale file with its path, as it is shown, and below that of the directory. -/
def IsOrphan (t : FileTree) (base extension : String) (expected : List String)
    (o : Orphan) : Prop :=
  ∃ names, t.IsStale base extension expected names ∧
    o = { path := RawPath.shownNames names, fullPath := (base : RawPath).join ⟨names⟩ }

section Orphans

variable {t : FileTree} {base extension : String} {expected : List String}

/-- The path leads to one directory only, so staleness is about what is found below it. -/
theorem isStale_iff_of_directory? {directory : Location} (hdir : t.directory? base = some directory)
    {names : List Name} :
    t.IsStale base extension expected names ↔
      ∃ bytes, t.Found directory names bytes ∧
        (∃ name, names.getLast? = some name ∧ Path.HasExtension name extension) ∧
        RawPath.shownNames names ∉ expected ∧ CarriesMarker bytes ∧
        ((base : RawPath).join ⟨names⟩).isUsable = true := by
  refine ⟨fun h => ?_, fun h => ?_⟩
  · obtain ⟨directory', bytes, hdir', h⟩ := h
    obtain rfl : directory = directory' := Option.some.inj (hdir.symm.trans hdir')
    exact ⟨bytes, h⟩
  · obtain ⟨bytes, h⟩ := h
    exact ⟨directory, bytes, hdir, h⟩

theorem isOrphan_iff (ht : t.WellFormed) {path : RawPath} {directory : Location} {names : List Name}
    {bytes : ByteArray} (hdir : t.directory? path = some directory)
    (hfound : t.Found directory names bytes) :
    t.isOrphan extension expected names (path.join ⟨names⟩) = true ↔
      (∃ name, names.getLast? = some name ∧ Path.HasExtension name extension) ∧
        RawPath.shownNames names ∉ expected ∧ (path.join ⟨names⟩).isUsable = true ∧
          CarriesMarker bytes := by
  have hread : isGenerated ((t.readText? (path.join ⟨names⟩)).getD "") = true ↔
      (path.join ⟨names⟩).isUsable = true ∧ CarriesMarker bytes := by
    rw [readText?_join ht hdir hfound, ← isGenerated_fromUTF8?_iff]
    split
    next husable => simp [husable]
    next husable => simp [husable, show isGenerated "" = false from rfl]
  simp only [isOrphan, Bool.and_eq_true, hread, Option.any_eq_true, Path.hasExtension_iff,
    Bool.not_eq_true', List.contains_eq_mem, decide_eq_false_iff_not, and_assoc]

/-- **Orphans** are the files that are found and can be read, have the extension and the
marker, and are not expected. -/
theorem mem_orphans_iff (ht : t.WellFormed) {o : Orphan} :
    o ∈ t.orphans base extension expected ↔ t.IsOrphan base extension expected o := by
  simp only [orphans, List.mem_mergeSort, List.mem_map, List.mem_filter, Prod.exists]
  refine ⟨fun h => ?_, fun h => ?_⟩
  · obtain ⟨names, _, ⟨hmem, horphan⟩, rfl⟩ := h
    cases hdir : t.directory? base with
    | none =>
        rw [filesBelow_of_eq_none _ hdir] at hmem
        cases hmem
    | some directory =>
        obtain ⟨rfl, bytes, hfound⟩ := found_of_mem_filesBelow ht hdir hmem
        obtain ⟨hext, hnew, husable, hmarker⟩ := (isOrphan_iff ht hdir hfound).mp horphan
        exact ⟨names, (isStale_iff_of_directory? hdir).mpr
          ⟨bytes, hfound, hext, hnew, hmarker, husable⟩, rfl⟩
  · obtain ⟨names, ⟨directory, bytes, hdir, hfound, hext, hnew, hmarker, husable⟩, rfl⟩ := h
    have hlength := length_le_height hfound.file
    rw [List.length_append] at hlength
    exact ⟨names, _, ⟨mem_filesBelow ht hdir hfound (by omega) husable,
      (isOrphan_iff ht hdir hfound).mpr ⟨hext, hnew, husable, hmarker⟩⟩, rfl⟩

/-- There are no orphans where there is no directory. -/
theorem orphans_of_eq_none (hdir : t.directory? base = none) :
    t.orphans base extension expected = [] := by
  simp [orphans, filesBelow_of_eq_none _ hdir]

/-- The path of an orphan is shown as it is if it is a text. -/
theorem IsOrphan.fullPath_eq (ht : t.WellFormed) {o : Orphan}
    (h : t.IsOrphan base extension expected o) {text : String} (htext : o.fullPath = text) :
    o.fullPath = Path.join base o.path := by
  obtain ⟨names, ⟨directory, bytes, -, hfound, -⟩, rfl⟩ := h
  obtain ⟨front, hpieces, -⟩ := RawPath.exists_pieces_join (base : RawPath)
    (RawPath.isAbsolute_of_isName (hfound.isName ht))
  have htexts : ∀ name ∈ names, ∃ part : String, name = part := fun name hname =>
    RawPath.exists_text_of_mem_pieces (show name ∈ (text : RawPath).pieces by
      rw [← htext, hpieces]
      exact List.mem_append_right _ hname)
  have hnames := RawPath.pieces_shownNames hfound.ne_nil
    (fun name hname => (ht.isName_of_mem hfound.file hname).2) htexts
  rw [RawPath.ofText_join, show (RawPath.shownNames names : RawPath) = ⟨names⟩ by
    rw [RawPath.ofText, hnames]]

/-- Different orphans have different paths, whatever is shown of them. -/
theorem nodup_orphans (ht : t.WellFormed) : (t.orphans base extension expected).Nodup := by
  rw [orphans, (List.mergeSort_perm _ _).nodup_iff]
  cases hdir : t.directory? base with
  | none => simp [filesBelow_of_eq_none _ hdir]
  | some directory =>
      rw [List.Nodup, List.pairwise_map]
      refine ((pairwise_filesBelow t t.height base).filter _).imp_of_mem ?_
      intro a b ha hb hne heq
      obtain ⟨hpath, _, hfound⟩ := found_of_mem_filesBelow ht hdir (List.mem_filter.mp ha).1
      obtain ⟨hpath', _, hfound'⟩ := found_of_mem_filesBelow ht hdir (List.mem_filter.mp hb).1
      have hfull : a.2 = b.2 := congrArg Orphan.fullPath heq
      rw [hpath, hpath', RawPath.join_inj _ (hfound.isName ht) (hfound'.isName ht)] at hfull
      exact hne hfull

/-- The orphans are those of the stale files, each once. -/
theorem exists_stale_files (ht : t.WellFormed) (base extension : String) (expected : List String) :
    ∃ files : List (List Name), files.Nodup ∧
      (∀ names, names ∈ files ↔ t.IsStale base extension expected names) ∧
      t.orphans base extension expected = files.map fun names =>
        { path := RawPath.shownNames names, fullPath := (base : RawPath).join ⟨names⟩ } := by
  have horphan : ∀ o ∈ t.orphans base extension expected, t.IsOrphan base extension expected o :=
    fun o ho => (mem_orphans_iff ht).mp ho
  choose! names hstale heq using horphan
  refine ⟨(t.orphans base extension expected).map names, ?_,
    fun file => ⟨fun h => ?_, fun h => ?_⟩, ?_⟩
  · refine (nodup_orphans ht).map_on fun a ha b hb hnames => ?_
    rw [heq a ha, heq b hb, hnames]
  · obtain ⟨o, ho, rfl⟩ := List.mem_map.mp h
    exact hstale o ho
  · have ho := (mem_orphans_iff ht).mpr ⟨file, h, rfl⟩
    refine List.mem_map.mpr ⟨_, ho, ?_⟩
    -- the path is that of one file only
    obtain ⟨_, _, -, hfound, -⟩ := h
    obtain ⟨_, _, -, hfound', -⟩ := hstale _ ho
    exact ((RawPath.join_inj _ (hfound.isName ht) (hfound'.isName ht)).mp
      (congrArg Orphan.fullPath (heq _ ho))).symm
  · rw [List.map_map]
    exact (List.map_id _).symm.trans (List.map_congr_left heq)

/-- Orphans come in the order of their paths. -/
theorem pairwise_orphans (t : FileTree) (base extension : String) (expected : List String) :
    (t.orphans base extension expected).Pairwise fun a b => a.path ≤ b.path := by
  rw [orphans]
  refine (List.pairwise_mergeSort (fun a b c hab hbc => ?_) (fun a b => ?_) _).imp fun h => by
    simpa using h
  · simp only [decide_eq_true_eq] at hab hbc ⊢
    exact le_trans hab hbc
  · simpa using le_total a.path b.path

/-- Where paths are texts, no two orphans have the same one. -/
theorem pairwise_lt_orphans (ht : t.WellFormed)
    (htexts : ∀ o ∈ t.orphans base extension expected, ∃ path : String, o.fullPath = path) :
    (t.orphans base extension expected).Pairwise fun a b => a.path < b.path := by
  refine ((pairwise_orphans t base extension expected).and (nodup_orphans ht)).imp_of_mem ?_
  intro a b ha hb h
  refine lt_of_le_of_ne h.1 fun hpath => h.2 ?_
  obtain ⟨_, hfull⟩ := htexts a ha
  obtain ⟨_, hfull'⟩ := htexts b hb
  have hsame : a.fullPath = b.fullPath := by
    rw [((mem_orphans_iff ht).mp ha).fullPath_eq ht hfull,
      ((mem_orphans_iff ht).mp hb).fullPath_eq ht hfull', hpath]
  cases a
  cases b
  simp_all

end Orphans

/-! ### Trees that show the same

The entries of a tree are in some order, as a directory lists what is in it in some
order. Nothing but the entry that is shown at each location counts. -/

section Same

variable {t t' : FileTree} {base extension : String} {expected : List String}
  (hget : ∀ l, t'.get? l = t.get? l)
include hget

theorem Found.of_get? {directory : Location} {names : List Name} {bytes : ByteArray}
    (h : t.Found directory names bytes) : t'.Found directory names bytes where
  ne_nil := h.ne_nil
  file := by rw [hget, h.file]
  searched before name after heq hafter := by
    rw [hget]
    exact h.searched before name after heq hafter

variable (hworking : t'.workingDirectory = t.workingDirectory)
include hworking

theorem WellFormed.of_get? (ht : t.WellFormed) : t'.WellFormed where
  name {l name entry} hentry := ht.name (l := l) (by rw [← hget, hentry])
  directory {l name entry} hentry := by
    rw [hget] at hentry ⊢
    exact ht.directory hentry
  workingDirectory := by rw [hworking, hget, ht.workingDirectory]

theorem IsOrphan.of_get? (ht : t.WellFormed) {o : Orphan}
    (h : t.IsOrphan base extension expected o) : t'.IsOrphan base extension expected o := by
  have hkeeps : Keeps t t' :=
    ⟨hworking, fun l hl => by rw [hget, hl], fun l target hl => by rw [hget, hl]⟩
  obtain ⟨names, ⟨directory, bytes, hdir, hfound, hrest⟩, rfl⟩ := h
  exact ⟨names, ⟨directory, bytes, directory?_of_keeps hkeeps ht (ht.of_get? hget hworking) hdir,
    hfound.of_get? hget, hrest⟩, rfl⟩

/-- The same orphans are found. -/
theorem orphans_perm (ht : t.WellFormed) :
    (t'.orphans base extension expected).Perm (t.orphans base extension expected) := by
  have ht' := ht.of_get? hget hworking
  rw [List.perm_ext_iff_of_nodup (nodup_orphans ht') (nodup_orphans ht)]
  intro o
  rw [mem_orphans_iff ht', mem_orphans_iff ht]
  exact ⟨IsOrphan.of_get? (fun l => (hget l).symm) hworking.symm ht',
    IsOrphan.of_get? hget hworking ht⟩

end Same

/-- **The search for orphans is exact**: it lists all of them and nothing else, each once, in
the order of the bytes of their paths, and none where there is no directory. The paths are the
same in whatever order entries are listed.

Only what is shown of a name that is no text can also be shown of another one. Where all paths
are texts, these are the paths below that of the directory, no two of them are the same, and the
whole list is the same in whatever order entries are listed. -/
theorem orphans_exact {t : FileTree} (ht : t.WellFormed) (base extension : String)
    (expected : List String) :
    let orphans := t.orphans base extension expected
    (∀ o, o ∈ orphans ↔ t.IsOrphan base extension expected o) ∧
    orphans.Nodup ∧
    (orphans.Pairwise fun a b => Text.utf8Bytes a.path ≤ Text.utf8Bytes b.path) ∧
    (∀ t' : FileTree, (∀ l, t'.get? l = t.get? l) → t'.workingDirectory = t.workingDirectory →
      (t'.orphans base extension expected).Perm orphans ∧
      (t'.orphans base extension expected).map (·.path) = orphans.map (·.path)) ∧
    ((∀ o ∈ orphans, ∃ path : String, o.fullPath = path) →
      (∀ o ∈ orphans, o.fullPath = Path.join base o.path) ∧
      (orphans.Pairwise fun a b => Text.utf8Bytes a.path < Text.utf8Bytes b.path) ∧
      ∀ t' : FileTree, (∀ l, t'.get? l = t.get? l) → t'.workingDirectory = t.workingDirectory →
        t'.orphans base extension expected = orphans) ∧
    (t.directory? base = none → orphans = []) := by
  intro orphans
  refine ⟨fun o => mem_orphans_iff ht, nodup_orphans ht, ?_, fun t' hget hworking => ⟨?_, ?_⟩,
    fun htexts => ⟨fun o ho => ?_, ?_, fun t' hget hworking => ?_⟩, fun hnone => ?_⟩
  · exact (pairwise_orphans t base extension expected).imp fun h => by
      rw [← List.not_lt, Text.utf8Bytes_lt_iff, not_lt]
      exact h
  · exact orphans_perm hget hworking ht
  · -- both lists of paths are sorted
    exact ((orphans_perm hget hworking ht).map _).eq_of_pairwise
      (fun a b _ _ hab hba => le_antisymm hab hba)
      (List.pairwise_map.mpr (pairwise_orphans t' base extension expected))
      (List.pairwise_map.mpr (pairwise_orphans t base extension expected))
  · obtain ⟨_, hfull⟩ := htexts o ho
    exact ((mem_orphans_iff ht).mp ho).fullPath_eq ht hfull
  · exact (pairwise_lt_orphans ht htexts).imp fun h => Text.utf8Bytes_lt_iff.mpr h
  · -- the other list has the same paths, and so is in strict order too
    have hperm : (t'.orphans base extension expected).Perm orphans := orphans_perm hget hworking ht
    have hstrict := pairwise_lt_orphans (ht.of_get? hget hworking) fun o ho =>
      htexts o (hperm.mem_iff.mp ho)
    exact hperm.eq_of_pairwise (fun a b _ _ hab hba => absurd hab (lt_asymm hba)) hstrict
      (pairwise_lt_orphans ht htexts)
  · exact orphans_of_eq_none hnone

/-- A directory with a generated file that is one level down. -/
def staleTree : FileTree :=
  (((({} : FileTree).put ["out"] .directory).put ["out", "de"] .directory).put
    ["out", "de", "point_builder.rs"] (.file ("// " ++ marker).toUTF8))

theorem wellFormed_staleTree : staleTree.WellFormed := by
  have hname : ∀ part ∈ ["out", "de", "point_builder.rs"],
      Path.IsName (.text part) ∧ Path.NoSlash (.text part) := by
    simp [Path.IsName, Path.NoSlash, Path.isIdle]
  refine ((wellFormed_empty.put (l := []) .directory (hname _ ?_) rfl ?_).put
    (l := ["out"]) .directory (hname _ ?_) ?_ ?_).put (l := ["out", "de"]) _ (hname _ ?_) ?_ ?_
  all_goals simp [get?, FileTree.put, putEntry, List.lookup_cons]

/-- The file is an orphan if it is not expected. -/
theorem staleTree_orphans : staleTree.WellFormed ∧
    ∃ o ∈ staleTree.orphans "out" "rs" ["de/key_builder.rs"], o.path = "de/point_builder.rs" := by
  have hfound : staleTree.Found ["out"] ["de", "point_builder.rs"] ("// " ++ marker).toUTF8 := by
    simp [found_cons_iff, staleTree, IsSearched, Name.shown]
  refine ⟨wellFormed_staleTree, _, ((orphans_exact wellFormed_staleTree "out" "rs" _).1 _).mpr
    ⟨_, ⟨["out"], _, by decide +kernel, hfound,
      ⟨_, rfl, by decide, by decide, "point_builder", by decide, by decide⟩, ?_, ?_, ?_⟩, rfl⟩, rfl⟩
  · decide
  · exact ⟨_, rfl, "// " ++ marker, by decide +kernel, "// ".toList, [], by decide⟩
  · decide +kernel

/-! ### Paths that are too long, and names that look alike -/

/-- A directory with a generated file. -/
def keyTree : FileTree :=
  (({} : FileTree).put ["out"] .directory).put ["out", "KeyBuilder.java"]
    (.file ("// " ++ marker).toUTF8)

theorem wellFormed_keyTree : keyTree.WellFormed := by
  have hname : ∀ part ∈ ["out", "KeyBuilder.java"],
      Path.IsName (.text part) ∧ Path.NoSlash (.text part) := by
    simp [Path.IsName, Path.NoSlash, Path.isIdle]
  refine (wellFormed_empty.put (l := []) .directory (hname _ ?_) rfl ?_).put
    (l := ["out"]) _ (hname _ ?_) ?_ ?_
  all_goals simp [get?, FileTree.put, putEntry, List.lookup_cons]

/-- A path to the directory that stays where it starts for a while. -/
def detour (n : Nat) : String := joinWith "/" (List.replicate n "." ++ ["out"])

theorem pieces_detour (n : Nat) :
    Path.pieces (detour n) = List.replicate n (.text ".") ++ [.text "out"] := by
  have hslash : ∀ part ∈ List.replicate n "." ++ ["out"], '/' ∉ part.toList := by
    intro part hpart
    rcases List.mem_append.mp hpart with hpart | hpart
    · rw [List.eq_of_mem_replicate hpart]
      decide
    · rw [List.mem_singleton.mp hpart]
      decide
  rw [Path.pieces, detour, Path.parts_joinWith (by simp) hslash, List.map_append,
    List.map_replicate, List.map_singleton]

theorem bytesBetween_detour (n : Nat) {names : List Name} (hne : names ≠ []) :
    RawPath.bytesBetween (List.replicate n (.text ".") ++ names) =
      2 * n + RawPath.bytesBetween names := by
  induction n with
  | zero => simp
  | succ n ih =>
      rw [List.replicate_succ, List.cons_append, RawPath.bytesBetween_cons (by simp [hne]), ih,
        show (Name.text ".").byteCount = 1 from rfl]
      omega

/-- The way leads to the directory while it has fewer than 4096 bytes. -/
theorem directory?_detour {n : Nat} (hn : 2 * n + 3 < 4096) :
    keyTree.directory? (detour n) = some [.text "out"] := by
  have hmoves : (detour n : RawPath).moves = [.into (.text "out")] := by
    rw [RawPath.moves, RawPath.ofText, pieces_detour, Path.movesOf_append]
    simp [Path.movesOf, Path.step, Path.isIdle]
  have hstart : keyTree.start (detour n) = [] := by
    rw [start]
    split <;> rfl
  refine (directory?_eq_some_iff wellFormed_keyTree).mpr ⟨RawPath.isUsable_iff.mpr ⟨?_, ?_, ?_⟩,
    maxLinks, ?_⟩
  · rw [RawPath.byteCount, RawPath.ofText, pieces_detour, bytesBetween_detour n (by simp)]
    exact Nat.ne_of_gt (Nat.lt_add_left _ (by decide))
  · intro name hname
    rw [RawPath.ofText, pieces_detour, List.mem_append, List.mem_singleton] at hname
    rcases hname with hname | rfl
    · rw [List.eq_of_mem_replicate hname]
      rfl
    · rfl
  · rw [RawPath.byteCount, RawPath.ofText, pieces_detour, bytesBetween_detour n (by simp)]
    exact hn
  · rw [LeadsTo, hmoves, hstart]
    exact .into rfl .nil

/-- The file is passed over where the path to it has 4096 bytes or more. -/
theorem orphans_detour {n : Nat} (hn : 4096 ≤ 2 * n + 19) (hn' : 2 * n + 3 < 4096) :
    keyTree.orphans (detour n) "java" [] = [] := by
  rw [List.eq_nil_iff_forall_not_mem]
  intro o ho
  obtain ⟨names, hstale, rfl⟩ := (mem_orphans_iff wellFormed_keyTree).mp ho
  obtain ⟨bytes, hfound, -, -, -, husable⟩ :=
    (isStale_iff_of_directory? (directory?_detour hn')).mp hstale
  have hnames : names = [.text "KeyBuilder.java"] := by
    have hfile := hfound.file
    rw [keyTree, get?_put _ _ _ (List.cons_ne_nil _ _),
      get?_put _ _ _ (List.cons_ne_nil _ _)] at hfile
    by_contra hother
    simp [hother, hfound.ne_nil, get?] at hfile
  have hjoin : ((detour n : RawPath).join ⟨names⟩).pieces =
      List.replicate n (.text ".") ++ [.text "out", .text "KeyBuilder.java"] := by
    rw [hnames, RawPath.join, if_neg (by simp [RawPath.isAbsolute]), if_neg]
    · simp [RawPath.ofText, pieces_detour]
    · simp [RawPath.ofText, pieces_detour]
  have hcount := (RawPath.isUsable_iff.mp husable).2.2
  rw [RawPath.byteCount, hjoin, bytesBetween_detour n (by simp)] at hcount
  have hrest : RawPath.bytesBetween [.text "out", .text "KeyBuilder.java"] = 19 := by decide
  omega

/-- A name that starts with a byte no character starts with. -/
def strange : Name := .raw [0xFE, 0x42, 0x2E, 0x6A, 0x61, 0x76, 0x61] (by decide +kernel)

/-- Another one, which is shown in the same way. -/
def stranger : Name := .raw [0xFF, 0x42, 0x2E, 0x6A, 0x61, 0x76, 0x61] (by decide +kernel)

/-- A directory with two generated files. -/
def pairTree (first second : Name) : FileTree :=
  ((({} : FileTree).put ["out"] .directory).put ["out", first] (.file ("// " ++ marker).toUTF8)).put
    ["out", second] (.file ("// " ++ marker).toUTF8)

/-- Orphans that look alike are listed in the order of the entries. -/
theorem orphans_pairTree :
    (pairTree strange stranger).orphans "out" "java" [] =
      [⟨"\uFFFDB.java", ⟨["out", strange]⟩⟩, ⟨"\uFFFDB.java", ⟨["out", stranger]⟩⟩] ∧
    (pairTree stranger strange).orphans "out" "java" [] =
      [⟨"\uFFFDB.java", ⟨["out", stranger]⟩⟩, ⟨"\uFFFDB.java", ⟨["out", strange]⟩⟩] := by
  refine ⟨(congrArg (List.mergeSort · _) ?_).trans (List.mergeSort_of_pairwise ?_),
    (congrArg (List.mergeSort · _) ?_).trans (List.mergeSort_of_pairwise ?_)⟩
  · decide +kernel
  · simp
  · decide +kernel
  · simp

/-- A generated file is passed over if the path to it is too long, and what look like the same
path twice are orphans in the order of the entries. -/
theorem long_path_missed_and_alike_repeated :
    (keyTree.directory? (detour 2040) = some [.text "out"] ∧
      keyTree.Found ["out"] ["KeyBuilder.java"] ("// " ++ marker).toUTF8 ∧
      Path.HasExtension "KeyBuilder.java" "java" ∧ CarriesMarker ("// " ++ marker).toUTF8 ∧
      keyTree.orphans (detour 2040) "java" [] = []) ∧
    (∀ l, (pairTree stranger strange).get? l = (pairTree strange stranger).get? l) ∧
    (¬ ((pairTree strange stranger).orphans "out" "java" []).Pairwise fun a b =>
      Text.utf8Bytes a.path < Text.utf8Bytes b.path) ∧
    (pairTree stranger strange).orphans "out" "java" [] ≠
      (pairTree strange stranger).orphans "out" "java" [] := by
  obtain ⟨hpair, hpair'⟩ := orphans_pairTree
  refine ⟨⟨directory?_detour (by omega), ?_, ?_, ?_, orphans_detour (by omega) (by omega)⟩,
    fun l => ?_, ?_, ?_⟩
  · simp [found_cons_iff, keyTree, IsSearched, Name.shown]
  · exact ⟨by decide, by decide, "KeyBuilder", by decide, by decide⟩
  · exact ⟨_, rfl, "// " ++ marker, by decide +kernel, "// ".toList, [], by decide⟩
  · have hne : strange ≠ stranger := by decide
    simp only [pairTree, get?_put _ _ _ (List.cons_ne_nil _ _)]
    grind
  · simp [hpair]
  · rw [hpair, hpair']
    decide

end FileTree
end BuilderGen
