import BuilderGen.Proofs.FileTree.Arrival

/-!
# BuilderGen.Proofs.FileTree.Below

**Files below an output directory.** A path of names below the path of a directory leads
below that directory, whatever links its own path goes through, as long as there are none
below it. What writing such a file does is then known from the location of the directory
(`writeAtomic_join_eq_ok`), when it succeeds (`exists_writeAtomic_join`), and what is read
back (`readText?_join`). If the directory is missing, the first file that is written makes it
(`exists_leadsTo_of_writeAtomic`).
-/

namespace BuilderGen

open BuilderGen.Path (IsName NoSlash entered)
open Text (joinWith)

/-! ### Paths of names -/

/-- A relative path: names of directories, and the name of a file in the last of them. -/
structure Path.IsRelative (path : String) (directories : List Name) (name : Name) : Prop where
  pieces : pieces path = directories ++ [name]
  names : ∀ piece ∈ directories ++ [name], IsName piece

namespace Path.IsRelative

variable {path : String} {name : Name} {directories : List Name}
  (h : IsRelative path directories name)
include h

theorem isAbsolute_eq_false : isAbsolute path = false :=
  isAbsolute_of_isName (by rw [h.pieces]; exact h.names)

theorem isName_directory {directory : Name} (hmem : directory ∈ directories) :
    IsName directory ∧ NoSlash directory :=
  ⟨h.names directory (List.mem_append_left _ hmem),
    noSlash_of_mem_pieces (by rw [h.pieces]; exact List.mem_append_left _ hmem)⟩

theorem isName_name : IsName name ∧ NoSlash name :=
  ⟨h.names name (by simp), noSlash_of_mem_pieces (by rw [h.pieces]; simp)⟩

/-- Below another path, the pieces of the path come last. -/
theorem exists_pieces_join (output : String) :
    ∃ front, Path.pieces (join output path) = front ++ directories ++ [name] ∧
      movesOf front = moves output := by
  obtain ⟨front, hpieces, hfront⟩ := pieces_join output h.isAbsolute_eq_false
  exact ⟨front, by rw [hpieces, h.pieces, List.append_assoc], hfront⟩

theorem exists_ends_join (output : String) :
    ∃ front, FileTree.Ends (join output path) front name := by
  obtain ⟨front, hpieces, -⟩ := h.exists_pieces_join output
  exact ⟨front ++ directories, hpieces, h.isName_name.1⟩

/-- The directory of the file below another path has the moves of both. -/
theorem moves_directoryOf_join (output : String) :
    moves (directoryOf (join output path)) = moves output ++ directories.map .into ∧
      isAbsolute (directoryOf (join output path)) = isAbsolute output := by
  obtain ⟨front, hpieces, hfront⟩ := h.exists_pieces_join output
  obtain ⟨hmoves, habs⟩ := moves_directoryOf hpieces h.isName_name.1
  have hnames : ∀ directory ∈ directories, IsName directory :=
    fun _ hmem => (h.isName_directory hmem).1
  exact ⟨by rw [hmoves, movesOf_append, hfront, movesOf_names hnames],
    by rw [habs, isAbsolute_join output h.isAbsolute_eq_false]⟩

end Path.IsRelative

/-- Names enter the locations that start with some of them. -/
theorem Path.mem_entered_into_iff {names : List Name} :
    ∀ {here l : Location}, l ∈ entered here (names.map .into) ↔
      ∃ front, front ≠ [] ∧ front <+: names ∧ l = here ++ front := by
  induction names with
  | nil =>
      intro here l
      simp [entered]
  | cons name names ih =>
      intro here l
      rw [List.map_cons, entered, List.mem_cons, ih]
      refine ⟨fun hl => ?_, fun hl => ?_⟩
      · rcases hl with rfl | ⟨front, -, hprefix, rfl⟩
        · exact ⟨[name], by simp, by simp [List.cons_prefix_cons], rfl⟩
        · exact ⟨name :: front, by simp, by simpa [List.cons_prefix_cons] using hprefix, by simp⟩
      · obtain ⟨_ | ⟨first, front⟩, hne, hprefix, rfl⟩ := hl
        · exact absurd rfl hne
        · obtain ⟨rfl, hrest⟩ := List.cons_prefix_cons.mp hprefix
          by_cases hnil : front = []
          · exact Or.inl (by rw [hnil])
          · exact Or.inr ⟨front, hnil, hrest, by simp⟩

namespace FileTree

/-- No link stands at or below a location. -/
def NoLinksBelow (t : FileTree) (directory : Location) : Prop :=
  ∀ names target, t.get? (directory ++ names) ≠ some (.link target)

/-! ### The directory of a file -/

section Directory

variable {t : FileTree} {output path : String} {name : Name} {directories : List Name} {left : Nat}
  {d : Location}

/-- The directory of a file below an output path is made step by step along both paths. -/
theorem makeDirectories_join (h : Path.IsRelative path directories name) (t : FileTree)
    (output : String) :
    t.makeDirectories (Path.directoryOf (Path.join output path)) =
      if Path.isUsable (Path.directoryOf (Path.join output path)) = true then
        t.makeSteps maxLinks (t.start output) (Path.moves output ++ directories.map .into)
      else (t, none) := by
  obtain ⟨hmoves, habs⟩ := h.moves_directoryOf_join output
  rw [makeDirectories, ← makeSteps_filter, ← hmoves, start, start, RawPath.isAbsolute_ofText,
    RawPath.isAbsolute_ofText, habs]
  rfl

/-- Below a directory that is there, the directory of a file is made from there. -/
theorem LeadsTo.makeDirectories_join (ht : t.WellFormed) (hout : t.LeadsTo output left d)
    (h : Path.IsRelative path directories name) :
    t.makeDirectories (Path.directoryOf (Path.join output path)) =
      if Path.isUsable (Path.directoryOf (Path.join output path)) = true then
        t.makeSteps left d (directories.map .into)
      else (t, none) := by
  rw [FileTree.makeDirectories_join h, ← RawPath.moves_ofText,
    Arrives.makeSteps_append ht hout (ht.start output)]

/-- No link stands on a way down. -/
theorem NoLinksBelow.get?_entered (hlinks : t.NoLinksBelow d) :
    ∀ e ∈ entered d (directories.map .into), ∀ target, t.get? e ≠ some (.link target) := by
  intro e he target
  obtain ⟨front, -, -, rfl⟩ := Path.mem_entered_into_iff.mp he
  exact hlinks front target

/-- Whether or not the directory of a file can be made, only directories on the way down to it
are. -/
theorem LeadsTo.changes_makeDirectories_join (ht : t.WellFormed)
    (hout : t.LeadsTo output left d) (h : Path.IsRelative path directories name)
    (hlinks : t.NoLinksBelow d) :
    Changes [] (entered d (directories.map .into)) t
      (t.makeDirectories (Path.directoryOf (Path.join output path))).1 := by
  rw [hout.makeDirectories_join ht h]
  split
  · exact (makeSteps_outcome left (directories.map .into) d hlinks.get?_entered).1
  · exact Changes.refl _ _ t

/-- What is made is the way from the directory down to the file, and nothing else. -/
theorem LeadsTo.exists_of_makeDirectories_join (ht : t.WellFormed)
    (hout : t.LeadsTo output left d) (h : Path.IsRelative path directories name)
    (hlinks : t.NoLinksBelow d) {t1 : FileTree} {there : Location}
    (hmade : t.makeDirectories (Path.directoryOf (Path.join output path)) = (t1, some there)) :
    there = d ++ directories ∧ Changes [] (entered d (directories.map .into)) t t1 ∧
      t1.WellFormed ∧ t1.get? (d ++ directories) = some .directory := by
  rw [hout.makeDirectories_join ht h] at hmade
  split at hmade
  next =>
    have hd := hout.directory ht
    have hwell := ht.makeSteps (directories.map .into) left d hd fun name hname => by
      rw [List.mem_map] at hname
      obtain ⟨directory, hmem, hinto⟩ := hname
      rw [← Path.Step.into.inj hinto]
      exact h.isName_directory hmem
    obtain ⟨hchanges, hdone⟩ :=
      makeSteps_outcome left (directories.map .into) d hlinks.get?_entered
    rw [hmade] at hchanges hdone hwell
    obtain ⟨hthere, hdirs⟩ := hdone there rfl
    rw [Path.arrive_into] at hthere
    refine ⟨hthere, hchanges, hwell, ?_⟩
    by_cases hnil : directories = []
    · rw [hnil, List.append_nil]
      exact hchanges.directory d hd
    · exact hdirs _ (Path.mem_entered_into_iff.mpr ⟨directories, hnil, List.prefix_refl _, rfl⟩)
  next => cases hmade

/-- Directories are made where nothing or a directory stands, if they can have their names. -/
theorem exists_makeSteps_into (left : Nat) (directories : List Name) :
    ∀ {t : FileTree} {here : Location}, (∀ name ∈ directories, name.isUsable = true) →
      (∀ front, front ≠ [] → front <+: directories →
        t.get? (here ++ front) = none ∨ t.get? (here ++ front) = some .directory) →
      ∃ t1, t.makeSteps left here (directories.map .into) = (t1, some (here ++ directories)) := by
  induction directories with
  | nil => intro t here _ _; exact ⟨t, by simp [makeSteps]⟩
  | cons name names ih =>
      intro t here hnames hfree
      obtain ⟨hname, hnames⟩ := List.forall_mem_cons.mp hnames
      have hrest : ∀ front, front ≠ [] → front <+: names →
          t.get? (here ++ [name] ++ front) = none ∨
            t.get? (here ++ [name] ++ front) = some .directory := by
        intro front hne hprefix
        simpa using hfree (name :: front) (by simp) (by simpa [List.cons_prefix_cons] using hprefix)
      rw [List.map_cons, makeSteps]
      rcases hfree [name] (by simp) (by simp [List.cons_prefix_cons]) with hnone | hdir
      · -- the directory that is made is not on the rest of the way
        simp only [hnone, hname, if_true]
        have hrest' : ∀ front, front ≠ [] → front <+: names →
            (t.put (here ++ [name]) .directory).get? (here ++ [name] ++ front) = none ∨
              (t.put (here ++ [name]) .directory).get? (here ++ [name] ++ front) =
                some .directory := by
          intro front hne hprefix
          have hother : here ++ [name] ++ front ≠ here ++ [name] := by simpa using hne
          rw [get?_put _ _ _ (by simp), if_neg hother]
          exact hrest front hne hprefix
        simpa using ih hnames hrest'
      · simp only [hdir]
        simpa using ih hnames hrest

end Directory

/-! ### Names below a directory -/

section Names

variable {t : FileTree} {base : RawPath} {output path : String} {names directories : List Name}
  {name : Name} {left : Nat} {d : Location}

/-- Names below the path of a directory lead on from there. -/
theorem LeadsTo.exists_arrives_join (ht : t.WellFormed) (hout : t.LeadsTo base left d)
    (hnames : ∀ piece ∈ directories ++ [name], IsName piece)
    (hdir : t.get? (d ++ directories) = some .directory) :
    ∃ front, (base.join ⟨directories ++ [name]⟩).pieces = front ++ [name] ∧
      Arrives t maxLinks (t.start (base.join ⟨directories ++ [name]⟩)) (front.map Path.step) left
        (d ++ directories) := by
  have hrelative := RawPath.isAbsolute_of_isName hnames
  obtain ⟨front, hpieces, hfront⟩ := RawPath.exists_moves_join base hrelative
  have harrives : Arrives t maxLinks (t.start base) (front.map Path.step) left d := by
    rw [← Arrives.filter_iff, show (front.map Path.step).filter (· ≠ .stay) = base.moves
      from hfront]
    exact hout
  have hinto : directories.map Path.step = directories.map .into :=
    List.map_congr_left fun directory hmem => (hnames directory (by simp [hmem])).step
  refine ⟨front ++ directories, by rw [hpieces, List.append_assoc], ?_⟩
  rw [FileTree.start, RawPath.isAbsolute_join base hrelative (by simp), List.map_append, hinto]
  exact harrives.append (.of_names ht directories hdir)

/-- A path below a directory is followed from its last directory. -/
theorem LeadsTo.follow_join (ht : t.WellFormed) (hout : t.LeadsTo base left d)
    (hnames : ∀ piece ∈ directories ++ [name], IsName piece)
    (hdir : t.get? (d ++ directories) = some .directory) :
    t.follow false maxLinks (t.start (base.join ⟨directories ++ [name]⟩))
        (base.join ⟨directories ++ [name]⟩).steps =
      t.follow false left (d ++ directories) [.into name] := by
  obtain ⟨front, hpieces, harrives⟩ := hout.exists_arrives_join ht hnames hdir
  rw [RawPath.steps, hpieces, List.map_append, List.map_singleton,
    (hnames name (by simp)).step, harrives.follow_append]

/-- A path of names below a directory leads to what stands there, if that is no link. -/
theorem LeadsTo.find?_join (ht : t.WellFormed) (hout : t.LeadsTo base left d) (hne : names ≠ [])
    {entry : Entry} (hentry : t.get? (d ++ names) = some entry)
    (hlink : ∀ target, entry ≠ .link target) :
    t.find? (base.join ⟨names⟩) =
      if (base.join ⟨names⟩).isUsable = true then some (d ++ names, entry) else none := by
  obtain ⟨directories, name, rfl⟩ := (List.eq_nil_or_concat names).resolve_left hne
  rw [List.concat_eq_append] at hentry ⊢
  have hnames : ∀ piece ∈ directories ++ [name], IsName piece :=
    fun _ hpiece => (ht.isName_of_mem hentry hpiece).1
  rw [← List.append_assoc] at hentry ⊢
  have hfollow : t.follow false left (d ++ directories) [.into name] =
      some ⟨d ++ directories ++ [name], left⟩ := by
    cases entry with
    | file bytes => exact follow_file hentry
    | directory => rw [follow_directory hentry, follow_nil]
    | link target => exact absurd rfl (hlink target)
  rw [← hout.follow_join ht hnames (ht.directory hentry)] at hfollow
  by_cases husable : (base.join ⟨directories ++ [name]⟩).isUsable = true
  · simp [find?, walk, husable, hfollow, hentry, -List.append_assoc]
  · simp [find?, walk, husable]

/-- A path names an entry by its last piece, in the directory that those before arrive at. -/
theorem entryAt?_eq_some_iff {path : RawPath} {l : Location} :
    t.entryAt? path = some l ↔ path.isUsable = true ∧ ∃ front name left directory,
      path.pieces = front ++ [name] ∧ IsName name ∧
      Arrives t maxLinks (t.start path) (front.map Path.step) left directory ∧
      t.get? directory = some .directory ∧ l = directory ++ [name] := by
  refine ⟨fun h => ?_, fun h => ?_⟩
  · simp only [entryAt?, Option.bind_eq_bind, Option.bind_eq_some_iff, Option.guard_eq_some',
      Option.pure_def, Option.some.injEq] at h
    obtain ⟨-, husable, name, hname, -, hstep, reached, hfollow, -, hmatch, rfl⟩ := h
    obtain ⟨front, hpieces⟩ := List.getLast?_eq_some_iff.mp hname
    have hdir : t.get? reached.location = some .directory := by
      split at hmatch
      next hdir => exact hdir
      next => cases hmatch
    rw [hpieces, List.dropLast_concat] at hfollow
    exact ⟨husable, front, name, reached.links, reached.location, hpieces,
      Path.step_eq_into_iff.mp hstep, arrives_of_follow hdir _ _ _ hfollow, hdir, rfl⟩
  · obtain ⟨husable, front, name, left, directory, hpieces, hname, harrives, hdir, rfl⟩ := h
    have hfollow := harrives.follow_append false []
    rw [List.append_nil, follow_nil] at hfollow
    simp [entryAt?, husable, hpieces, hname.step, hfollow, hdir]

/-- The entry that a path of names below a directory names is the one that stands there. -/
theorem LeadsTo.entryAt?_join (ht : t.WellFormed) (hout : t.LeadsTo base left d) (hne : names ≠ [])
    {entry : Entry} (hentry : t.get? (d ++ names) = some entry)
    (husable : (base.join ⟨names⟩).isUsable = true) :
    t.entryAt? (base.join ⟨names⟩) = some (d ++ names) := by
  obtain ⟨directories, name, rfl⟩ := (List.eq_nil_or_concat names).resolve_left hne
  rw [List.concat_eq_append] at hentry husable ⊢
  have hnames : ∀ piece ∈ directories ++ [name], IsName piece :=
    fun _ hpiece => (ht.isName_of_mem hentry hpiece).1
  rw [← List.append_assoc] at hentry
  have hdir := ht.directory hentry
  obtain ⟨front, hpieces, harrives⟩ := hout.exists_arrives_join ht hnames hdir
  exact entryAt?_eq_some_iff.mpr ⟨husable, front, name, left, _, hpieces, hnames name (by simp),
    harrives, hdir, (List.append_assoc ..).symm⟩

/-- A path names the same entry while all directories and links are kept. -/
theorem entryAt?_of_keeps {t' : FileTree} (hkeeps : Keeps t t') {path : RawPath} {l : Location}
    (h : t.entryAt? path = some l) : t'.entryAt? path = some l := by
  obtain ⟨husable, front, name, left, directory, hpieces, hname, harrives, hdir, rfl⟩ :=
    entryAt?_eq_some_iff.mp h
  refine entryAt?_eq_some_iff.mpr ⟨husable, front, name, left, directory, hpieces, hname, ?_,
    hkeeps.directory _ hdir, rfl⟩
  rw [start, hkeeps.workingDirectory]
  exact harrives.of_keeps hkeeps

/-- A file below a directory is read by the names on the way to it. -/
theorem LeadsTo.readText?_join (ht : t.WellFormed) (hout : t.LeadsTo output left d)
    (husable : Path.isUsable (Path.join output path) = true) {content : String}
    (hfile : t.get? (d ++ Path.pieces path) = some (.file content.toUTF8)) :
    t.readText? (Path.join output path) = some content := by
  have hfind := hout.find?_join ht (Path.pieces_ne_nil path) hfile (fun _ => nofun)
  rw [RawPath.join_pieces, RawPath.isUsable_ofText, if_pos husable] at hfind
  rw [readText?, hfind]
  exact Text.fromUTF8?_toUTF8 content

theorem follow_missing {links : Nat} {here : Location} (h : t.get? (here ++ [name]) = none) :
    t.follow false links here [.into name] = none := by
  cases links <;> simp [follow, followSteps, h]

/-- A path leads to nothing where nothing is in its directory. -/
theorem LeadsTo.holds_join_eq_false (ht : t.WellFormed) (hout : t.LeadsTo output left d)
    (h : Path.IsRelative path directories name)
    (hdir : t.get? (d ++ directories) = some .directory)
    (hnone : t.get? (d ++ Path.pieces path) = none) :
    t.holds (Path.join output path) = false := by
  rw [h.pieces, ← List.append_assoc] at hnone
  have hfollow := hout.follow_join ht h.names hdir
  rw [follow_missing hnone, ← h.pieces, RawPath.join_pieces] at hfollow
  simp only [holds, find?, walk, hfollow]
  simp

end Names

/-! ### Writing a file -/

/-- The locations between a directory and what names lead to from there. -/
def wayBelow (d : Location) (names : List Name) : List Location :=
  entered d (names.dropLast.map .into)

theorem mem_wayBelow_iff {d l : Location} {names : List Name} (hne : names ≠ []) :
    l ∈ wayBelow d names ↔
      ∃ front, front ≠ [] ∧ front <+: names ∧ front ≠ names ∧ l = d ++ front := by
  have hprefix : ∀ front : List Name, front <+: names.dropLast ↔
      front <+: names ∧ front ≠ names := by
    intro front
    obtain ⟨init, last, rfl⟩ := (List.eq_nil_or_concat names).resolve_left hne
    rw [List.concat_eq_append, List.dropLast_concat, List.prefix_concat_iff]
    refine ⟨fun h => ⟨Or.inr h, ?_⟩, fun h => h.1.resolve_left h.2⟩
    intro heq
    have hlength := h.length_le
    rw [heq, List.length_append, List.length_singleton] at hlength
    omega
  simp only [wayBelow, Path.mem_entered_into_iff, hprefix, and_assoc]

/-- A file has been written below a directory, at the end of a path of names. -/
structure Placed (d : Location) (path content : String) (t t' : FileTree) : Prop where
  changes : Changes [d ++ Path.pieces path] (wayBelow d (Path.pieces path)) t t'
  wellFormed : t'.WellFormed
  file : t'.get? (d ++ Path.pieces path) = some (.file content.toUTF8)

namespace Placed

variable {d : Location} {path content : String} {t t' : FileTree} (h : Placed d path content t t')
include h

theorem keeps (hlinks : t.NoLinksBelow d) : Keeps t t' where
  workingDirectory := h.changes.workingDirectory
  directory := h.changes.directory
  link l target hl := by
    have hne : l ∉ [d ++ Path.pieces path] := by
      rw [List.mem_singleton]
      exact fun heq => hlinks _ target (heq ▸ hl)
    rcases h.changes.other l hne with heq | ⟨-, hnone, -⟩
    · rw [heq, hl]
    · rw [hnone] at hl
      cases hl

theorem noLinksBelow (hlinks : t.NoLinksBelow d) : t'.NoLinksBelow d := by
  intro names target hl
  by_cases hmem : d ++ names ∈ [d ++ Path.pieces path]
  · rw [List.mem_singleton.mp hmem, h.file] at hl
    cases hl
  · rcases h.changes.other _ hmem with heq | ⟨-, -, hdir⟩
    · exact hlinks names target (heq ▸ hl)
    · rw [hdir] at hl
      cases hl

end Placed

/-- A path that fits below an output path: it has names that entries can have, and the file at
its end, as well as one staged beside it, has a path that can be used. -/
structure Fits (t : FileTree) (output path : String) : Prop where
  names : ∀ piece ∈ Path.pieces path, piece.isUsable = true
  usable : Path.isUsable (Path.join output path) = true
  room : t.canStage (Path.directoryOf (Path.join output path)) = true

/-- Names lead down from a directory to a place for a file: nothing but directories is in the
way, and none is at the end. -/
structure Clear (t : FileTree) (d : Location) (names : List Name) : Prop where
  way : ∀ front, front ≠ [] → front <+: names → front ≠ names →
    t.get? (d ++ front) = none ∨ t.get? (d ++ front) = some .directory
  place : t.get? (d ++ names) ≠ some .directory

/-- A directory in which a file can be staged has a path that can be used. -/
theorem isUsable_of_canStage {t : FileTree} {directory : String} (hne : directory ≠ "")
    (h : t.canStage directory = true) : Path.isUsable directory = true := by
  have hzero : (directory : RawPath).byteCount ≠ 0 := by
    rwa [ne_eq, RawPath.byteCount_ofText_eq_zero_iff]
  have hpieces : (directory : RawPath).pieces ≠ [] := Path.pieces_ne_nil directory
  have hname : (".tmp000000" : RawPath).isAbsolute = false := by
    rw [RawPath.isAbsolute_ofText]
    rfl
  have hne : (".tmp000000" : RawPath).pieces ≠ [] := Path.pieces_ne_nil _
  have hstaged := (RawPath.isUsable_of_join hname hne h).1
  rw [← RawPath.isUsable_ofText]
  by_cases habs : (directory : RawPath).isAbsolute = true
  · rw [RawPath.join, if_pos habs] at hstaged
    exact hstaged hzero
  · rw [Bool.not_eq_true] at habs
    obtain ⟨-, hcount⟩ := RawPath.byteCount_le_join (.ofLocation t.workingDirectory) habs hpieces
    exact (RawPath.isUsable_of_join habs hpieces (hstaged (by omega))).2 hzero

end FileTree

namespace Filing

open FileTree

variable {t t' : FileTree} {output path content : String} {name : Name} {directories : List Name}
  {left : Nat} {d : Location}

/-- **A file that was written** below a directory is there, and what else changed are
directories on the way down to it. -/
theorem writeAtomic_join_eq_ok (ht : t.WellFormed) (hout : t.LeadsTo output left d)
    (h : Path.IsRelative path directories name) (hlinks : t.NoLinksBelow d)
    (hrun : (writeAtomic (Path.join output path) content).runOn t = (.ok (), t')) :
    Placed d path content t t' ∧ Path.isUsable (Path.join output path) = true := by
  obtain ⟨front, hends⟩ := h.exists_ends_join output
  rcases hmk : t.makeDirectories (Path.directoryOf (Path.join output path)) with ⟨t1, _ | there⟩
  · rw [runOn_writeAtomic, hmk] at hrun
    cases hrun
  obtain ⟨rfl, hchanges, hwell, hdir⟩ := hout.exists_of_makeDirectories_join ht h hlinks hmk
  have hplace : d ++ directories ++ [name] = d ++ Path.pieces path := by
    rw [h.pieces, List.append_assoc]
  have hway : entered d (directories.map .into) = wayBelow d (Path.pieces path) := by
    rw [wayBelow, h.pieces, List.dropLast_concat]
  rcases runOn_writeAtomic_of_made hends content hmk with ⟨hadmits, hok⟩ | ⟨-, failure, hfail⟩
  · rw [hok] at hrun
    obtain rfl : _ = t' := (Prod.mk.inj hrun).2
    have hmoved : Changes [d ++ directories ++ [name]] [] t1
        (t1.put (d ++ directories ++ [name]) (.file content.toUTF8)) :=
      changes_put_file (by simp) hadmits.free
    refine ⟨⟨?_, hwell.put _ h.isName_name hdir hadmits.free, ?_⟩, hadmits.usable⟩
    · rw [← hplace, ← hway]
      simpa using hchanges.trans hmoved
    · rw [← hplace]
      simp
  · rw [hfail] at hrun
    cases hrun

/-- **Writing a file succeeds** below a directory if its path fits and the way down to it is
clear. -/
theorem exists_writeAtomic_join (ht : t.WellFormed) (hout : t.LeadsTo output left d)
    (h : Path.IsRelative path directories name) (hlinks : t.NoLinksBelow d)
    (hfits : t.Fits output path) (hclear : t.Clear d (Path.pieces path)) (content : String) :
    ∃ t', (writeAtomic (Path.join output path) content).runOn t = (.ok (), t') := by
  obtain ⟨front, hends⟩ := h.exists_ends_join output
  have hnames : ∀ directory ∈ directories, directory.isUsable = true :=
    fun directory hmem => hfits.names directory (by rw [h.pieces]; exact List.mem_append_left _ hmem)
  have hway : ∀ front, front ≠ [] → front <+: directories →
      t.get? (d ++ front) = none ∨ t.get? (d ++ front) = some .directory := by
    intro front hne hprefix
    refine hclear.way front hne ?_ ?_
    · rw [h.pieces]
      exact hprefix.trans (List.prefix_append _ _)
    · rw [h.pieces]
      intro heq
      have hlength := hprefix.length_le
      rw [heq, List.length_append, List.length_singleton] at hlength
      omega
  -- the directories are made, and the file is written in the last of them
  obtain ⟨t1, hmade⟩ := exists_makeSteps_into left directories hnames hway
  have hmk : t.makeDirectories (Path.directoryOf (Path.join output path)) =
      (t1, some (d ++ directories)) := by
    rw [hout.makeDirectories_join ht h,
      if_pos (isUsable_of_canStage (Path.directoryOf_ne_empty _) hfits.room), hmade]
  obtain ⟨-, hchanges, -, -⟩ := hout.exists_of_makeDirectories_join ht h hlinks hmk
  rcases runOn_writeAtomic_of_made hends content hmk with ⟨-, hok⟩ | ⟨hrefused, -⟩
  · exact ⟨_, hok⟩
  · refine absurd ⟨?_, hfits.usable, ?_, ?_⟩ hrefused
    · rw [hchanges.canStage, hfits.room]
    · rw [hends.lastName?, if_pos (hfits.names name (by rw [h.pieces]; simp))]
      rfl
    · -- the way ends above the file
      rw [List.append_assoc, ← h.pieces]
      intro hdir
      rcases hchanges.other (d ++ Path.pieces path) (by simp) with heq | ⟨hmem, -, -⟩
      · exact hclear.place (heq ▸ hdir)
      · rw [show entered d (directories.map .into) = wayBelow d (Path.pieces path) by
          rw [wayBelow, h.pieces, List.dropLast_concat], mem_wayBelow_iff (by simp [h.pieces])] at hmem
        obtain ⟨front, -, -, hne, heq⟩ := hmem
        exact hne (List.append_cancel_left heq).symm

theorem isUsable_of_writeAtomic {front : List Name} (hpath : Ends path front name)
    (hrun : (writeAtomic path content).runOn t = (.ok (), t')) : Path.isUsable path = true := by
  rcases hmk : t.makeDirectories (Path.directoryOf path) with ⟨t1, _ | there⟩
  · rw [runOn_writeAtomic, hmk] at hrun
    cases hrun
  · rcases runOn_writeAtomic_of_made hpath content hmk with ⟨hadmits, -⟩ | ⟨-, failure, hfail⟩
    · exact hadmits.usable
    · rw [hfail] at hrun
      cases hrun

/-- The first file that is written makes the output directory, if it is missing. Writing the
file is then the same as in the tree with that directory. -/
theorem exists_leadsTo_of_writeAtomic (ht : t.WellFormed) (hne : output ≠ "")
    (h : Path.IsRelative path directories name)
    (hrun : (writeAtomic (Path.join output path) content).runOn t = (.ok (), t')) :
    ∃ t0 left d, t.makeDirectories output = (t0, some d) ∧ t0.WellFormed ∧
      t0.LeadsTo output left d ∧
      (writeAtomic (Path.join output path) content).runOn t0 = (.ok (), t') := by
  obtain ⟨front, hends⟩ := h.exists_ends_join output
  have houtput : Path.isUsable output = true :=
    Path.isUsable_of_join hne h.isAbsolute_eq_false (isUsable_of_writeAtomic hends hrun)
  have hmake := makeDirectories_join h t output
  by_cases husable : Path.isUsable (Path.directoryOf (Path.join output path)) = true
  · rw [if_pos husable] at hmake
    rcases makeSteps_append (directories.map .into) (Path.moves output) t maxLinks (t.start output)
      with ⟨t1, -, hfail⟩ | ⟨t0, left, d, hmade, harrives, hrest⟩
    · rw [runOn_writeAtomic, hmake, hfail] at hrun
      cases hrun
    · have hgrows := grows_makeSteps (Path.moves output) t maxLinks (t.start output)
      have hwell := ht.makeSteps (Path.moves output) maxLinks (t.start output) (ht.start output)
        fun name hname => isName_of_mem_steps (List.mem_filter.mp hname).1
      rw [hmade] at hgrows hwell
      have hout : t0.LeadsTo output left d := by
        rw [LeadsTo, FileTree.start, hgrows.workingDirectory]
        exact harrives
      refine ⟨t0, left, d, ?_, hwell, hout, ?_⟩
      · rw [FileTree.makeDirectories, if_pos houtput, ← makeSteps_filter]
        exact hmade
      · have hsame : t0.makeDirectories (Path.directoryOf (Path.join output path)) =
            t.makeDirectories (Path.directoryOf (Path.join output path)) := by
          rw [hout.makeDirectories_join hwell h, if_pos husable, hmake, hrest]
        rw [runOn_writeAtomic] at hrun ⊢
        rw [hsame, hrun]
  · rw [if_neg husable] at hmake
    rw [runOn_writeAtomic, hmake] at hrun
    cases hrun

end Filing
end BuilderGen
