import BuilderGen.FileTree.Output
import BuilderGen.Proofs.FileTree.Arrival

/-!
# BuilderGen.Proofs.FileTree.Atomic

**Atomic writing in any tree**, also with links. All that is made before the file takes its place
are directories that its path leads through (`MakesParents`). Then the file is put where the path
says, or nothing else happens, and that only if the tree does not admit the file there
(`Filing.writeAtomic_cases`): a directory that cannot be made is not there afterwards either
(`directory?_of_makeDirectories_eq_none`).

What the path names is replaced, and a link is not followed for that. So the path leads to the file
afterwards (`Replaces.place?_or`), with one exception: the way to its directory may go through the
link that has been replaced, and then there is no such way any more.
-/

namespace BuilderGen

open BuilderGen.Path (Step steps IsName NoSlash)

namespace FileTree

/-! ### Paths that end with a name -/

theorem exists_ends_of_lastName? {path : String} {name : Name} (h : Path.lastName? path = some name) :
    ∃ front, Ends path front name := by
  obtain ⟨front, piece, hpieces⟩ :=
    (List.eq_nil_or_concat (Path.pieces path)).resolve_left (Path.pieces_ne_nil path)
  rw [List.concat_eq_append] at hpieces
  rw [Path.lastName?, hpieces, List.getLast?_concat, Option.map_some] at h
  split at h
  next last hlast =>
    split at h
    next =>
      obtain rfl := Option.some.inj h
      obtain ⟨rfl, hname⟩ := Path.eq_of_step_eq_into (Option.some.inj hlast)
      exact ⟨front, hpieces, hname⟩
    next => cases h
  next => cases h

/-- A path names an entry of the directory that it is in. -/
theorem place?_eq_some_iff {t : FileTree} {path : String} {l : Location} :
    t.place? path = some l ↔ Path.isUsable path = true ∧ ∃ name directory,
      Path.lastName? path = some name ∧ t.directory? (Path.directoryOf path) = some directory ∧
        l = directory ++ [name] := by
  simp only [place?, Option.bind_eq_bind, Option.bind_eq_some_iff, Option.guard_eq_some',
    Option.pure_def, Option.some.injEq, eq_comm (b := l)]
  exact ⟨fun ⟨_, husable, name, hname, directory, hdir, hl⟩ =>
      ⟨husable, name, directory, hname, hdir, hl⟩,
    fun ⟨husable, name, directory, hname, hdir, hl⟩ =>
      ⟨(), husable, name, hname, directory, hdir, hl⟩⟩

/-- A path leads to the file that it names. -/
theorem find?_of_place? {t : FileTree} (ht : t.WellFormed) {path : String} {l : Location}
    {bytes : ByteArray} (hplace : t.place? path = some l) (hfile : t.get? l = some (.file bytes)) :
    t.find? path = some (l, .file bytes) := by
  obtain ⟨husable, name, directory, hname, hdir, rfl⟩ := place?_eq_some_iff.mp hplace
  obtain ⟨front, hends⟩ := exists_ends_of_lastName? hname
  obtain ⟨-, left, hleads⟩ := (directory?_eq_some_iff ht).mp hdir
  have harrives : Arrives t maxLinks (t.start path) (front.map Path.step) left directory := by
    rw [LeadsTo, hends.start_directoryOf, RawPath.moves_ofText,
      (Path.moves_directoryOf hends.pieces hends.name).1] at hleads
    exact (Arrives.filter_iff _).mp hleads
  have hfollow : t.follow false maxLinks (t.start path) (steps path) =
      some ⟨directory ++ [name], left⟩ := by
    rw [hends.steps, harrives.follow_append, follow_file hfile]
  simp [find?, walk, husable, hfollow, hfile]

/-! ### The directories above a file -/

/-- A location that the path of a file leads through: part of the way to its directory arrives
there. -/
def IsParent (t : FileTree) (path : String) (l : Location) : Prop :=
  ∃ front back left, steps (Path.directoryOf path) = front ++ back ∧
    Arrives t maxLinks (t.start (Path.directoryOf path)) front left l

/-- Nothing happens to a tree but that directories are made that the path of a file leads
through. -/
structure MakesParents (path : String) (t t' : FileTree) : Prop extends Grows t t' where
  parent : ∀ l, t.get? l = none → t'.get? l = some .directory → t'.IsParent path l

/-- Steps lead through the directories that are made on the way. -/
theorem exists_arrives_of_makeSteps {l : Location} (rest : List Step) :
    ∀ {t : FileTree} {links : Nat} {here : Location}, t.get? l = none →
      (t.makeSteps links here rest).1.get? l = some .directory →
        ∃ front back left, rest = front ++ back ∧
          Arrives (t.makeSteps links here rest).1 links here front left l := by
  induction rest with
  | nil =>
      intro t links here hnone hdir
      rw [makeSteps, hnone] at hdir
      cases hdir
  | cons step rest ih =>
      intro t links here hnone hdir
      cases step with
      | stay =>
          obtain ⟨front, back, left, rfl, harrives⟩ := @ih t links here hnone hdir
          exact ⟨.stay :: front, back, left, rfl, .stay harrives⟩
      | up =>
          obtain ⟨front, back, left, rfl, harrives⟩ := @ih t links here.dropLast hnone hdir
          exact ⟨.up :: front, back, left, rfl, .up harrives⟩
      | into name =>
          rcases makeSteps_into_cases t links here name with
            hfail | ⟨t1, left, mid, hput, hinto, -, hmade⟩
          · rw [hfail, hnone] at hdir
            cases hdir
          · rw [hmade] at hdir ⊢
            have hgrows := grows_makeSteps rest t1 left mid
            cases hget : t1.get? l with
            | none =>
                obtain ⟨front, back, left', rfl, harrives⟩ := ih hget hdir
                exact ⟨.into name :: front, back, left', rfl,
                  (hinto.of_keeps hgrows.keeps).append harrives⟩
            | some entry =>
                -- it has been made by this step
                rcases hput with rfl | ⟨-, rfl⟩
                · rw [hnone] at hget
                  cases hget
                · rw [get?_put _ _ _ (by simp)] at hget
                  split at hget
                  next hl =>
                    subst hl
                    exact ⟨[.into name], rest, links, rfl, .into hdir .nil⟩
                  next =>
                    rw [hnone] at hget
                    cases hget

theorem makesParents_makeDirectories (t : FileTree) (path : String) :
    MakesParents path t (t.makeDirectories (Path.directoryOf path)).1 where
  toGrows := grows_makeDirectories t _
  parent l hnone hdir := by
    have hworking := (grows_makeDirectories t (Path.directoryOf path)).workingDirectory
    rw [IsParent, start, hworking]
    rw [makeDirectories] at hdir ⊢
    split at hdir
    next husable =>
      rw [if_pos husable]
      exact exists_arrives_of_makeSteps _ hnone hdir
    next =>
      rw [hnone] at hdir
      cases hdir

theorem WellFormed.makeDirectories {t : FileTree} (ht : t.WellFormed) (path : String) :
    (t.makeDirectories path).1.WellFormed := by
  rw [FileTree.makeDirectories]
  split
  · exact ht.makeSteps _ _ _ (ht.start path) fun _ hname => isName_of_mem_steps hname
  · exact ht

/-- The directory that has been made is the one that the path leads to. -/
theorem directory?_of_makeDirectories {t t1 : FileTree} (ht : t.WellFormed) {path : String}
    {directory : Location} (h : t.makeDirectories path = (t1, some directory)) :
    t1.directory? path = some directory := by
  have hwell := ht.makeDirectories path
  have hworking := (grows_makeDirectories t path).workingDirectory
  rw [h] at hwell hworking
  rw [makeDirectories] at h
  split at h
  next husable =>
    refine (directory?_eq_some_iff hwell).mpr ⟨by rwa [RawPath.isUsable_ofText], ?_⟩
    rcases makeSteps_append [] (steps path) t maxLinks (t.start path) with
      ⟨_, hfail, -⟩ | ⟨_, left, _, hmade, harrives, -⟩
    · rw [h] at hfail
      cases hfail
    · rw [h] at hmade
      cases hmade
      refine ⟨left, ?_⟩
      rw [LeadsTo, start, hworking]
      exact (Arrives.filter_iff _).mpr harrives
  next => cases h

/-- Where steps have been made, making them again comes to the same. -/
theorem makeSteps_again (rest : List Step) :
    ∀ {t : FileTree} (links : Nat) {here : Location}, t.WellFormed →
      t.get? here = some .directory →
      (∀ name, .into name ∈ rest → IsName name ∧ NoSlash name) →
        (t.makeSteps links here rest).1.makeSteps links here rest =
          t.makeSteps links here rest := by
  induction rest with
  | nil => intro t links here _ _ _; rfl
  | cons step rest ih =>
      intro t links here ht hhere hnames
      have hrest := fun name hname => hnames name (List.mem_cons_of_mem _ hname)
      cases step with
      | stay => exact ih links ht hhere hrest
      | up => exact ih links ht (ht.dropLast hhere) hrest
      | into name =>
          rcases makeSteps_into_cases t links here name with
            hfail | ⟨t1, left, mid, hput, hinto, hmid, hmade⟩
          · rw [hfail, hfail]
          · have hwell : t1.WellFormed := by
              rcases hput with rfl | ⟨hnone, rfl⟩
              · exact ht
              · exact ht.put _ (hnames name (by simp)) hhere (by simp [hnone])
            have hgrows := grows_makeSteps (.into name :: rest) t links here
            have hkeeps := grows_makeSteps rest t1 left mid
            have hdone := ht.makeSteps (.into name :: rest) links here hhere hnames
            rw [hmade] at hgrows hdone ⊢
            -- what this step arrives at is still there when the rest has been made
            have hagain := (hinto.of_keeps hkeeps.keeps).makeSteps_append hdone
              (hgrows.get?_eq hhere) rest
            rw [List.singleton_append] at hagain
            rw [hagain, ih left hwell hmid hrest]

/-- A directory that cannot be made is not there. -/
theorem directory?_of_makeDirectories_eq_none {t t1 : FileTree} (ht : t.WellFormed)
    {path : String} (h : t.makeDirectories path = (t1, none)) : t1.directory? path = none := by
  have hwell := ht.makeDirectories path
  have hgrows := grows_makeDirectories t path
  rw [h] at hwell hgrows
  rw [Option.eq_none_iff_forall_ne_some]
  intro directory hdir
  obtain ⟨husable, left, hleads⟩ := (directory?_eq_some_iff hwell).mp hdir
  rw [RawPath.isUsable_ofText] at husable
  rw [makeDirectories, if_pos husable] at h
  have hagain := makeSteps_again (steps path) maxLinks ht (ht.start path) fun _ hname =>
    isName_of_mem_steps hname
  rw [LeadsTo, start, hgrows.workingDirectory] at hleads
  have hmade := ((Arrives.filter_iff _).mp hleads).makeSteps_append hwell
    (hgrows.get?_eq (ht.start path)) []
  rw [List.append_nil] at hmade
  rw [h] at hagain
  cases hagain.symm.trans hmade

/-! ### Replacing what a path names -/

/-- A file is put at a location, in the place of nothing, a file or a link, and all else stays. -/
structure Replaces (l : Location) (bytes : ByteArray) (t t' : FileTree) : Prop where
  free : t.get? l ≠ some .directory
  changes : Changes [l] [] t t'
  file : t'.get? l = some (.file bytes)

namespace Replaces

variable {t t' : FileTree} {l : Location} {bytes : ByteArray} (h : Replaces l bytes t t')
include h

theorem get?_of_ne {k : Location} (hk : k ≠ l) : t'.get? k = t.get? k :=
  (h.changes.other k (by simpa using hk)).resolve_right (by simp)

/-- There were all the directories and links before. -/
theorem keeps_before : Keeps t' t where
  workingDirectory := h.changes.workingDirectory.symm
  directory k hk := by
    have hne : k ≠ l := fun heq => by simp [heq, h.file] at hk
    rw [← h.get?_of_ne hne, hk]
  link k target hk := by
    have hne : k ≠ l := fun heq => by simp [heq, h.file] at hk
    rw [← h.get?_of_ne hne, hk]

/-- There are all the directories and links, if none of them was replaced. -/
theorem keeps (hlink : ∀ target, t.get? l ≠ some (.link target)) : Keeps t t' where
  workingDirectory := h.changes.workingDirectory
  directory := h.changes.directory
  link k target hk := by
    have hne : k ≠ l := fun heq => hlink target (heq ▸ hk)
    rw [h.get?_of_ne hne, hk]

/-- A path leads to the file that has replaced what it named, or it names nothing any more, and
that can only be if a link was replaced. -/
theorem place?_or (ht : t.WellFormed) (ht' : t'.WellFormed) {path : String}
    (hplace : t.place? path = some l) :
    t'.place? path = some l ∧ t'.find? path = some (l, .file bytes) ∨
      t'.place? path = none ∧ ∃ target, t.get? l = some (.link target) := by
  obtain ⟨husable, name, directory, hname, hdir, rfl⟩ := place?_eq_some_iff.mp hplace
  cases hdir' : t'.directory? (Path.directoryOf path) with
  | some directory' =>
      cases hdir.symm.trans (directory?_of_keeps h.keeps_before ht' ht hdir')
      have hplace' := place?_eq_some_iff.mpr ⟨husable, name, directory, hname, hdir', rfl⟩
      exact Or.inl ⟨hplace', find?_of_place? ht' hplace' h.file⟩
  | none =>
      refine Or.inr ⟨?_, by_contra fun hlink => ?_⟩
      · simp [place?, hdir']
      · -- without a link in its place, the directory would still be found
        have hkeeps := h.keeps fun target htarget => hlink ⟨target, htarget⟩
        cases hdir'.symm.trans (directory?_of_keeps hkeeps ht ht' hdir)

end Replaces

theorem replaces_put {t : FileTree} {l : Location} (bytes : ByteArray)
    (hdir : t.get? l ≠ some .directory) : Replaces l bytes t (t.put l (.file bytes)) := by
  have hroot : l ≠ [] := fun heq => hdir (by rw [heq]; rfl)
  exact ⟨hdir, changes_put_file hroot hdir, by rw [get?_put _ _ _ hroot, if_pos rfl]⟩

/-- What a path names may be replaced, unless it is a directory. -/
theorem WellFormed.put_place {t : FileTree} (ht : t.WellFormed) {path : String} {l : Location}
    (hplace : t.place? path = some l) (entry : Entry) (hdir : t.get? l ≠ some .directory) :
    (t.put l entry).WellFormed := by
  obtain ⟨-, name, directory, hname, hdirectory, rfl⟩ := place?_eq_some_iff.mp hplace
  obtain ⟨front, hends⟩ := exists_ends_of_lastName? hname
  have hmem : name ∈ Path.pieces path := by simp [hends.pieces]
  obtain ⟨-, left, hleads⟩ := (directory?_eq_some_iff ht).mp hdirectory
  exact ht.put entry ⟨hends.name, Path.noSlash_of_mem_pieces hmem⟩ (hleads.directory ht) hdir

end FileTree

namespace Filing

open FileTree

/-! ### Writing -/

/-- The directories above the file are made, and then the file is put where the path says, or
nothing else happens because the tree does not admit it there. -/
theorem writeAtomic_cases {t t1 : FileTree} (ht : t.WellFormed) (path content : String)
    (ht1 : (t.makeDirectories (Path.directoryOf path)).1 = t1) :
    (∃ l, t1.place? path = some l ∧ t1.Admits path l ∧
      (writeAtomic path content).runOn t = (.ok (), t1.put l (.file content.toUTF8))) ∨
    (∀ l, t1.place? path = some l → ¬ t1.Admits path l) ∧
      ∃ failure, (writeAtomic path content).runOn t = (.error failure, t1) := by
  rcases hmade : t.makeDirectories (Path.directoryOf path) with ⟨t1, _ | directory⟩
  · rw [hmade] at ht1
    subst ht1
    refine Or.inr ⟨fun l hplace => ?_, _, by rw [runOn_writeAtomic, hmade]⟩
    obtain ⟨-, _, _, -, hdir, -⟩ := place?_eq_some_iff.mp hplace
    rw [directory?_of_makeDirectories_eq_none ht hmade] at hdir
    cases hdir
  rw [hmade] at ht1
  subst ht1
  have hdir := directory?_of_makeDirectories ht hmade
  cases hlast : Path.lastName? path with
  | none =>
      refine Or.inr ⟨fun l hplace => ?_, ?_⟩
      · obtain ⟨-, _, _, hname, -, -⟩ := place?_eq_some_iff.mp hplace
        rw [hlast] at hname
        cases hname
      · rw [runOn_writeAtomic, hmade, hlast, ite_self]
        by_cases hstage : t1.canStage (Path.directoryOf path) = true <;> simp [hstage]
  | some name =>
      obtain ⟨front, hends⟩ := exists_ends_of_lastName? hlast
      refine (runOn_writeAtomic_of_made hends content hmade).imp (fun ⟨hadmits, hrun⟩ => ?_)
        fun ⟨hnot, hfail⟩ => ⟨fun l hplace => ?_, hfail⟩
      · exact ⟨_, place?_eq_some_iff.mpr ⟨hadmits.usable, name, directory, hlast, hdir, rfl⟩,
          hadmits, hrun⟩
      · obtain ⟨-, _, _, hname, hdirectory, rfl⟩ := place?_eq_some_iff.mp hplace
        cases hlast.symm.trans hname
        cases hdir.symm.trans hdirectory
        exact hnot

theorem runOn_writeOutput_ifMissing (t : FileTree) (path content : String) :
    (writeOutput .ifMissing path content).runOn t =
      if t.holds path = true then (.ok .skipped, t)
      else match (writeAtomic path content).runOn t with
        | (.ok (), t') => (.ok .written, t')
        | (.error failure, t') => (.error failure, t') := by
  rw [writeOutput, Effect.runOn_bind, Effect.runOn_get]
  cases hholds : t.holds path with
  | true =>
      simp only [hholds, and_self, if_true]
      rfl
  | false =>
      simp only [hholds, Bool.false_eq_true, and_false, if_false, Effect.runOn_bind]
      rcases (writeAtomic path content).runOn t with ⟨_ | _, t'⟩ <;> rfl

/-- **Writing is all or nothing.** At most directories above the file are made before, and a file
that is only to be written if it is missing is skipped exactly if its path leads to something. -/
theorem writeAtomic_all_or_nothing {t : FileTree} (ht : t.WellFormed) (path content : String) :
    (∃ t1, MakesParents path t t1 ∧
      ((∀ l, t1.place? path = some l → ¬ t1.Admits path l) ∧
          (∃ failure, (writeAtomic path content).runOn t = (.error failure, t1)) ∨
        ∃ l t', (writeAtomic path content).runOn t = (.ok (), t') ∧ t1.place? path = some l ∧
          Replaces l content.toUTF8 t1 t' ∧
          (t'.place? path = some l ∧ t'.find? path = some (l, .file content.toUTF8) ∨
            t'.place? path = none ∧ ∃ target, t.get? l = some (.link target)))) ∧
    (∀ t', (writeOutput .ifMissing path content).runOn t = (.ok .skipped, t') ↔
      t.holds path = true ∧ t' = t) ∧
    (t.holds path = false → (writeOutput .ifMissing path content).runOn t =
      match (writeAtomic path content).runOn t with
      | (.ok (), t') => (.ok .written, t')
      | (.error failure, t') => (.error failure, t')) := by
  have hparents := makesParents_makeDirectories t path
  refine ⟨⟨_, hparents, ?_⟩, fun t' => ?_, fun hholds => ?_⟩
  · rcases writeAtomic_cases ht path content rfl with ⟨l, hplace, hadmits, hrun⟩ | hfail
    · have hwell := ht.makeDirectories (Path.directoryOf path)
      have hreplaces := replaces_put content.toUTF8 hadmits.free
      have hwell' := hwell.put_place hplace (.file content.toUTF8) hadmits.free
      refine Or.inr ⟨_, _, hrun, hplace, hreplaces,
        (hreplaces.place?_or hwell hwell' hplace).imp_right ?_⟩
      rintro ⟨hnone, target, hlink⟩
      -- links are not made, so this one stood there from the start
      rcases hparents.other l with heq | ⟨-, hdir⟩
      · exact ⟨hnone, target, heq ▸ hlink⟩
      · exact absurd hdir hadmits.free
    · exact Or.inl hfail
  · rw [runOn_writeOutput_ifMissing]
    split
    next hholds => simp [hholds, eq_comm]
    next hholds =>
      rcases (writeAtomic path content).runOn t with ⟨_ | _, t''⟩ <;> simp [hholds]
  · rw [runOn_writeOutput_ifMissing, if_neg (by simp [hholds])]

/-- A link to the directory that it is in. -/
def looped : FileTree where
  entries := [(["l"], .link ".")]

theorem wellFormed_looped : looped.WellFormed :=
  wellFormed_empty.put (l := []) (.link ".") (by simp [IsName, NoSlash, Path.isIdle]) rfl
    (by simp [FileTree.get?])

/-- The file is written in the place of the link. -/
theorem link_replaced :
    looped.WellFormed ∧ ∃ t', (writeAtomic "l" "x").runOn looped = (.ok (), t') ∧
      t'.find? "l" = some ([.text "l"], .file "x".toUTF8) := by
  obtain ⟨t1, hparents, hcases⟩ := (writeAtomic_all_or_nothing wellFormed_looped "l" "x").1
  have hrun : (writeAtomic "l" "x").runOn looped =
      (.ok (), { entries := [(["l"], .file "x".toUTF8)] }) := rfl
  have hplace : ({ entries := [(["l"], .file "x".toUTF8)] } : FileTree).place? "l" =
      some [.text "l"] := rfl
  rw [hrun] at hcases
  rcases hcases with ⟨-, failure, hfail⟩ | ⟨l, t', hok, -, -, hfound⟩
  · cases hfail
  · cases hok
    rw [hplace] at hfound
    rcases hfound with ⟨hl, hfind⟩ | ⟨hnone, -⟩
    · cases hl
      exact ⟨wellFormed_looped, _, hrun, hfind⟩
    · cases hnone

/-- A path that goes through the link that it names does not lead to what is written there. -/
theorem looped_path_lost :
    looped.WellFormed ∧ ∃ t', (writeAtomic "l/l" "x").runOn looped = (.ok (), t') ∧
      t'.find? "l/l" = none ∧ t'.place? "l/l" = none :=
  ⟨wellFormed_looped, { entries := [(["l"], .file "x".toUTF8)] }, rfl, rfl, rfl⟩

end Filing
end BuilderGen
