import BuilderGen.Proofs.FileTree.WellFormed

/-!
# BuilderGen.Proofs.FileTree.Arrival

**Arriving at a directory, also through links.** `Arrives` says where steps lead to when
everything on the way is a directory or a link to one, and how many links may be followed
after that. It does not matter for what is around the way, so it stays true when
directories are added (`Arrives.of_keeps`), and steps can be taken one part after the other
(`Arrives.append`).

Looking for a directory is the same as arriving at it (`directory?_eq_some_iff`), and
making the directories of a path is arriving as well, in the tree with the directories
(`makeSteps_append`).
-/

namespace BuilderGen
namespace FileTree

open BuilderGen.Path (Step steps IsName NoSlash)

/-- Where the target of a link is followed from. -/
def linkStart (here : Location) (target : RawPath) : Location :=
  if target.isAbsolute then [] else here

/-- Steps from a location, with `links` links to follow, arrive at another one when
`left` of the links are left. -/
inductive Arrives (t : FileTree) :
    (links : Nat) → (here : Location) → List Step → (left : Nat) → (there : Location) → Prop
  | nil {links here} : Arrives t links here [] links here
  | stay {links here rest left there} (h : Arrives t links here rest left there) :
      Arrives t links here (.stay :: rest) left there
  | up {links here rest left there} (h : Arrives t links here.dropLast rest left there) :
      Arrives t links here (.up :: rest) left there
  | into {links here name rest left there}
      (hdir : t.get? (here ++ [name]) = some .directory)
      (h : Arrives t links (here ++ [name]) rest left there) :
      Arrives t links here (.into name :: rest) left there
  | link {links here name target rest between mid left there}
      (hlink : t.get? (here ++ [name]) = some (.link target))
      (htarget : Arrives t links (linkStart here target) (target.steps) between mid)
      (h : Arrives t between mid rest left there) :
      Arrives t (links + 1) here (.into name :: rest) left there

namespace Arrives

variable {t t' : FileTree} {links left between : Nat} {here there mid : Location}
  {front back : List Step}

/-- One part of the way after another. -/
theorem append (h : Arrives t links here front between mid)
    (h' : Arrives t between mid back left there) :
    Arrives t links here (front ++ back) left there := by
  induction h with
  | nil => exact h'
  | stay _ ih => exact .stay (ih h')
  | up _ ih => exact .up (ih h')
  | into hdir _ ih => exact .into hdir (ih h')
  | link hlink htarget _ _ ih => exact .link hlink htarget (ih h')

theorem exists_of_append :
    ∀ {front : List Step} {links : Nat} {here : Location},
      Arrives t links here (front ++ back) left there →
        ∃ between mid, Arrives t links here front between mid ∧
          Arrives t between mid back left there := by
  intro front
  induction front with
  | nil => intro links here h; exact ⟨links, here, .nil, h⟩
  | cons step front ih =>
      intro links here h
      cases h with
      | stay h =>
          obtain ⟨between, mid, h1, h2⟩ := ih h
          exact ⟨between, mid, .stay h1, h2⟩
      | up h =>
          obtain ⟨between, mid, h1, h2⟩ := ih h
          exact ⟨between, mid, .up h1, h2⟩
      | into hdir h =>
          obtain ⟨between, mid, h1, h2⟩ := ih h
          exact ⟨between, mid, .into hdir h1, h2⟩
      | link hlink htarget h =>
          obtain ⟨between, mid, h1, h2⟩ := ih h
          exact ⟨between, mid, .link hlink htarget h1, h2⟩

/-- Steps that stay lead nowhere. -/
theorem filter_iff (steps : List Step) :
    ∀ {links : Nat} {here : Location},
      Arrives t links here (steps.filter (· ≠ .stay)) left there ↔
        Arrives t links here steps left there := by
  induction steps with
  | nil => intro links here; rfl
  | cons step rest ih =>
      intro links here
      cases step with
      | stay =>
          rw [List.filter_cons_of_neg (by simp), ih]
          refine ⟨.stay, fun h => ?_⟩
          cases h with | stay h => exact h
      | up =>
          rw [List.filter_cons_of_pos (by simp)]
          refine ⟨fun h => ?_, fun h => ?_⟩
          · cases h with | up h => exact .up (ih.mp h)
          · cases h with | up h => exact .up (ih.mpr h)
      | into name =>
          rw [List.filter_cons_of_pos (by simp)]
          refine ⟨fun h => ?_, fun h => ?_⟩
          · cases h with
            | into hdir h => exact .into hdir (ih.mp h)
            | link hlink htarget h => exact .link hlink htarget (ih.mp h)
          · cases h with
            | into hdir h => exact .into hdir (ih.mpr h)
            | link hlink htarget h => exact .link hlink htarget (ih.mpr h)

/-- Names that lead through directories. -/
theorem of_names (ht : t.WellFormed) (names : List Name) :
    ∀ {here : Location}, t.get? (here ++ names) = some .directory →
      Arrives t links here (names.map .into) links (here ++ names) := by
  induction names with
  | nil => intro here _; simpa using Arrives.nil
  | cons name names ih =>
      intro here h
      rw [← List.singleton_append, ← List.append_assoc] at h ⊢
      exact .into (ht.directory_of_prefix (List.prefix_append _ _) h) (ih h)

/-- What steps arrive at is a directory. -/
theorem directory (ht : t.WellFormed) (h : Arrives t links here front left there) :
    t.get? here = some .directory → t.get? there = some .directory := by
  induction h with
  | nil => exact id
  | stay _ ih => exact ih
  | up _ ih => exact fun hhere => ih (ht.dropLast hhere)
  | into hdir _ ih => exact fun _ => ih hdir
  | link _ _ _ ihtarget ih =>
      intro hhere
      refine ih (ihtarget ?_)
      rw [linkStart]
      split
      · rfl
      · exact hhere

end Arrives

/-! ### Other trees -/

/-- A tree with all the directories and links of another one. -/
structure Keeps (t t' : FileTree) : Prop where
  workingDirectory : t'.workingDirectory = t.workingDirectory
  directory : ∀ l, t.get? l = some .directory → t'.get? l = some .directory
  link : ∀ l target, t.get? l = some (.link target) → t'.get? l = some (.link target)

/-- A tree with more directories than another one. -/
structure Grows (t t' : FileTree) : Prop where
  workingDirectory : t'.workingDirectory = t.workingDirectory
  other : ∀ l, t'.get? l = t.get? l ∨ t.get? l = none ∧ t'.get? l = some .directory

theorem Grows.refl (t : FileTree) : Grows t t := ⟨rfl, fun _ => Or.inl rfl⟩

theorem Grows.trans {t t' t'' : FileTree} (h : Grows t t') (h' : Grows t' t'') : Grows t t'' where
  workingDirectory := h'.workingDirectory.trans h.workingDirectory
  other l := by
    rcases h.other l with h1 | ⟨hnone, hdir⟩
    · rcases h'.other l with h2 | ⟨hnone', hdir'⟩
      · exact Or.inl (h2.trans h1)
      · exact Or.inr ⟨h1 ▸ hnone', hdir'⟩
    · rcases h'.other l with h2 | ⟨hnone', -⟩
      · exact Or.inr ⟨hnone, h2.trans hdir⟩
      · rw [hdir] at hnone'
        cases hnone'

theorem grows_put_directory {t : FileTree} {l : Location} (hl : l ≠ []) (hnone : t.get? l = none) :
    Grows t (t.put l .directory) where
  workingDirectory := rfl
  other k := by
    by_cases h : k = l
    · exact Or.inr ⟨h ▸ hnone, by simp [hl, h]⟩
    · exact Or.inl (by simp [hl, h])

/-- What is there stays, whatever it is. -/
theorem Grows.get?_eq {t t' : FileTree} (h : Grows t t') {l : Location} {entry : Entry}
    (hl : t.get? l = some entry) : t'.get? l = some entry := by
  rcases h.other l with heq | ⟨hnone, -⟩
  · rw [heq, hl]
  · rw [hnone] at hl
    cases hl

theorem Grows.keeps {t t' : FileTree} (h : Grows t t') : Keeps t t' where
  workingDirectory := h.workingDirectory
  directory _ hl := h.get?_eq hl
  link _ _ hl := h.get?_eq hl

theorem Arrives.of_keeps {t t' : FileTree} (hkeeps : Keeps t t') {links left : Nat}
    {here there : Location} {steps : List Step} (h : Arrives t links here steps left there) :
    Arrives t' links here steps left there := by
  induction h with
  | nil => exact .nil
  | stay _ ih => exact .stay ih
  | up _ ih => exact .up ih
  | into hdir _ ih => exact .into (hkeeps.directory _ hdir) ih
  | link hlink _ _ ihtarget ih => exact .link (hkeeps.link _ _ hlink) ihtarget ih

/-! ### Following -/

section Follow

variable {t : FileTree} {mayMiss : Bool} {links : Nat} {here : Location} {rest : List Step}

theorem follow_nil : t.follow mayMiss links here [] = some ⟨here, links⟩ := by
  cases links <;> rfl

theorem follow_stay : t.follow mayMiss links here (.stay :: rest) =
    t.follow mayMiss links here rest := by
  cases links <;> rfl

theorem follow_up : t.follow mayMiss links here (.up :: rest) =
    t.follow mayMiss links here.dropLast rest := by
  cases links <;> rfl

theorem follow_directory {name : Name} (h : t.get? (here ++ [name]) = some .directory) :
    t.follow mayMiss links here (.into name :: rest) =
      t.follow mayMiss links (here ++ [name]) rest := by
  cases links <;> simp only [follow, followSteps, h]

theorem follow_link {name : Name} {target : RawPath} (h : t.get? (here ++ [name]) = some (.link target)) :
    t.follow mayMiss (links + 1) here (.into name :: rest) =
      t.follow mayMiss links (linkStart here target) (target.steps ++ rest) := by
  simp only [follow, followSteps, h, linkStart]

theorem follow_file {name : Name} {bytes : ByteArray}
    (h : t.get? (here ++ [name]) = some (.file bytes)) :
    t.follow mayMiss links here [.into name] = some ⟨here ++ [name], links⟩ := by
  cases links <;> simp [follow, followSteps, h]

end Follow

/-- What comes after an arrival is followed from there. -/
theorem Arrives.follow_append {t : FileTree} {links left : Nat} {here there : Location}
    {front : List Step} (h : Arrives t links here front left there) (mayMiss : Bool) :
    ∀ rest, t.follow mayMiss links here (front ++ rest) = t.follow mayMiss left there rest := by
  induction h with
  | nil => intro rest; rfl
  | stay _ ih => intro rest; rw [List.cons_append, follow_stay, ih]
  | up _ ih => intro rest; rw [List.cons_append, follow_up, ih]
  | into hdir _ ih => intro rest; rw [List.cons_append, follow_directory hdir, ih]
  | link hlink _ _ ihtarget ih =>
      intro rest
      rw [List.cons_append, follow_link hlink, ihtarget, ih]

/-- Following steps to a directory is arriving there, if that is so at links. -/
theorem arrives_of_followSteps {t : FileTree} {links : Nat}
    {onLink : Location → List Step → Option Reached} {reached : Reached}
    (hreached : t.get? reached.location = some .directory)
    (hlinks : ∀ {here name target rest}, t.get? (here ++ [name]) = some (.link target) →
      onLink (linkStart here target) (target.steps ++ rest) = some reached →
        Arrives t links here (.into name :: rest) reached.links reached.location)
    (front : List Step) :
    ∀ here, t.followSteps false links onLink here front = some reached →
      Arrives t links here front reached.links reached.location := by
  induction front with
  | nil =>
      intro here h
      rw [← Option.some.inj h]
      exact .nil
  | cons step rest ih =>
      intro here h
      cases step with
      | stay => exact .stay (ih here h)
      | up => exact .up (ih here.dropLast h)
      | into name =>
          rw [followSteps] at h
          cases hget : t.get? (here ++ [name]) with
          | none => simp [hget] at h
          | some entry =>
              rw [hget] at h
              cases entry with
              | directory => exact .into hget (ih _ h)
              | link target => exact hlinks hget h
              | file bytes =>
                  -- a file is at the end, but no directory is
                  by_cases hrest : rest.isEmpty = true
                  · simp only [hrest, if_true] at h
                    rw [← Option.some.inj h, hget] at hreached
                    cases hreached
                  · simp [hrest] at h

/-- Following steps to a directory is arriving there. -/
theorem arrives_of_follow {t : FileTree} {reached : Reached}
    (hreached : t.get? reached.location = some .directory) (links : Nat) :
    ∀ (front : List Step) (here : Location), t.follow false links here front = some reached →
      Arrives t links here front reached.links reached.location := by
  induction links with
  | zero =>
      intro front here h
      refine arrives_of_followSteps hreached (fun _ hnone => ?_) front here h
      cases hnone
  | succ links ih =>
      intro front here h
      refine arrives_of_followSteps hreached (fun hlink h => ?_) front here h
      obtain ⟨between, mid, htarget, hrest⟩ := (ih _ _ h).exists_of_append
      exact .link hlink htarget hrest

/-! ### Paths to directories -/

/-- A path leads to a directory, and `left` links are left there. -/
def LeadsTo (t : FileTree) (path : RawPath) (left : Nat) (directory : Location) : Prop :=
  Arrives t maxLinks (t.start path) path.moves left directory

theorem LeadsTo.of_keeps {t t' : FileTree} (hkeeps : Keeps t t') {path : RawPath} {left : Nat}
    {directory : Location} (h : t.LeadsTo path left directory) :
    t'.LeadsTo path left directory := by
  rw [LeadsTo, start, hkeeps.workingDirectory]
  exact Arrives.of_keeps hkeeps h

theorem WellFormed.start {t : FileTree} (ht : t.WellFormed) (path : RawPath) :
    t.get? (t.start path) = some .directory := by
  rw [FileTree.start]
  split
  · rfl
  · exact ht.workingDirectory

theorem LeadsTo.directory {t : FileTree} (ht : t.WellFormed) {path : RawPath} {left : Nat}
    {directory : Location} (h : t.LeadsTo path left directory) :
    t.get? directory = some .directory :=
  Arrives.directory ht h (ht.start path)

/-- **Looking for a directory** is arriving at it. -/
theorem directory?_eq_some_iff {t : FileTree} (ht : t.WellFormed) {path : RawPath}
    {location : Location} :
    t.directory? path = some location ↔
      path.isUsable = true ∧ ∃ left, t.LeadsTo path left location := by
  refine ⟨fun h => ?_, fun h => ?_⟩
  · have hfind : t.find? path = some (location, .directory) := by
      rw [directory?] at h
      split at h
      next heq => rw [heq, Option.some.inj h]
      next => cases h
    simp only [find?, walk, Option.bind_eq_bind, Option.bind_eq_some_iff, Option.guard_eq_some',
      Option.pure_def, Option.some.injEq, Prod.mk.injEq] at hfind
    obtain ⟨_, ⟨_, husable, reached, hfollow, rfl⟩, _, hget, rfl, rfl⟩ := hfind
    exact ⟨husable, reached.links, (Arrives.filter_iff _).mpr (arrives_of_follow hget _ _ _ hfollow)⟩
  · obtain ⟨husable, left, hleads⟩ := h
    have hfollow := ((Arrives.filter_iff path.steps).mp hleads).follow_append false []
    rw [List.append_nil, follow_nil] at hfollow
    simp [directory?, find?, walk, husable, hfollow, hleads.directory ht]

/-- A path leads to the same directory while all directories and links are kept. -/
theorem directory?_of_keeps {t t' : FileTree} (hkeeps : Keeps t t') (ht : t.WellFormed)
    (ht' : t'.WellFormed) {path : RawPath} {directory : Location}
    (h : t.directory? path = some directory) : t'.directory? path = some directory := by
  obtain ⟨husable, left, hleads⟩ := (directory?_eq_some_iff ht).mp h
  exact (directory?_eq_some_iff ht').mpr ⟨husable, left, hleads.of_keeps hkeeps⟩

/-! ### Making directories -/

/-- Making a directory by its name: nothing can be made, or it is there, or it is put where
nothing stands. The rest is made from where that arrives. -/
theorem makeSteps_into_cases (t : FileTree) (links : Nat) (here : Location) (name : Name) :
    (∀ rest, t.makeSteps links here (.into name :: rest) = (t, none)) ∨
    ∃ t1 left mid,
      (t1 = t ∨ t.get? (here ++ [name]) = none ∧ t1 = t.put (here ++ [name]) .directory) ∧
      Arrives t1 links here [.into name] left mid ∧ t1.get? mid = some .directory ∧
      ∀ rest, t.makeSteps links here (.into name :: rest) = t1.makeSteps left mid rest := by
  cases hget : t.get? (here ++ [name]) with
  | none =>
      by_cases hname : name.isUsable = true
      · have hput : (t.put (here ++ [name]) .directory).get? (here ++ [name]) = some .directory := by
          simp
        exact Or.inr ⟨_, links, here ++ [name], Or.inr ⟨rfl, rfl⟩, .into hput .nil, hput,
          fun rest => by simp [makeSteps, hget, hname]⟩
      · exact Or.inl fun rest => by simp [makeSteps, hget, hname]
  | some entry =>
      cases entry with
      | file bytes => exact Or.inl fun rest => by simp [makeSteps, hget]
      | directory => exact Or.inr ⟨t, links, here ++ [name], Or.inl rfl, .into hget .nil, hget,
          fun rest => by simp [makeSteps, hget]⟩
      | link target =>
          cases hfollow : t.follow false links here [.into name] with
          | none => exact Or.inl fun rest => by simp [makeSteps, hget, hfollow]
          | some reached =>
              by_cases hdir : t.get? reached.location = some .directory
              · exact Or.inr ⟨t, reached.links, reached.location, Or.inl rfl,
                  arrives_of_follow hdir _ _ _ hfollow, hdir,
                  fun rest => by simp [makeSteps, hget, hfollow, hdir]⟩
              · refine Or.inl fun rest => ?_
                simp only [makeSteps, hget, hfollow]

/-- Directories are made the same way without the steps that stay. -/
theorem makeSteps_filter (front : List Step) :
    ∀ (t : FileTree) (links : Nat) (here : Location),
      t.makeSteps links here (front.filter (· ≠ .stay)) = t.makeSteps links here front := by
  induction front with
  | nil => intro t links here; rfl
  | cons step rest ih =>
      intro t links here
      cases step with
      | stay =>
          rw [List.filter_cons_of_neg (by simp)]
          exact ih t links here
      | up =>
          rw [List.filter_cons_of_pos (by simp)]
          exact ih t links here.dropLast
      | into name =>
          rw [List.filter_cons_of_pos (by simp)]
          simp only [makeSteps, ih]

/-- Making directories only adds directories. -/
theorem grows_makeSteps (front : List Step) :
    ∀ (t : FileTree) (links : Nat) (here : Location),
      Grows t (t.makeSteps links here front).1 := by
  induction front with
  | nil => intro t _ _; exact Grows.refl t
  | cons step rest ih =>
      intro t links here
      cases step with
      | stay => exact ih t links here
      | up => exact ih t links here.dropLast
      | into name =>
          rcases makeSteps_into_cases t links here name with
            hfail | ⟨t1, left, mid, hput, -, -, hrest⟩
          · rw [hfail]
            exact Grows.refl t
          · rw [hrest]
            rcases hput with rfl | ⟨hnone, rfl⟩
            · exact ih _ _ _
            · exact (grows_put_directory (by simp) hnone).trans (ih _ _ _)

/-- **Making directories one part after the other.** Either the first part cannot be made,
or it arrives in the tree that it leaves, and the rest is made from there. -/
theorem makeSteps_append (back : List Step) (front : List Step) :
    ∀ (t : FileTree) (links : Nat) (here : Location),
      (∃ t1, t.makeSteps links here front = (t1, none) ∧
        t.makeSteps links here (front ++ back) = (t1, none)) ∨
      ∃ t1 left mid, t.makeSteps links here front = (t1, some mid) ∧
        Arrives t1 links here front left mid ∧
        t.makeSteps links here (front ++ back) = t1.makeSteps left mid back := by
  induction front with
  | nil => intro t links here; exact Or.inr ⟨t, links, here, rfl, .nil, rfl⟩
  | cons step rest ih =>
      intro t links here
      cases step with
      | stay =>
          refine (ih t links here).imp_right fun h => ?_
          obtain ⟨t1, left, mid, hmade, harrives, hback⟩ := h
          exact ⟨t1, left, mid, hmade, .stay harrives, hback⟩
      | up =>
          refine (ih t links here.dropLast).imp_right fun h => ?_
          obtain ⟨t1, left, mid, hmade, harrives, hback⟩ := h
          exact ⟨t1, left, mid, hmade, .up harrives, hback⟩
      | into name =>
          rw [List.cons_append]
          rcases makeSteps_into_cases t links here name with
            hfail | ⟨t1, between, there, -, hinto, -, hrest⟩
          · exact Or.inl ⟨t, hfail _, hfail _⟩
          · rw [hrest, hrest]
            refine (ih t1 between there).imp_right fun h => ?_
            obtain ⟨t2, left, mid, hmade, harrives, hback⟩ := h
            -- the first step arrives in the larger tree too
            have hgrows := grows_makeSteps rest t1 between there
            rw [hmade] at hgrows
            exact ⟨t2, left, mid, hmade, (hinto.of_keeps hgrows.keeps).append harrives, hback⟩

theorem grows_makeDirectories (t : FileTree) (path : String) :
    Grows t (t.makeDirectories path).1 := by
  rw [makeDirectories]
  split
  · exact grows_makeSteps _ _ _ _
  · exact Grows.refl t

/-- Where steps arrive, there is nothing to make. -/
theorem Arrives.makeSteps_append {t : FileTree} (ht : t.WellFormed) {links left : Nat}
    {here there : Location} {front : List Step} (h : Arrives t links here front left there)
    (hhere : t.get? here = some .directory) (back : List Step) :
    t.makeSteps links here (front ++ back) = t.makeSteps left there back := by
  induction h with
  | nil => rfl
  | stay _ ih => exact ih hhere
  | up _ ih => exact ih (ht.dropLast hhere)
  | into hdir _ ih =>
      rw [List.cons_append, makeSteps, hdir]
      exact ih hdir
  | @link links here name target rest between mid left there hlink htarget _ _ ih =>
      have hfollow : t.follow false (links + 1) here [.into name] = some ⟨mid, between⟩ := by
        rw [follow_link hlink, htarget.follow_append, follow_nil]
      have hmid : t.get? mid = some .directory := by
        refine htarget.directory ht ?_
        rw [linkStart]
        split
        · rfl
        · exact hhere
      rw [List.cons_append, makeSteps, hlink]
      simp only [hfollow, hmid]
      exact ih hmid

/-- The steps of a path enter by names. -/
theorem isName_of_mem_steps {path : String} {name : Name} (h : .into name ∈ steps path) :
    IsName name ∧ NoSlash name := by
  obtain ⟨piece, hpiece, hstep⟩ := List.mem_map.mp h
  obtain ⟨rfl, hname⟩ := Path.eq_of_step_eq_into hstep
  exact ⟨hname, Path.noSlash_of_mem_pieces hpiece⟩

/-- A tree stays well-formed when directories are made. -/
theorem WellFormed.makeSteps (front : List Step) :
    ∀ {t : FileTree}, t.WellFormed → ∀ (links : Nat) (here : Location),
      t.get? here = some .directory →
      (∀ name, .into name ∈ front → IsName name ∧ NoSlash name) →
        (t.makeSteps links here front).1.WellFormed := by
  induction front with
  | nil => intro t ht _ _ _ _; exact ht
  | cons step rest ih =>
      intro t ht links here hhere hnames
      have hrest := fun name hname => hnames name (List.mem_cons_of_mem _ hname)
      cases step with
      | stay => exact ih ht links here hhere hrest
      | up => exact ih ht links here.dropLast (ht.dropLast hhere) hrest
      | into name =>
          rcases makeSteps_into_cases t links here name with
            hfail | ⟨t1, left, mid, hput, -, hmid, hmade⟩
          · rw [hfail]
            exact ht
          · rw [hmade]
            refine ih ?_ left mid hmid hrest
            rcases hput with rfl | ⟨hnone, rfl⟩
            · exact ht
            · exact ht.put _ (hnames name (by simp)) hhere (by simp [hnone])

end FileTree
end BuilderGen
