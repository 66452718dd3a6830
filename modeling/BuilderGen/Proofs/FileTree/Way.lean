import BuilderGen.FileTree.Edit
import BuilderGen.Proofs.FileTree.Path
import Mathlib.Data.Option.Basic

/-!
# BuilderGen.Proofs.FileTree.Way

**Ways through a tree without links.** Where steps arrive, and which locations they enter
on the way, then depends on the steps alone (`Path.arrive`, `Path.entered`). Making
directories makes those that are entered and are missing (`makeSteps_outcome`), and
following steps goes where they arrive if all that they enter are directories
(`followSteps_append`). A path that `Ends` with a name leads right below the directory
it is written in.

`Changes` is what all writing to a tree has in common: what is written where, and that
nothing else happens but that directories are made on the way. Writing composes
(`Changes.trans`).
-/

namespace BuilderGen

/-! ### Steps without a tree -/

namespace Path

/-- Where steps lead to from a location, if no link stands in the way. -/
def arrive (here : Location) : List Step → Location
  | [] => here
  | .stay :: rest => arrive here rest
  | .up :: rest => arrive here.dropLast rest
  | .into name :: rest => arrive (here ++ [name]) rest

/-- The locations that steps enter. -/
def entered (here : Location) : List Step → List Location
  | [] => []
  | .stay :: rest => entered here rest
  | .up :: rest => entered here.dropLast rest
  | .into name :: rest => (here ++ [name]) :: entered (here ++ [name]) rest

/-- Steps that stay do not matter for where a path leads. -/
theorem arrive_filter (steps : List Step) :
    ∀ here, arrive here (steps.filter (· ≠ .stay)) = arrive here steps := by
  induction steps with
  | nil => intro here; rfl
  | cons step rest ih =>
      intro here
      cases step with
      | stay => simpa [arrive] using ih here
      | up => simpa [arrive] using ih here.dropLast
      | into name => simpa [arrive] using ih (here ++ [name])

theorem entered_filter (steps : List Step) :
    ∀ here, entered here (steps.filter (· ≠ .stay)) = entered here steps := by
  induction steps with
  | nil => intro here; rfl
  | cons step rest ih =>
      intro here
      cases step with
      | stay => simpa [entered] using ih here
      | up => simpa [entered] using ih here.dropLast
      | into name => simpa [entered] using ih (here ++ [name])

theorem arrive_append (front back : List Step) :
    ∀ here, arrive here (front ++ back) = arrive (arrive here front) back := by
  induction front with
  | nil => intro here; rfl
  | cons step front ih =>
      intro here
      cases step with
      | stay => exact ih here
      | up => exact ih here.dropLast
      | into name => exact ih (here ++ [name])

theorem entered_append (front back : List Step) :
    ∀ here, entered here (front ++ back) =
      entered here front ++ entered (arrive here front) back := by
  induction front with
  | nil => intro here; rfl
  | cons step front ih =>
      intro here
      cases step with
      | stay => exact ih here
      | up => exact ih here.dropLast
      | into name => exact congrArg _ (ih (here ++ [name]))

/-- Names only lead down. -/
theorem arrive_into (names : List Name) :
    ∀ here, arrive here (names.map .into) = here ++ names := by
  induction names with
  | nil => intro here; simp [arrive]
  | cons name names ih =>
      intro here
      rw [List.map_cons, arrive, ih, List.append_assoc, List.singleton_append]

end Path

namespace FileTree

open BuilderGen.Path (arrive entered)

/-- No symbolic link stands anywhere in the tree. -/
def NoLinks (t : FileTree) : Prop := ∀ l target, t.get? l ≠ some (.link target)

/-! ### Changes -/

/-- What writing does to a tree: of the locations that are not `written`, only some on
the `way` change, and they do from nothing to a directory. -/
structure Changes (written way : List Location) (t t' : FileTree) : Prop where
  workingDirectory : t'.workingDirectory = t.workingDirectory
  other : ∀ l, l ∉ written →
    t'.get? l = t.get? l ∨ l ∈ way ∧ t.get? l = none ∧ t'.get? l = some .directory
  directory : ∀ l, t.get? l = some .directory → t'.get? l = some .directory

theorem Changes.refl (written way : List Location) (t : FileTree) : Changes written way t t where
  workingDirectory := rfl
  other _ _ := Or.inl rfl
  directory _ h := h

theorem Changes.trans {written written' way way' : List Location} {t t' t'' : FileTree}
    (h : Changes written way t t') (h' : Changes written' way' t' t'') :
    Changes (written ++ written') (way ++ way') t t'' where
  workingDirectory := h'.workingDirectory.trans h.workingDirectory
  directory l hl := h'.directory l (h.directory l hl)
  other l hl := by
    rw [List.mem_append, not_or] at hl
    rcases h.other l hl.1 with h1 | ⟨hway, hnone, hdir⟩
    · rcases h'.other l hl.2 with h2 | ⟨hway', hnone', hdir'⟩
      · exact Or.inl (h2.trans h1)
      · exact Or.inr ⟨List.mem_append_right _ hway', h1 ▸ hnone', hdir'⟩
    · rcases h'.other l hl.2 with h2 | ⟨-, hnone', -⟩
      · exact Or.inr ⟨List.mem_append_left _ hway, hnone, h2.trans hdir⟩
      · exact absurd (hdir.symm.trans hnone') (by simp)

/-- A tree stays without links when only files are written. -/
theorem Changes.noLinks {written way : List Location} {t t' : FileTree}
    (h : Changes written way t t') (ht : t.NoLinks)
    (hfiles : ∀ l ∈ written, ∃ bytes, t'.get? l = some (.file bytes)) : t'.NoLinks := by
  intro l target hl
  by_cases hw : l ∈ written
  · obtain ⟨bytes, hbytes⟩ := hfiles l hw
    rw [hbytes] at hl
    cases hl
  · rcases h.other l hw with heq | ⟨-, -, hdir⟩
    · exact ht l target (heq ▸ hl)
    · rw [hdir] at hl
      cases hl

theorem changes_put_directory {t : FileTree} {l : Location} (hl : l ≠ [])
    (hnone : t.get? l = none) : Changes [] [l] t (t.put l .directory) where
  workingDirectory := rfl
  other k _ := by
    by_cases h : k = l
    · exact Or.inr ⟨by simp [h], h ▸ hnone, by simp [hl, h]⟩
    · exact Or.inl (by simp [hl, h])
  directory k hk := by
    by_cases h : k = l
    · simp [hl, h]
    · simpa [hl, h] using hk

theorem changes_put_file {t : FileTree} {l : Location} {bytes : ByteArray} (hl : l ≠ [])
    (hdir : t.get? l ≠ some .directory) : Changes [l] [] t (t.put l (.file bytes)) where
  workingDirectory := rfl
  other k hk := by
    have hne : k ≠ l := by simpa using hk
    exact Or.inl (by rw [get?_put _ _ _ hl, if_neg hne])
  directory k hk := by
    have hne : k ≠ l := fun heq => hdir (heq ▸ hk)
    rw [get?_put _ _ _ hl, if_neg hne, hk]

/-! ### Making directories -/

/-- Making directories changes nothing else. If it gets to the end, it arrives where the
steps lead, and all they enter are directories. Only links on the way would lead elsewhere. -/
theorem makeSteps_outcome (links : Nat) (steps : List Path.Step) :
    ∀ {t : FileTree} here,
      (∀ e ∈ entered here steps, ∀ target, t.get? e ≠ some (.link target)) →
      Changes [] (entered here steps) t (t.makeSteps links here steps).1 ∧
      ∀ l, (t.makeSteps links here steps).2 = some l → l = arrive here steps ∧
        ∀ e ∈ entered here steps, (t.makeSteps links here steps).1.get? e = some .directory := by
  induction steps with
  | nil =>
      intro t here _
      refine ⟨Changes.refl _ _ t, fun l hl => ⟨(Option.some.inj hl).symm, by simp [entered]⟩⟩
  | cons step rest ih =>
      intro t here ht
      cases step with
      | stay => exact ih here ht
      | up => exact ih here.dropLast ht
      | into name =>
          have hne : here ++ [name] ≠ [] := by simp
          obtain ⟨hnolink, hrest⟩ := List.forall_mem_cons.mp ht
          rw [makeSteps]
          cases hget : t.get? (here ++ [name]) with
          | none =>
              -- the directory is made, and the rest goes on in the tree with it
              have hput := changes_put_directory hne hget
              have hrest' : ∀ e ∈ entered (here ++ [name]) rest, ∀ target,
                  (t.put (here ++ [name]) .directory).get? e ≠ some (.link target) := by
                intro e he target
                rcases hput.other e (by simp) with heq | ⟨-, -, hdir⟩
                · rw [heq]
                  exact hrest e he target
                · rw [hdir]
                  simp
              by_cases hname : name.isUsable = true
              · obtain ⟨hchanges, hdone⟩ := ih (here ++ [name]) hrest'
                simp only [hname, if_true]
                refine ⟨hput.trans hchanges, fun l hl => ?_⟩
                obtain ⟨harrive, hdirs⟩ := hdone l hl
                refine ⟨harrive, fun e he => ?_⟩
                rcases List.mem_cons.mp he with rfl | he
                · exact hchanges.directory _ (by simp [hne])
                · exact hdirs e he
              · simp only [hname]
                exact ⟨Changes.refl _ _ t, fun l hl => by cases hl⟩
          | some entry =>
              cases entry with
              | file bytes => exact ⟨Changes.refl _ _ t, fun l hl => by cases hl⟩
              | link target => exact absurd hget (hnolink target)
              | directory =>
                  -- it is on the way, but stays as it is
                  obtain ⟨hchanges, hdone⟩ := ih (here ++ [name]) hrest
                  refine ⟨(Changes.refl [] [here ++ [name]] t).trans hchanges, fun l hl => ?_⟩
                  obtain ⟨harrive, hdirs⟩ := hdone l hl
                  refine ⟨harrive, fun e he => ?_⟩
                  rcases List.mem_cons.mp he with rfl | he
                  · exact hchanges.directory _ hget
                  · exact hdirs e he

/-- Where all directories are there, none is made. -/
theorem makeSteps_of_entered (t : FileTree) (links : Nat) (steps : List Path.Step) :
    ∀ here, (∀ e ∈ entered here steps, t.get? e = some .directory) →
      t.makeSteps links here steps = (t, some (arrive here steps)) := by
  induction steps with
  | nil => intro here _; rfl
  | cons step rest ih =>
      intro here hdirs
      cases step with
      | stay => exact ih here hdirs
      | up => exact ih here.dropLast hdirs
      | into name =>
          rw [makeSteps, hdirs (here ++ [name]) (by simp [entered])]
          exact ih (here ++ [name]) fun e he => hdirs e (List.mem_cons_of_mem _ he)

/-! ### Following steps -/

/-- Steps through directories are followed to where they lead. -/
theorem followSteps_append (t : FileTree) (mayMiss : Bool) (links : Nat)
    (onLink : Location → List Path.Step → Option Reached) (rest : List Path.Step)
    (front : List Path.Step) :
    ∀ here, (∀ e ∈ entered here front, t.get? e = some .directory) →
      t.followSteps mayMiss links onLink here (front ++ rest) =
        t.followSteps mayMiss links onLink (arrive here front) rest := by
  induction front with
  | nil => intro here _; rfl
  | cons step front ih =>
      intro here hdirs
      cases step with
      | stay => exact ih here hdirs
      | up => exact ih here.dropLast hdirs
      | into name =>
          rw [List.cons_append, followSteps, hdirs (here ++ [name]) (by simp [entered])]
          exact ih (here ++ [name]) fun e he => hdirs e (List.mem_cons_of_mem _ he)

/-- A path whose directories are there leads to the file at its end. -/
theorem find?_of_entered {t : FileTree} {path : String} {front : List Path.Step} {name : Name}
    {bytes : ByteArray} (husable : Path.isUsable path = true)
    (hsteps : Path.steps path = front ++ [.into name])
    (hdirs : ∀ e ∈ entered (t.start path) front, t.get? e = some .directory)
    (hfile : t.get? (arrive (t.start path) front ++ [name]) = some (.file bytes)) :
    t.find? path = some (arrive (t.start path) front ++ [name], .file bytes) := by
  have hfollow : t.follow false maxLinks (t.start path) (Path.steps path) =
      some ⟨arrive (t.start path) front ++ [name], maxLinks⟩ := by
    rw [hsteps, maxLinks, follow, followSteps_append _ _ _ _ _ _ _ hdirs, followSteps, hfile]
    rfl
  simp [find?, walk, husable, hfollow, hfile]

/-! ### Where a path leads -/

/-- Where a path leads to without links. -/
def destination (t : FileTree) (path : String) : Location := arrive (t.start path) (Path.steps path)

/-- The directories on the way to where a path leads to. -/
def way (t : FileTree) (path : String) : List Location :=
  (entered (t.start path) (Path.steps path)).dropLast

/-- A path that ends with a name, after the pieces of its directory. -/
structure Ends (path : String) (front : List Name) (name : Name) : Prop where
  pieces : Path.pieces path = front ++ [name]
  name : Path.IsName name

section Ends

variable {path : String} {front : List Name} {name : Name}

theorem Ends.lastName? (h : Ends path front name) :
    Path.lastName? path = if name.isUsable then some name else none := by
  rw [Path.lastName?, h.pieces, List.getLast?_concat, Option.map_some, h.name.step]

theorem Ends.eq_of_lastName? (h : Ends path front name) {last : Name}
    (hlast : Path.lastName? path = some last) : last = name := by
  rw [h.lastName?] at hlast
  split at hlast
  next => exact (Option.some.inj hlast).symm
  next => cases hlast

theorem Ends.steps (h : Ends path front name) :
    Path.steps path = front.map Path.step ++ [.into name] := by
  rw [Path.steps, h.pieces, List.map_append, List.map_singleton, h.name.step]

theorem Ends.destination (h : Ends path front name) (t : FileTree) :
    t.destination path = arrive (t.start path) (front.map Path.step) ++ [name] := by
  rw [FileTree.destination, h.steps, Path.arrive_append]
  rfl

theorem Ends.way (h : Ends path front name) (t : FileTree) :
    t.way path = entered (t.start path) (front.map Path.step) := by
  rw [FileTree.way, h.steps, Path.entered_append, entered, entered, List.dropLast_concat]

theorem Ends.start_directoryOf (h : Ends path front name) (t : FileTree) :
    t.start (Path.directoryOf path) = t.start path := by
  rw [start, start, RawPath.isAbsolute_ofText, RawPath.isAbsolute_ofText,
    (Path.moves_directoryOf h.pieces h.name).2]

/-- The directory of the path leads to where the pieces before the name do. -/
theorem Ends.arrive_directoryOf (h : Ends path front name) (here : Location) :
    arrive here (Path.steps (Path.directoryOf path)) = arrive here (front.map Path.step) := by
  rw [← Path.arrive_filter, ← Path.arrive_filter (front.map Path.step)]
  exact congrArg _ (Path.moves_directoryOf h.pieces h.name).1

theorem Ends.entered_directoryOf (h : Ends path front name) (here : Location) :
    entered here (Path.steps (Path.directoryOf path)) = entered here (front.map Path.step) := by
  rw [← Path.entered_filter, ← Path.entered_filter (front.map Path.step)]
  exact congrArg _ (Path.moves_directoryOf h.pieces h.name).1

end Ends

section Changes

variable {written passed : List Location} {t t' : FileTree} (h : Changes written passed t t')
include h

/-- Writing does not change where paths lead to. -/
theorem Changes.destination (path : String) : t'.destination path = t.destination path := by
  rw [FileTree.destination, start, h.workingDirectory]
  rfl

theorem Changes.way (path : String) : t'.way path = t.way path := by
  rw [FileTree.way, start, h.workingDirectory]
  rfl

theorem Changes.canStage (path : String) : t'.canStage path = t.canStage path := by
  rw [FileTree.canStage, h.workingDirectory]
  rfl

end Changes

end FileTree
end BuilderGen
