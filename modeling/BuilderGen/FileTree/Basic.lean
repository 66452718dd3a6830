import BuilderGen.FileTree.Path

/-!
# BuilderGen.FileTree.Basic

**File trees**: files with their bytes, directories, and symbolic links with the
path they point to.

Design points:

* Names are told apart by their bytes, whether or not these are a text.
* A tree is a list of entries by *location*, the names on the way from the root. The
  root itself is always a directory. Everything a tree holds is seen through
  `get?`, and the two changes, `put` and `erase`, say what they do to it.
* Paths are followed from the working directory. A link in the middle of a path is
  followed to the directory it points to; so is one at the end, unless the operation
  is about the link itself. A path through more than forty links leads nowhere, the
  links on the way to links counted in.
-/

namespace BuilderGen

/-- What stands at a location. -/
inductive Entry
  | file (bytes : ByteArray)
  | directory
  /-- A symbolic link to a path. -/
  | link (target : RawPath)

/-- Files are compared by their bytes, and links by their targets. -/
instance : BEq Entry where
  beq
    | .file bytes, .file others => bytes.beq others
    | .directory, .directory => true
    | .link target, .link other => target == other
    | _, _ => false

/-- A file tree and the working directory in it. -/
structure FileTree where
  workingDirectory : Location := []
  entries : List (Location × Entry) := []

namespace FileTree

/-! ### Looking at a tree, and changing it -/

/-- What stands at a location. -/
def get? (t : FileTree) (location : Location) : Option Entry :=
  if location = [] then some .directory else t.entries.lookup location

/-- Entries with the one at a location put in place of the one before, or added. -/
def putEntry (location : Location) (entry : Entry) :
    List (Location × Entry) → List (Location × Entry)
  | [] => [(location, entry)]
  | (l, e) :: rest =>
    if l = location then (l, entry) :: rest else (l, e) :: putEntry location entry rest

/-- Puts an entry at a location. -/
def put (t : FileTree) (location : Location) (entry : Entry) : FileTree :=
  { t with entries := putEntry location entry t.entries }

/-- Removes the entry at a location. -/
def erase (t : FileTree) (location : Location) : FileTree :=
  { t with entries := t.entries.filter (·.1 != location) }

/-- Removes the entry at a location and everything below it. -/
def eraseAll (t : FileTree) (location : Location) : FileTree :=
  { t with entries := t.entries.filter fun e => !location.isPrefixOf e.1 }

theorem lookup_putEntry (location : Location) (entry : Entry) (l : Location)
    (entries : List (Location × Entry)) :
    (putEntry location entry entries).lookup l =
      if l = location then some entry else entries.lookup l := by
  induction entries with
  | nil => simp only [putEntry, List.lookup_cons, List.lookup_nil]; split <;> simp_all
  | cons e rest ih =>
    obtain ⟨k, e⟩ := e
    simp only [putEntry]
    grind

theorem lookup_filter_ne (location l : Location) (entries : List (Location × Entry)) :
    (entries.filter (·.1 != location)).lookup l =
      if l = location then none else entries.lookup l := by
  induction entries with
  | nil => simp
  | cons e rest ih =>
    obtain ⟨k, e⟩ := e
    grind

/-- A location shows what was put there last, all others what they showed before. -/
@[simp] theorem get?_put (t : FileTree) {location : Location} (entry : Entry) (l : Location)
    (h : location ≠ []) :
    (t.put location entry).get? l = if l = location then some entry else t.get? l := by
  simp only [get?, put, lookup_putEntry]
  grind

/-- Nothing stands where an entry was removed; all other locations are as before. -/
@[simp] theorem get?_erase (t : FileTree) {location : Location} (l : Location)
    (h : location ≠ []) :
    (t.erase location).get? l = if l = location then none else t.get? l := by
  simp only [get?, erase, lookup_filter_ne]
  grind

/-! ### Following paths -/

/-- How many links a path may go through. -/
def maxLinks : Nat := 40

/-- Where a path starts. -/
def start (t : FileTree) (path : RawPath) : Location :=
  if path.isAbsolute then [] else t.workingDirectory

/-- Where steps lead to: a location, and how many links may still be followed from
there. -/
structure Reached where
  location : Location
  links : Nat

/-- Follows steps from a directory to a location that shows a file or a directory.
At a link, `onLink` goes on from a directory with the steps of the link and those
left over. If `mayMiss` holds, nothing needs to stand at the last step. -/
def followSteps (t : FileTree) (mayMiss : Bool) (links : Nat)
    (onLink : Location → List Path.Step → Option Reached) (here : Location) :
    List Path.Step → Option Reached
  | [] => some ⟨here, links⟩
  | .stay :: rest => followSteps t mayMiss links onLink here rest
  | .up :: rest => followSteps t mayMiss links onLink here.dropLast rest
  | .into name :: rest =>
    match t.get? (here ++ [name]) with
    | none =>
      if mayMiss && rest.isEmpty && name.isUsable then some ⟨here ++ [name], links⟩
      else none
    | some (.file _) => if rest.isEmpty then some ⟨here ++ [name], links⟩ else none
    | some .directory => followSteps t mayMiss links onLink (here ++ [name]) rest
    | some (.link target) =>
      onLink (if target.isAbsolute then [] else here) (target.steps ++ rest)

/-- Follows steps from a directory through at most `links` links. -/
def follow (t : FileTree) (mayMiss : Bool) :
    (links : Nat) → (here : Location) → List Path.Step → Option Reached
  | 0 => followSteps t mayMiss 0 fun _ _ => none
  | links + 1 => followSteps t mayMiss (links + 1) (follow t mayMiss links)

/-- Follows a path through as many links as it may go through. -/
def walk (t : FileTree) (mayMiss : Bool) (path : RawPath) : Option Location := do
  guard path.isUsable
  let reached ← t.follow mayMiss maxLinks (t.start path) path.steps
  return reached.location

/-- The location a path leads to and what stands there, links followed. -/
def find? (t : FileTree) (path : RawPath) : Option (Location × Entry) := do
  let location ← t.walk false path
  let entry ← t.get? location
  return (location, entry)

/-- Whether a path leads to something. -/
def holds (t : FileTree) (path : RawPath) : Bool := (t.find? path).isSome

/-- The directory a path leads to. -/
def directory? (t : FileTree) (path : RawPath) : Option Location :=
  match t.find? path with
  | some (location, .directory) => some location
  | _ => none

/-- The text of the file a path leads to, unless its bytes are no text. -/
def readText? (t : FileTree) (path : RawPath) : Option String :=
  match t.find? path with
  | some (_, .file bytes) => String.fromUTF8? bytes
  | _ => none

/-- The location of the entry a path names, if its directory is there: a link at
the end is not followed. -/
def place? (t : FileTree) (path : String) : Option Location := do
  guard (Path.isUsable path)
  let name ← Path.lastName? path
  let directory ← t.directory? (Path.directoryOf path)
  return directory ++ [name]

/-- The location of the entry that a path names, if it ends with a name and the steps
before that lead to a directory: a link at the end is not followed. -/
def entryAt? (t : FileTree) (path : RawPath) : Option Location := do
  guard path.isUsable
  let name ← path.pieces.getLast?
  guard (Path.step name = .into name)
  let reached ← t.follow false maxLinks (t.start path) (path.pieces.dropLast.map Path.step)
  guard (t.get? reached.location matches some .directory)
  return reached.location ++ [name]

/-! ### Listing -/

/-- The name by which `location` stands directly in `directory`. -/
def nameIn? : (directory location : Location) → Option Name
  | [], [name] => some name
  | d :: directory, l :: location => if d = l then nameIn? directory location else none
  | _, _ => none

theorem nameIn?_eq_some_iff {directory location : Location} {name : Name} :
    nameIn? directory location = some name ↔ location = directory ++ [name] := by
  induction directory generalizing location with
  | nil =>
    cases location with
    | nil => simp [nameIn?]
    | cons l rest => cases rest <;> simp [nameIn?]
  | cons d directory ih =>
    cases location with
    | nil => simp [nameIn?]
    | cons l location =>
      simp only [nameIn?]
      split
      next h => subst h; rw [ih]; simp
      next h =>
        simp only [reduceCtorEq, List.cons_append, List.cons.injEq, false_iff, not_and]
        exact fun e => absurd e.symm h

/-- The names of what stands directly in a directory, in no particular order. -/
def childNames (t : FileTree) (directory : Location) : List Name :=
  (t.entries.filterMap fun e => nameIn? directory e.1).eraseDups

/-- What stands directly in a directory, by name. -/
def children (t : FileTree) (directory : Location) : List (Name × Entry) :=
  (t.childNames directory).filterMap fun name =>
    (t.get? (directory ++ [name])).map fun entry => (name, entry)

theorem mem_of_lookup {l : Location} {e : Entry} {entries : List (Location × Entry)}
    (h : entries.lookup l = some e) : (l, e) ∈ entries := by
  induction entries with
  | nil => simp at h
  | cons x rest ih =>
    obtain ⟨k, v⟩ := x
    grind

/-- What a directory holds by a name is what stands there. -/
theorem mem_children {t : FileTree} {directory : Location} {name : Name} {entry : Entry} :
    (name, entry) ∈ t.children directory ↔ t.get? (directory ++ [name]) = some entry := by
  simp only [children, List.mem_filterMap, Option.map_eq_some_iff, Prod.mk.injEq]
  refine ⟨fun h => ?_, fun h => ?_⟩
  · obtain ⟨n, -, e, h, rfl, rfl⟩ := h
    exact h
  · refine ⟨name, ?_, entry, h, rfl, rfl⟩
    have hl : t.entries.lookup (directory ++ [name]) = some entry := by
      simpa [get?] using h
    simp only [childNames, List.mem_eraseDups, List.mem_filterMap]
    exact ⟨_, mem_of_lookup hl, nameIn?_eq_some_iff.mpr rfl⟩

/-- The length of the longest location. -/
def height (t : FileTree) : Nat := (t.entries.map (·.1.length)).foldl max 0

/-- Whether one location comes before another: in the order of their first
different names, as they are shown, and a directory before what is in it. -/
def precedes : Location → Location → Bool
  | [], _ => true
  | _ :: _, [] => false
  | a :: as, b :: bs => if a = b then precedes as bs else decide (a.shown < b.shown)

/-- Every location below the working directory with what stands there, in order. -/
def listing (t : FileTree) : List (Location × Entry) :=
  let below := t.entries.filterMap fun (location, entry) =>
    if t.workingDirectory.isPrefixOf location then
      match location.drop t.workingDirectory.length with
      | [] => none
      | name :: rest => some (name :: rest, entry)
    else none
  below.mergeSort fun a b => precedes a.1 b.1

end FileTree
end BuilderGen
