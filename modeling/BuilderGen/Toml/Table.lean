import BuilderGen.Toml.Value

/-!
# BuilderGen.Toml.Table

**Adding to tables.** A table is found by following a path of keys from another
one; tables that are missing on the way are made, and tables that are there may
or may not be entered, depending on how they came about.

* Headers pass through every table but inline ones, and through the last table of
  a list of tables.
* Dotted keys pass only through tables that no header declared, and the table they
  add to must be one that dotted keys made: two ways of declaring do not mix.
* A key is added once. A header may claim a table that was only implied, and decides
  its place among its siblings.
-/

namespace BuilderGen.Toml

/-- The entries with the value of `key` replaced by what `f` makes of it, or added
behind all others; fails when `f` does. -/
def Entries.alter? (key : String) (f : Option Value → Option Value) : Entries → Option Entries
  | [] => (f none).map fun value => [(key, value)]
  | (k, value) :: rest =>
    if k = key then (f (some value)).map fun value => (k, value) :: rest
    else (alter? key f rest).map ((k, value) :: ·)

/-- The value of a key. -/
def Entries.get? (entries : Entries) (key : String) : Option Value := entries.lookup key

/-- The tables with the last one replaced by what `f` makes of it. -/
def alterLast? (f : Entries → Option Entries) : List Entries → Option (List Entries)
  | [] => none
  | [last] => (f last).map ([·])
  | entries :: rest => (alterLast? f rest).map (entries :: ·)

/-- Whether a path may pass through a table that came about in some way. -/
def Origin.isPassable (dotted : Bool) : Origin → Bool
  | .inline => false
  | .header => !dotted
  | .implied | .dotted => true

/-- The way tables come about that a path makes. -/
def Origin.made (dotted : Bool) : Origin := if dotted then .dotted else .implied

/-- Follows `path` from a table and lets `act` change the table at its end.
`dotted` tells a dotted key from the path of a header. -/
def descend? (dotted : Bool) (act : Origin → Entries → Option Entries) :
    List String → Origin → Entries → Option Entries
  | [], origin, entries => act origin entries
  | key :: path, _, entries =>
    Entries.alter? key (fun
      | none => (descend? dotted act path (.made dotted) []).map (.table (.made dotted))
      | some (.table origin entries) =>
        if origin.isPassable dotted then
          (descend? dotted act path origin entries).map (.table origin)
        else none
      | some (.tables items) =>
        (alterLast? (descend? dotted act path .header) items).map .tables
      | some _ => none) entries

/-- Adds a value under a key that is not there yet. -/
def addNew? (key : String) (value : Value) (entries : Entries) : Option Entries :=
  Entries.alter? key (fun | none => some value | some _ => none) entries

/-- A path of at least one key, as the keys before the last one and the last one. -/
def splitLast? : List String → Option (List String × String)
  | [] => none
  | [key] => some ([], key)
  | key :: path => (splitLast? path).map fun (before, last) => (key :: before, last)

/-- Adds a value under a dotted key to a table. -/
def assign? (key : List String) (value : Value) (origin : Origin) (entries : Entries) :
    Option Entries := do
  let (path, last) ← splitLast? key
  let add := fun (origin : Origin) (entries : Entries) =>
    if (origin == .dotted) == path.isEmpty then none else addNew? last value entries
  descend? true add path origin entries

/-- Declares the table of a key, behind all entries there are: a table that was
only implied keeps what it holds and moves to where its own header puts it. -/
def claim? (key : String) (entries : Entries) : Option Entries :=
  match entries.get? key with
  | none => some (entries ++ [(key, .table .header [])])
  | some (.table .implied inner) =>
    some (entries.filter (·.1 != key) ++ [(key, .table .header inner)])
  | some _ => none

/-- Declares a table by a header. -/
def declare? (path : List String) (root : Entries) : Option Entries := do
  let (parents, last) ← splitLast? path
  descend? false (fun _ => claim? last) parents .header root

/-- Declares one more table of a list of tables by a header. -/
def declareItem? (path : List String) (root : Entries) : Option Entries := do
  let (parents, last) ← splitLast? path
  let append := fun
    | none => some (.tables [[]])
    | some (.tables items) => some (.tables (items ++ [[]]))
    | some _ => none
  descend? false (fun _ => Entries.alter? last append) parents .header root

/-- Adds a value under a dotted key to the table that a header declared. -/
def assignIn? (header key : List String) (value : Value) (root : Entries) : Option Entries :=
  descend? false (assign? key value) header .header root

end BuilderGen.Toml
