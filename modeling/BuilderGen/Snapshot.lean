import BuilderGen.Pipeline

/-!
# BuilderGen.Snapshot

**Snapshots** of a round: what it looked like after a phase. A recorder is a plugin
that takes one after every phase, writes it down somewhere if it is told to, and
then remembers it.
-/

namespace BuilderGen

/-- A round after a phase. -/
structure Snapshot where
  phase : String
  records : Option (List Record)
  diagnostics : List Diagnostic
  deriving DecidableEq, Repr

namespace Snapshot

/-- What a round looks like after a phase. -/
def capture (phase : String) (round : Round) : Snapshot :=
  { phase, records := round.records, diagnostics := round.diagnostics }

/-- The snapshot as JSON; records that are not there are left out. -/
def toJson (s : Snapshot) : Json :=
  .object ([("phase", .text s.phase)] ++
    Json.member? "records" (s.records.map fun records => .list (records.map Record.toJson)) ++
    [("diagnostics", .list (s.diagnostics.map Diagnostic.toJson))])

/-- The plugin that takes snapshots. `dump` writes one down and may fail; `remember`
keeps it. -/
def recorder {σ : Type} (dump : Snapshot → Effect σ Unit) (remember : Snapshot → σ → σ) :
    Plugin σ where
  after phase round := do
    let snapshot := capture phase round
    dump snapshot
    modify (remember snapshot)
    return round

/-- The recorder that only remembers. -/
def inMemory {σ : Type} (remember : Snapshot → σ → σ) : Plugin σ :=
  recorder (fun _ => pure ()) remember

end Snapshot
end BuilderGen
