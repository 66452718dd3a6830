/-!
# BuilderGen.Report.Basic

**Reports**: what a command says, line by line. Results go to one channel,
diagnostics and failures to another; the order of the lines is kept across both.

A line of a report is what one statement says. It may hold line breaks itself.
-/

namespace BuilderGen

/-- Where a line goes. -/
inductive Channel
  /-- Results. -/
  | result
  /-- Diagnostics and failures. -/
  | trouble
  deriving DecidableEq, Repr

/-- A line of a report. -/
structure ReportLine where
  channel : Channel := .result
  text : String
  deriving DecidableEq, Repr

/-- The lines of a report, in order. -/
abbrev Report := List ReportLine

namespace Report

/-- The lines of a channel. -/
def on (report : Report) (channel : Channel) : List String :=
  (report.filter (·.channel == channel)).map (·.text)

/-- The lines of a channel as one text, each one ended by a line feed. -/
def textOn (report : Report) (channel : Channel) : String :=
  String.join ((report.on channel).map (· ++ "\n"))

/-- A number of things. -/
def plural (count : Nat) (noun : String) : String :=
  toString count ++ " " ++ noun ++ (if count = 1 then "" else "s")

@[simp] theorem on_nil (channel : Channel) : on [] channel = [] := rfl

@[simp] theorem on_append (a b : Report) (channel : Channel) :
    on (a ++ b) channel = on a channel ++ on b channel := by simp [on]

end Report

/-! ### Kinds of lines -/

namespace ReportLine

/-- A result. -/
def line (text : String) : ReportLine := { text }

/-- An empty line. -/
def blank : ReportLine := line ""

/-- A diagnostic, or a failure. -/
def trouble (text : String) : ReportLine := { channel := .trouble, text }

/-- A diagnostic that reports an error. -/
def error (text : String) : ReportLine := trouble ("error: " ++ text)

/-- A diagnostic that warns. -/
def warning (text : String) : ReportLine := trouble ("warning: " ++ text)

/-- The heading of what follows. -/
def heading (name : String) : ReportLine := line (name ++ ":")

/-- A value by its name. -/
def field (name value : String) : ReportLine := line (name ++ ": " ++ value)

/-- Something listed. -/
def item (text : String) : ReportLine := line ("  " ++ text)

/-- Something that is there now. -/
def added (text : String) : ReportLine := line ("  + " ++ text)

/-- Something that is gone. -/
def removed (text : String) : ReportLine := line ("  - " ++ text)

/-- A line across, with a label. -/
def divider (label : String) : ReportLine := line ("── " ++ label ++ " ──")

end ReportLine
end BuilderGen
