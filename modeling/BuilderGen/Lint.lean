import BuilderGen.Diagnostic
import BuilderGen.Manifest.Basic
import BuilderGen.Text.Segments

/-!
# BuilderGen.Lint

**Lints** look at a manifest and remark on what is allowed but cannot be
generated, or is not what it seems.

* `nonRecordBuilder`: a type is marked for a builder but is no record.
* `reservedWord`: names of buildable records are reserved in the target language.
  Where a reserved component name can be written raw, that is only worth a note.
* `emptyRecord`: a buildable record has no components.
* `unusedConstructor`: a declared constructor is never called.
-/

namespace BuilderGen

/-- A lint: its name, and what it remarks on a manifest, in order. -/
structure Lint where
  name : String
  check : Manifest → List Diagnostic

namespace Lint

/-- The phase the lints belong to. -/
def phase : String := "validate"

/-- A remark of a lint about a place. -/
def remark (severity : Severity) (message location : String) : Diagnostic :=
  { severity, phase, message, location := some location }

/-- The place of a type. -/
def typeLocation (name : String) : String := "types." ++ name

/-- Warns about types that are marked for a builder but are no records. -/
def nonRecordBuilder : Lint where
  name := "non-record-builder"
  check m := m.marked.filterMap fun (name, decl) =>
    if decl.kind = .record then none
    else some (remark .warning
      ("type '" ++ name ++ "' is marked for a builder but is a " ++ decl.kind.name ++
        ", not a record; no builder is generated")
      (typeLocation name))

/-- Whether a record of this name cannot be declared. -/
def isBadRecordName (language : Language) (name : String) : Bool :=
  language.isReserved name || (language == .rust && Language.neverRawWords.contains name)

/-- The remark on the name of a record. -/
def recordNameRemarks (language : Language) (name : String) : List Diagnostic :=
  if isBadRecordName language name then
    [remark .error ("record name '" ++ name ++ "' is a reserved word in " ++ language.name)
      (typeLocation name)]
  else []

/-- The remark on the package of a record. Only classes declare their package. -/
def packageRemarks (language : Language) (name package : String) : List Diagnostic :=
  match language with
  | .rust => []
  | .java =>
    match (Text.segments Language.java.separator package).find? Language.java.isReserved with
    | some segment =>
      [remark .error
        ("package '" ++ package ++ "' of record '" ++ name ++ "' contains the java reserved word '" ++
          segment ++ "'")
        (typeLocation name ++ ".package")]
    | none => []

/-- The remark on a component of a record. -/
def componentRemarks (language : Language) (record component : String) : List Diagnostic :=
  let subject := "component '" ++ component ++ "' of record '" ++ record ++ "'"
  let location := typeLocation record ++ "." ++ component
  match language with
  | .java =>
    if language.isReserved component then
      [remark .error (subject ++ " is a reserved word in java") location]
    else []
  | .rust =>
    if Language.neverRawWords.contains component then
      [remark .error (subject ++ " cannot be used as a rust identifier") location]
    else if language.isReserved component then
      [remark .info (subject ++ " is a rust keyword and is emitted as r#" ++ component) location]
    else []

/-- Reports names of buildable records that are reserved in the target language. -/
def reservedWord : Lint where
  name := "reserved-word"
  check m :=
    let language := m.project.language
    m.buildable.flatMap fun (name, decl) =>
      recordNameRemarks language name ++ packageRemarks language name decl.package ++
        decl.components.flatMap fun c => componentRemarks language name c.name

/-- Notes buildable records without components. -/
def emptyRecord : Lint where
  name := "empty-record"
  check m := m.buildable.filterMap fun (name, decl) =>
    if decl.components.isEmpty then
      some (remark .info ("record '" ++ name ++ "' has no components; its builder has no setters")
        (typeLocation name))
    else none

/-- Why the declared constructor of a type is never called, if that is so. -/
def constructorIgnored? (language : Language) (decl : TypeDecl) : Option String :=
  if !decl.wantsBuilder then some "the type gets no builder"
  else if language = .java then some "Java builders always call the canonical constructor"
  else none

/-- Warns about constructors that are never called. -/
def unusedConstructor : Lint where
  name := "unused-constructor"
  check m := m.types.filterMap fun (name, decl) => do
    let constructor ← decl.constructor
    let reason ← constructorIgnored? m.project.language decl
    return remark .warning
      ("constructor '" ++ constructor.name ++ "' of type '" ++ name ++ "' is ignored: " ++ reason)
      (typeLocation name ++ ".constructor")

/-- The lints that run unless others are chosen, in order. -/
def builtin : List Lint := [nonRecordBuilder, reservedWord, emptyRecord, unusedConstructor]

end Lint
end BuilderGen
