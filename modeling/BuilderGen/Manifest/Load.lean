import BuilderGen.Manifest.Label
import BuilderGen.Manifest.Shape
import BuilderGen.Toml.Document

/-!
# BuilderGen.Manifest.Load

**Reading a manifest** from its text: the text has to be a document, the document
to have the shape of a manifest, and the manifest to keep the rules. What goes
wrong first is the error.
-/

namespace BuilderGen

/-- Why a text is not read as a document with the right shape. -/
inductive Malformed
  /-- It is no document. -/
  | syntactic
  /-- It is a document of another shape. -/
  | shape (fault : ShapeFault)
  deriving DecidableEq, Repr

/-- Why there is no manifest. -/
inductive ManifestError
  /-- The file at a path cannot be read. -/
  | unreadable (path : String)
  | malformed (reason : Malformed)
  | violation (violation : Violation)
  deriving DecidableEq, Repr

namespace ManifestError

/-- What a name that is no identifier names. -/
def badNameMessage (context name : String) : String :=
  "invalid " ++ context ++ " name '" ++ name ++ "'"

/-- What is said about a violation. -/
def violationMessage : Violation → String
  | .namelessProject => "project name cannot be empty"
  | .typeName name => badNameMessage "type" name
  | .package record package => badNameMessage ("package of '" ++ record ++ "'") package
  | .componentName record name => badNameMessage ("component in '" ++ record ++ "'") name
  | .constructorName record name => badNameMessage ("constructor of '" ++ record ++ "'") name
  | .missingType record component =>
    "component '" ++ component ++ "' of '" ++ record ++ "' has no type"
  | .duplicateComponent record name =>
    "duplicate component '" ++ name ++ "' in '" ++ record ++ "'"

/-- What is said about an error. -/
def message : ManifestError → String
  | unreadable path => "failed to read '" ++ path ++ "'"
  | malformed _ => "failed to parse rebar.toml"
  | violation v => violationMessage v

/-- The code an error can be looked up by. -/
def code? : ManifestError → Option String
  | unreadable _ => none
  | malformed _ => some "rebar::parse_error"
  | violation .namelessProject => some "rebar::validation_error"
  | violation (.missingType _ _) => some "rebar::empty_type"
  | violation (.duplicateComponent _ _) => some "rebar::duplicate_component"
  | violation _ => some "rebar::invalid_identifier"

/-- What can be done about an error. -/
def help? : ManifestError → Option String
  | unreadable _ => some "run 'rebar init' to create a rebar.toml"
  | malformed _ => none
  | violation .namelessProject => none
  | violation (.missingType _ _) =>
    some "set `type` to the declared type, e.g. type = \"String\""
  | violation (.duplicateComponent _ _) => some "every component of a record needs a distinct name"
  | violation _ =>
    some "use only letters, numbers, and underscores, starting with a letter or underscore"

end ManifestError

namespace Manifest

/-- The manifest of a document, whatever rules it breaks. If it is none, values
anywhere in the document that cannot be used are to blame before its shape. -/
def ofDocument (root : Toml.Entries) : Except Malformed Manifest :=
  match Shape.manifest root with
  | .ok m => .ok m
  | .error fault => .error (if Toml.areUsableEntries root then .shape fault else .syntactic)

/-- The manifest of a text, whatever rules it breaks. -/
def ofText (text : String) : Except Malformed Manifest :=
  match Toml.document? text with
  | some root => ofDocument root
  | none => .error .syntactic

/-- The manifest of a text. -/
def parse (text : String) : Except ManifestError Manifest :=
  match ofText text with
  | .error reason => .error (.malformed reason)
  | .ok m =>
    match m.violation? with
    | some v => .error (.violation v)
    | none => .ok m

/-- A text parses exactly when it has the shape of a manifest that keeps the rules. -/
theorem parse_eq_ok_iff {text : String} {m : Manifest} :
    parse text = .ok m ↔ ofText text = .ok m ∧ m.violation? = none := by
  unfold parse
  cases h : ofText text with
  | error reason => simp
  | ok n =>
    cases hv : n.violation? with
    | some v =>
      simp only [hv, reduceCtorEq, Except.ok.injEq, false_iff, not_and]
      intro heq
      rw [← heq, hv]
      simp
    | none =>
      simp only [hv, Except.ok.injEq]
      refine ⟨fun h => ?_, And.left⟩
      subst h
      exact ⟨rfl, hv⟩

/-- A manifest is read from the characters of its text, if they do not begin with a byte order
mark. -/
theorem parse_of_toList {text : String} {cs : List Char} {m : Manifest} (hchars : text.toList = cs)
    (hmark : cs.head? ≠ some '\uFEFF')
    (hread : (((Toml.lexFrom .plain cs).bind Toml.statements?).bind Toml.build?).map ofDocument =
      some (.ok m))
    (hrules : m.violation? = none) : parse text = .ok m := by
  have hlex : Toml.lex text = Toml.lexFrom .plain cs := by
    unfold Toml.lex
    rw [hchars]
    split
    · exact absurd rfl hmark
    · rfl
  rw [Option.map_eq_some_iff] at hread
  obtain ⟨root, hroot, hdocument⟩ := hread
  have hroot' : Toml.document? text = some root := by
    rw [Toml.document?, hlex, ← hroot, Option.bind_assoc]
    rfl
  rw [parse_eq_ok_iff, ofText, hroot']
  exact ⟨hdocument, hrules⟩

end Manifest
end BuilderGen
