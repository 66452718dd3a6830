import BuilderGen.Proofs.Manifest.Grammar
import BuilderGen.Proofs.Manifest.Valid
import BuilderGen.Proofs.Toml.Written
import BuilderGen.Starter

/-!
# BuilderGen.Proofs.Starter

**Starter manifests parse back**, whatever the project is called, unless its name is blank
(`Starter.parse_render`).

The name is the only part of the text that is not fixed. It is written so that the lexer reads
it back as one token (`Toml.lexFrom_writtenChars`), and everything before and behind it has
the same tokens for every name (`Starter.lexFrom_front`, `Starter.lexFrom_back`). What these
tokens declare does not depend on the form the name was written in either
(`Starter.manifest_of_tokens`).
-/

namespace BuilderGen.Starter

open Toml (Token lexFrom)

/-! ### What is declared -/

/-- The example that a starter manifest declares. -/
def exampleDecl : Language → TypeDecl
  | .java => {
      package := "com.example"
      builder := true
      components := [
        { name := "firstName", type := "String" },
        { name := "lastName", type := "String" },
        { name := "birthDate", type := "java.time.LocalDate" },
        { name := "heightInCentimeters", type := "int" }] }
  | .rust => {
      builder := true
      components := [
        { name := "first_name", type := "String" },
        { name := "last_name", type := "String" },
        { name := "height_in_centimeters", type := "u32" }] }

/-- The manifest that the text of a starter manifest declares. -/
def manifest (s : Starter) : Manifest where
  project := { name := s.name, language := s.language }
  types := [("Person", exampleDecl s.language)]

/-! ### Before and behind the name -/

/-- The text before the name. -/
def front : List Char := "[project]\nname = ".toList

/-- The text behind the line with the name. -/
def back (language : Language) : List Char :=
  (("language = \"" ++ language.name ++ "\"") :: "" :: exampleLines language).flatMap
    fun line => line.toList ++ ['\n']

theorem toList_render (s : Starter) :
    s.render.toList = front ++ (Toml.writtenChars s.name.toList ++ '\n' :: back s.language) := by
  have hlines : s.render.toList = s.lines.flatMap fun line => line.toList ++ ['\n'] := by
    simp only [render, String.toList_join, List.flatMap_map, String.toList_append]
    rfl
  have hfront : front = "[project]".toList ++ '\n' :: "name = ".toList := rfl
  rw [hlines, hfront]
  simp only [lines, back, Toml.written, List.cons_append, List.nil_append, List.flatMap_cons,
    String.toList_append, String.toList_ofList, List.append_assoc]

/-- The tokens of a text without quotes and line breaks. -/
def chars (text : String) : List Token := text.toList.map .char

/-- The tokens of a line that gives a key a text. -/
def textTokens (key value : String) : List Token :=
  chars (key ++ " = ") ++ [.quoted value false, .newline]

/-- The tokens of the line of a component. -/
def componentTokens (c : ComponentDecl) : List Token :=
  chars "    \x7b name = " ++ .quoted c.name false :: chars ", type = " ++
    .quoted c.type false :: chars " \x7d," ++ [.newline]

/-- The tokens of the type. -/
def exampleTokens (decl : TypeDecl) : List Token :=
  chars "[types.Person]" ++ [.newline] ++
    (if decl.package = "" then [] else textTokens "package" decl.package) ++
    chars "builder = true" ++ [.newline] ++
    chars "components = [" ++ [.newline] ++ decl.components.flatMap componentTokens ++ chars "]" ++
    [.newline]

/-- The tokens before the name. -/
def frontTokens : List Token := chars "[project]" ++ .newline :: chars "name = "

/-- The tokens behind the name. Comments leave empty lines. -/
def backTokens (language : Language) : List Token :=
  .newline :: textTokens "language" language.name ++ [.newline, .newline] ++
    exampleTokens (exampleDecl language) ++
    match language with
    | .java => []
    | .rust => List.replicate 5 .newline

theorem lexFrom_front {cs : List Char} {tokens : List Token} (h : lexFrom .plain cs = some tokens) :
    lexFrom .plain (front ++ cs) = some (frontTokens ++ tokens) := by
  -- no quote opens, so every character before the name is a token of its own
  change frontTokens.foldr (fun token tokens => (token :: ·) <$> tokens) (lexFrom .plain cs) = _
  rw [h]
  rfl

set_option maxRecDepth 100000 in
theorem lexFrom_back (language : Language) :
    lexFrom .plain ('\n' :: back language) = some (backTokens language) := by
  cases language with
  | java => decide +kernel
  | rust => decide +kernel

/-! ### Reading the tokens -/

set_option maxRecDepth 100000 in
/-- Whatever the name is and however it was written, the tokens are those of the manifest. -/
theorem manifest_of_tokens (s : Starter) (multiline : Bool) :
    ((Toml.statements? (frontTokens ++ .quoted s.name multiline :: backTokens s.language)).bind
      Toml.build?).map Shape.manifest = some (.ok s.manifest) := by
  obtain ⟨name, language⟩ := s
  cases language with
  | java => rfl
  | rust => rfl

theorem ofText_render (s : Starter) : Manifest.ofText s.render = .ok s.manifest := by
  obtain ⟨multiline, hname⟩ := Toml.lexFrom_writtenChars s.name.toList
  have hrest := hname (back s.language)
  rw [lexFrom_back, String.ofList_toList] at hrest
  have hlex : Toml.lex s.render =
      some (frontTokens ++ .quoted s.name multiline :: backTokens s.language) := by
    rw [Toml.lex, toList_render, ← lexFrom_front hrest]
    rfl
  obtain ⟨root, hroot, hshape⟩ := Option.map_eq_some_iff.mp (manifest_of_tokens s multiline)
  have hdocument : Toml.document? s.render = some root := by
    rw [Toml.document?, hlex, Option.bind_eq_bind, Option.bind_some, ← hroot]
    rfl
  rw [Manifest.ofText, hdocument]
  simp only [Manifest.ofDocument, hshape]

/-! ### What becomes of a starter manifest -/

theorem typeViolation?_exampleDecl (language : Language) :
    typeViolation? language.separator "Person" (exampleDecl language) = none := by
  cases language with
  | java => decide +kernel
  | rust => decide +kernel

/-- Nothing but the name can be against the rules. -/
theorem violation?_manifest (s : Starter) :
    s.manifest.violation? = violationUnless (!Text.isBlankText s.name) .namelessProject := by
  rw [Manifest.violation?, manifest]
  simp [typeViolation?_exampleDecl]

/-- The lints have nothing to remark. -/
theorem diagnostics_manifest (s : Starter) :
    (({ manifest := s.manifest } : Round).lint Lint.builtin).diagnostics = [] := by
  obtain ⟨name, language⟩ := s
  -- no lint looks at the name of the project
  change (({ manifest := manifest ⟨"", language⟩ } : Round).lint Lint.builtin).diagnostics = []
  cases language with
  | java => decide +kernel
  | rust => decide +kernel

theorem isValid_manifest (s : Starter) (path : String) : (s.manifest.verdict path).isValid = true := by
  rw [Manifest.verdict_isValid_iff, Round.hasErrors_eq_false_iff, diagnostics_manifest]
  exact fun _ hd => nomatch hd

/-- **Starter manifests parse back.** The text is read as a manifest if and only if the name is
not blank. Then the manifest has this name, character for character, and this language;
`Person` is the only record it gives a builder, and the pipeline accepts it without a remark.
A blank name breaks the rule that projects have names, and nothing else is wrong. -/
theorem parse_render (s : Starter) :
    ((∃ m, Manifest.parse s.render = .ok m) ↔ ∃ c ∈ s.name.toList, Text.isBlank c = false) ∧
    (∀ m, Manifest.parse s.render = .ok m →
      m.project.name = s.name ∧ m.project.language = s.language ∧
      m.buildable.map Prod.fst = ["Person"] ∧
      ∃ round : Round, round.diagnostics = [] ∧
        ∀ (σ : Type) (w : σ), (({} : Pipeline σ).run m).runOn w = (.ok round, w)) ∧
    ((∀ c ∈ s.name.toList, Text.isBlank c = true) →
      Manifest.parse s.render = .error (.violation .namelessProject)) := by
  have hparse : Manifest.parse s.render =
      if Text.isBlankText s.name then .error (.violation .namelessProject) else .ok s.manifest := by
    rw [Manifest.parse, ofText_render]
    simp only [violation?_manifest]
    cases Text.isBlankText s.name <;> rfl
  have hblank : Text.isBlankText s.name = true ↔ ∀ c ∈ s.name.toList, Text.isBlank c = true :=
    List.all_eq_true
  rw [hparse]
  refine ⟨?_, fun m hm => ?_, fun h => if_pos (hblank.mpr h)⟩
  · have hnot : (∃ c ∈ s.name.toList, Text.isBlank c = false) ↔ ¬ Text.isBlankText s.name = true := by
      rw [hblank]
      simp
    rw [hnot]
    split
    next h => simp [h]
    next h => simp [h]
  · split at hm
    next => cases hm
    next =>
      obtain rfl : s.manifest = m := Except.ok.inj hm
      refine ⟨rfl, rfl, ?_, s.manifest.loweredRound, diagnostics_manifest s,
        fun σ w => Manifest.runOn_pipeline (isValid_manifest s "") w⟩
      obtain ⟨name, language⟩ := s
      cases language with
      | java => rfl
      | rust => rfl

end BuilderGen.Starter
