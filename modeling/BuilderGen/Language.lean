/-!
# BuilderGen.Language

The **target languages** builders are generated in, with what a manifest needs to
know about each: its name, the separator of package segments, the extension of
its source files, and its reserved words.
-/

namespace BuilderGen

/-- A language builders are generated in. -/
inductive Language
  /-- Builders are classes. -/
  | java
  /-- Builders are structs with an inherent implementation. -/
  | rust
  deriving DecidableEq, Repr

namespace Language

/-- Every target language, in the order they are offered. -/
def all : List Language := [java, rust]

/-- The name a manifest gives the language by, which is also the one shown. -/
def name : Language → String
  | java => "java"
  | rust => "rust"

/-- What stands between the segments of a package. -/
def separator : Language → String
  | java => "."
  | rust => "::"

/-- The extension of source files, without the dot. -/
def extension : Language → String
  | java => "java"
  | rust => "rs"

/-- The words that are no names in the language, literals included. -/
def reservedWords : Language → List String
  | java => [
    "abstract", "assert", "boolean", "break", "byte", "case", "catch", "char", "class", "const",
    "continue", "default", "do", "double", "else", "enum", "extends", "final", "finally", "float",
    "for", "goto", "if", "implements", "import", "instanceof", "int", "interface", "long",
    "native", "new", "package", "private", "protected", "public", "return", "short", "static",
    "strictfp", "super", "switch", "synchronized", "this", "throw", "throws", "transient", "try",
    "void", "volatile", "while", "_", "true", "false", "null"]
  | rust => [
    "as", "async", "await", "break", "const", "continue", "crate", "dyn", "else", "enum", "extern",
    "false", "fn", "for", "gen", "if", "impl", "in", "let", "loop", "match", "mod", "move", "mut",
    "pub", "ref", "return", "self", "Self", "static", "struct", "super", "trait", "true", "type",
    "unsafe", "use", "where", "while", "abstract", "become", "box", "do", "final", "macro",
    "override", "priv", "try", "typeof", "unsized", "virtual", "yield"]

/-- Whether `word` is reserved. -/
def isReserved (language : Language) (word : String) : Bool :=
  language.reservedWords.contains word

/-- Words of the struct target that are no names even when they are written raw. -/
def neverRawWords : List String := ["crate", "self", "super", "Self", "_"]

/-- A text that names no target language. -/
structure Unknown where
  text : String
  deriving DecidableEq, Repr

/-- What is said about a text that names no target language. -/
def Unknown.message (e : Unknown) : String :=
  "unknown language '" ++ e.text ++ "', expected 'java' or 'rust'"

/-- The language that `text` names on the command line: its name or, for `rust`,
its extension, in either case of ASCII letters. -/
def ofText (text : String) : Except Unknown Language :=
  let lower := String.ofList (text.toList.map Char.toLower)
  if lower = "java" then .ok java
  else if lower = "rust" ∨ lower = "rs" then .ok rust
  else .error ⟨text⟩

theorem isReserved_iff (language : Language) (word : String) :
    language.isReserved word = true ↔ word ∈ language.reservedWords := by
  simp [isReserved]

end Language
end BuilderGen
