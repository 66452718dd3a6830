import BuilderGen.Toml.Statement

/-!
# BuilderGen.Toml.Document

**Documents**: the root table that the statements of a text build up. Reading
fails as a whole; a text either is a document or is none.
-/

namespace BuilderGen.Toml

/-- The root table so far, and the header whose table assignments are for. -/
structure Draft where
  root : Entries := []
  header : List String := []

/-- Carries out a statement. -/
def Draft.apply? (d : Draft) : Statement → Option Draft
  | .header path => (declare? path d.root).map fun root => { root, header := path }
  | .itemHeader path => (declareItem? path d.root).map fun root => { root, header := path }
  | .assignment key value =>
    (assignIn? d.header key value d.root).map fun root => { d with root }

/-- The root table that statements build up. -/
def build? (statements : List Statement) : Option Entries :=
  (statements.foldlM Draft.apply? {}).map Draft.root

/-- The root table of a text. -/
def document? (text : String) : Option Entries := do
  let tokens ← lex text
  let statements ← statements? tokens
  build? statements

end BuilderGen.Toml
