import BuilderGen.Emit.ClassUnit
import BuilderGen.Emit.ItemUnit

/-!
# BuilderGen.Emit.BuilderFile

The **file of a builder**: its place below the output directory and its text. A
builder lies in one directory per segment of its record's package.
-/

namespace BuilderGen

/-- A rendered builder; `path` is relative to the output directory. -/
structure BuilderFile where
  path : String
  content : String
  deriving DecidableEq, Repr

namespace Record

/-- The place of a file in the directories of a package. -/
def pathInPackage (package : List String) (file : String) : String :=
  Text.joinWith "/" (package ++ [file])

/-- The segments of the record's package, in the language builders are written
in; empty ones take no directory. -/
def packageSegments (language : Language) (r : Record) : List String :=
  (Text.segments language.separator r.package).filter (!·.isEmpty)

/-- The path of the record's builder, relative to the output directory. -/
def builderPath (language : Language) (r : Record) : String :=
  pathInPackage (r.packageSegments language) (language.fileName r.name language.extension)

/-- The text of the record's builder. -/
def builderText (language : Language) (stamp : Stamp) (r : Record) : String :=
  match language with
  | .java => (ClassUnit.builderFile r stamp).render
  | .rust => (ItemUnit.builderFile r stamp).render

/-- The record's builder. -/
def builderFile (language : Language) (stamp : Stamp) (r : Record) : BuilderFile :=
  { path := r.builderPath language, content := r.builderText language stamp }

end Record
end BuilderGen
