import BuilderGen.Calendar

/-!
# BuilderGen.Sample.Contact

The **sample record without a constructor**: a contact, and the builder that is
generated for it. Components that may be missing are missing by default.
-/

namespace BuilderGen.Sample

/-- A contact. -/
structure Contact where
  firstName : String
  lastName : String
  birthDate : Option Date
  email : Option String
  heightInCentimeters : UInt32
  deriving DecidableEq, Repr

/-- The builder of a contact. -/
structure ContactBuilder where
  firstName : String := ""
  lastName : String := ""
  birthDate : Option Date := none
  email : Option String := none
  heightInCentimeters : UInt32 := 0
  deriving DecidableEq, Repr

/-- A call of a setter. -/
inductive ContactSetter
  | firstName (value : String)
  | lastName (value : String)
  | birthDate (value : Option Date)
  | email (value : Option String)
  | heightInCentimeters (value : UInt32)
  deriving DecidableEq, Repr

namespace ContactBuilder

/-- The builder after a call of a setter. -/
def set (b : ContactBuilder) : ContactSetter → ContactBuilder
  | .firstName value => { b with firstName := value }
  | .lastName value => { b with lastName := value }
  | .birthDate value => { b with birthDate := value }
  | .email value => { b with email := value }
  | .heightInCentimeters value => { b with heightInCentimeters := value }

/-- The contact of the values the builder holds. -/
def build (b : ContactBuilder) : Contact where
  firstName := b.firstName
  lastName := b.lastName
  birthDate := b.birthDate
  email := b.email
  heightInCentimeters := b.heightInCentimeters

end ContactBuilder
end BuilderGen.Sample
