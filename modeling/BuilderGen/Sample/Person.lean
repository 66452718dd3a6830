import BuilderGen.Calendar

/-!
# BuilderGen.Sample.Person

The **sample record with a validating constructor**: a person, and the builder that
is generated for it. The builder holds a value for every component, at first a
default; setters replace one value, and building passes all of them to the
constructor, which may refuse them. Building leaves the builder as it is.
-/

namespace BuilderGen.Sample

/-- A person. -/
structure Person where
  firstName : String
  lastName : String
  birthDate : Date
  heightInCentimeters : Int32
  deriving DecidableEq, Repr

/-- Why there is no person: the height is not positive. -/
structure InvalidHeight where
  height : Int32
  deriving DecidableEq, Repr

/-- What is said about a height that is not positive. -/
def InvalidHeight.message (e : InvalidHeight) : String :=
  "Component 'height_in_centimeters' must be > 0, was " ++ toString e.height.toInt

/-- A person of a positive height. -/
def Person.new (firstName lastName : String) (birthDate : Date) (heightInCentimeters : Int32) :
    Except InvalidHeight Person :=
  if heightInCentimeters ≤ 0 then .error ⟨heightInCentimeters⟩
  else .ok { firstName, lastName, birthDate, heightInCentimeters }

/-- The builder of a person. -/
structure PersonBuilder where
  firstName : String := ""
  lastName : String := ""
  birthDate : Date := {}
  heightInCentimeters : Int32 := 0
  deriving DecidableEq, Repr

/-- A call of a setter. -/
inductive PersonSetter
  | firstName (value : String)
  | lastName (value : String)
  | birthDate (value : Date)
  | heightInCentimeters (value : Int32)
  deriving DecidableEq, Repr

namespace PersonBuilder

/-- The builder after a call of a setter. -/
def set (b : PersonBuilder) : PersonSetter → PersonBuilder
  | .firstName value => { b with firstName := value }
  | .lastName value => { b with lastName := value }
  | .birthDate value => { b with birthDate := value }
  | .heightInCentimeters value => { b with heightInCentimeters := value }

/-- The person of the values the builder holds. -/
def build (b : PersonBuilder) : Except InvalidHeight Person :=
  Person.new b.firstName b.lastName b.birthDate b.heightInCentimeters

end PersonBuilder
end BuilderGen.Sample
