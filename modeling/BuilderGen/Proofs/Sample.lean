import BuilderGen.Proofs.Emit.Behavior
import BuilderGen.Proofs.Emit.Reuse
import BuilderGen.Proofs.Text.Lines
import BuilderGen.Sample.Contact
import BuilderGen.Sample.Person

/-!
# BuilderGen.Proofs.Sample

**The sample builders** depend on nothing but the last value of every field
(`builders_follow_last_values`), in every run of setters and builds.

Two descriptions of them are brought together. One is what is generated: the manifest of the
sample is read, its records are lowered, and their builders are read as programs. The other one
is the builders of persons and of contacts with their own types of values. A program takes
values of any component, so they are put in one type (`Value`), and what a program invokes is
read back by the constructor that it names (`ofInvocation?`). The programs then do what the
builders do, because what was last passed stays what the builder holds (`Holds.set`).
-/

namespace BuilderGen.Sample

/-! ### The records of the sample -/

/-- The lines of the manifest of the sample records. -/
def manifestLines : List String := [
  "[project]", "name = \"rebar-usage\"", "language = \"rust\"",
  "description = \"Records with builders generated at build time\"", "", "[types.Person]",
  "builder = true", "components = [", "    \x7b name = \"first_name\", type = \"String\" \x7d,",
  "    \x7b name = \"last_name\", type = \"String\" \x7d,",
  "    \x7b name = \"birth_date\", type = \"chrono::NaiveDate\" \x7d,",
  "    \x7b name = \"height_in_centimeters\", type = \"i32\" \x7d,", "]", "",
  "[types.Person.constructor]", "name = \"new\"", "returns = \"Result<Person, PersonError>\"",
  "", "[types.Contact]", "builder = true", "components = [",
  "    \x7b name = \"first_name\", type = \"String\" \x7d,",
  "    \x7b name = \"last_name\", type = \"String\" \x7d,",
  "    \x7b name = \"birth_date\", type = \"Option<chrono::NaiveDate>\" \x7d,",
  "    \x7b name = \"email\", type = \"Option<String>\" \x7d,",
  "    \x7b name = \"height_in_centimeters\", type = \"u32\" \x7d,", "]", "",
  "# Declared but not marked: no builder.", "[types.Address]", "components = [",
  "    \x7b name = \"street\", type = \"String\" \x7d,",
  "    \x7b name = \"city\", type = \"String\" \x7d,", "]"]

/-- The manifest of the sample records, as it is written. -/
def manifestText : String := Text.unlines manifestLines

/-- The manifest of the sample records. -/
def manifest : Manifest where
  project := {
    name := "rebar-usage"
    language := .rust
    description := some "Records with builders generated at build time" }
  types := [
    ("Person", {
      builder := true
      components := [
        { name := "first_name", type := "String" },
        { name := "last_name", type := "String" },
        { name := "birth_date", type := "chrono::NaiveDate" },
        { name := "height_in_centimeters", type := "i32" }]
      constructor := some { name := "new", returns := some "Result<Person, PersonError>" } }),
    ("Contact", {
      builder := true
      components := [
        { name := "first_name", type := "String" },
        { name := "last_name", type := "String" },
        { name := "birth_date", type := "Option<chrono::NaiveDate>" },
        { name := "email", type := "Option<String>" },
        { name := "height_in_centimeters", type := "u32" }] }),
    ("Address", {
      components := [
        { name := "street", type := "String" },
        { name := "city", type := "String" }] })]

set_option maxRecDepth 100000 in
theorem parse_manifestText : Manifest.parse manifestText = .ok manifest := by
  apply Manifest.parse_of_toList
  · unfold manifestText manifestLines
    repeat apply Text.toList_unlines_cons rfl
    exact rfl
  · decide
  · decide +kernel
  · decide +kernel

/-- The record of a person. -/
def personRecord : Record where
  package := ""
  name := "Person"
  components := [
    { name := "first_name", type := "String" },
    { name := "last_name", type := "String" },
    { name := "birth_date", type := "chrono::NaiveDate" },
    { name := "height_in_centimeters", type := "i32" }]
  constructor := .function "new" (some "Result<Person, PersonError>")

/-- The record of a contact. -/
def contactRecord : Record where
  package := ""
  name := "Contact"
  components := [
    { name := "first_name", type := "String" },
    { name := "last_name", type := "String" },
    { name := "birth_date", type := "Option<chrono::NaiveDate>" },
    { name := "email", type := "Option<String>" },
    { name := "height_in_centimeters", type := "u32" }]

theorem lint_manifest :
    (({ manifest } : Round).lint Lint.builtin).hasErrors = false := by decide +kernel

theorem lowerManifest_manifest :
    Round.lowerManifest manifest = [personRecord, contactRecord] := by decide +kernel

theorem isUsable_of_mem {r : Record} (hr : r ∈ [personRecord, contactRecord]) :
    r.IsUsable .rust := by
  have hconforms : manifest.Conforms :=
    Manifest.violation?_eq_none_iff.mp (Manifest.parse_eq_ok_iff.mp parse_manifestText).2
  rw [← lowerManifest_manifest] at hr
  exact Round.isUsable_of_mem_lowerManifest hconforms lint_manifest hr

/-! ### Values -/

/-- A value of a component of the sample records. -/
inductive Value
  | text (value : String)
  | date (value : Date)
  | signed (value : Int32)
  | unsigned (value : UInt32)
  | maybeDate (value : Option Date)
  | maybeText (value : Option String)
  /-- A value of a type that no component has. -/
  | other
  deriving DecidableEq, Repr

/-- The default of a type. -/
def Value.default : String → Value
  | "String" => text ""
  | "chrono::NaiveDate" => date {}
  | "i32" => signed 0
  | "u32" => unsigned 0
  | "Option<chrono::NaiveDate>" => maybeDate none
  | "Option<String>" => maybeText none
  | _ => other

/-! ### Persons -/

/-- What the invocation of a person's constructor comes to. -/
def Person.ofInvocation? : Invocation Value → Option (Except InvalidHeight Person)
  | .call "Person" "new"
      [.text firstName, .text lastName, .date birthDate, .signed heightInCentimeters] =>
    some (Person.new firstName lastName birthDate heightInCentimeters)
  | _ => none

theorem Person.new_eq_error_iff {firstName lastName : String} {birthDate : Date} {height : Int32}
    {e : InvalidHeight} :
    Person.new firstName lastName birthDate height = .error e ↔ height ≤ 0 ∧ e = ⟨height⟩ := by
  unfold Person.new
  split
  next h => simp [h, eq_comm]
  next h => simp [h]

/-- The position of the setter among those of the record, and what is passed to it. -/
def PersonSetter.passed : PersonSetter → Nat × Value
  | .firstName value => (0, .text value)
  | .lastName value => (1, .text value)
  | .birthDate value => (2, .date value)
  | .heightInCentimeters value => (3, .signed value)

attribute [ext] PersonBuilder ContactBuilder

namespace PersonBuilder

/-- How the builder of a person works. -/
def workings : Workings PersonBuilder PersonSetter (Except InvalidHeight Person) := { set, build }

/-! The fields, each with the setter that writes it. -/

def firstNameField : workings.Field String where
  get := firstName
  written? | .firstName value => some value | _ => none
  get_set _ setter := by cases setter <;> rfl

def lastNameField : workings.Field String where
  get := lastName
  written? | .lastName value => some value | _ => none
  get_set _ setter := by cases setter <;> rfl

def birthDateField : workings.Field Date where
  get := birthDate
  written? | .birthDate value => some value | _ => none
  get_set _ setter := by cases setter <;> rfl

def heightField : workings.Field Int32 where
  get := heightInCentimeters
  written? | .heightInCentimeters value => some value | _ => none
  get_set _ setter := by cases setter <;> rfl

/-- For every field the value that was last set, or else its default. -/
def lastValues (uses : List (Use PersonSetter)) : PersonBuilder where
  firstName := (lastSet firstNameField.written? uses).getD ""
  lastName := (lastSet lastNameField.written? uses).getD ""
  birthDate := (lastSet birthDateField.written? uses).getD ⟨1970, 1, 1⟩
  heightInCentimeters := (lastSet heightField.written? uses).getD 0

theorem after_eq_lastValues (uses : List (Use PersonSetter)) :
    workings.after {} uses = lastValues uses :=
  PersonBuilder.ext (firstNameField.get_after {} uses) (lastNameField.get_after {} uses)
    (birthDateField.get_after {} uses) (heightField.get_after {} uses)

/-- The values that a builder holds are those that were last passed. -/
def Holds (b : PersonBuilder) (calls : List (Nat × Value)) : Prop :=
  personRecord.lastArguments Value.default calls =
    [.text b.firstName, .text b.lastName, .date b.birthDate, .signed b.heightInCentimeters]

theorem Holds.set {b : PersonBuilder} {calls : List (Nat × Value)} (h : Holds b calls)
    (setter : PersonSetter) : Holds (b.set setter) (calls ++ [setter.passed]) := by
  unfold Holds Record.lastArguments at h ⊢
  simp only [personRecord, List.mapIdx_cons, List.mapIdx_nil, List.cons.injEq] at h ⊢
  cases setter <;> simp_all [PersonBuilder.set, PersonSetter.passed, lastPassed_append]

/-- The program that is generated for persons does what their builder does. -/
theorem runs_program : (personRecord.program .rust).Runs Value.default workings {}
    PersonSetter.passed Person.ofInvocation? := by
  refine Record.runs_program (isUsable_of_mem (by simp)).nodup_fieldNames
    (fun setter => by cases setter <;> simp [PersonSetter.passed, personRecord]) Holds rfl
    (fun b calls setter h => h.set setter) ?_
  intro b calls h
  rw [h]
  rfl

end PersonBuilder

/-! ### Contacts -/

/-- What the literal of a contact comes to. -/
def Contact.ofInvocation? : Invocation Value → Option Contact
  | .literal "Contact"
      [("first_name", .text firstName), ("last_name", .text lastName),
        ("birth_date", .maybeDate birthDate), ("email", .maybeText email),
        ("height_in_centimeters", .unsigned heightInCentimeters)] =>
    some { firstName, lastName, birthDate, email, heightInCentimeters }
  | _ => none

/-- The position of the setter among those of the record, and what is passed to it. -/
def ContactSetter.passed : ContactSetter → Nat × Value
  | .firstName value => (0, .text value)
  | .lastName value => (1, .text value)
  | .birthDate value => (2, .maybeDate value)
  | .email value => (3, .maybeText value)
  | .heightInCentimeters value => (4, .unsigned value)

namespace ContactBuilder

/-- How the builder of a contact works. -/
def workings : Workings ContactBuilder ContactSetter Contact := { set, build }

/-! The fields, each with the setter that writes it. -/

def firstNameField : workings.Field String where
  get := firstName
  written? | .firstName value => some value | _ => none
  get_set _ setter := by cases setter <;> rfl

def lastNameField : workings.Field String where
  get := lastName
  written? | .lastName value => some value | _ => none
  get_set _ setter := by cases setter <;> rfl

def birthDateField : workings.Field (Option Date) where
  get := birthDate
  written? | .birthDate value => some value | _ => none
  get_set _ setter := by cases setter <;> rfl

def emailField : workings.Field (Option String) where
  get := email
  written? | .email value => some value | _ => none
  get_set _ setter := by cases setter <;> rfl

def heightField : workings.Field UInt32 where
  get := heightInCentimeters
  written? | .heightInCentimeters value => some value | _ => none
  get_set _ setter := by cases setter <;> rfl

/-- For every field the value that was last set, or else its default. -/
def lastValues (uses : List (Use ContactSetter)) : ContactBuilder where
  firstName := (lastSet firstNameField.written? uses).getD ""
  lastName := (lastSet lastNameField.written? uses).getD ""
  birthDate := (lastSet birthDateField.written? uses).getD none
  email := (lastSet emailField.written? uses).getD none
  heightInCentimeters := (lastSet heightField.written? uses).getD 0

theorem after_eq_lastValues (uses : List (Use ContactSetter)) :
    workings.after {} uses = lastValues uses :=
  ContactBuilder.ext (firstNameField.get_after {} uses) (lastNameField.get_after {} uses)
    (birthDateField.get_after {} uses) (emailField.get_after {} uses)
    (heightField.get_after {} uses)

/-- The values that a builder holds are those that were last passed. -/
def Holds (b : ContactBuilder) (calls : List (Nat × Value)) : Prop :=
  contactRecord.lastArguments Value.default calls =
    [.text b.firstName, .text b.lastName, .maybeDate b.birthDate, .maybeText b.email,
      .unsigned b.heightInCentimeters]

theorem Holds.set {b : ContactBuilder} {calls : List (Nat × Value)} (h : Holds b calls)
    (setter : ContactSetter) : Holds (b.set setter) (calls ++ [setter.passed]) := by
  unfold Holds Record.lastArguments at h ⊢
  simp only [contactRecord, List.mapIdx_cons, List.mapIdx_nil, List.cons.injEq] at h ⊢
  cases setter <;> simp_all [ContactBuilder.set, ContactSetter.passed, lastPassed_append]

/-- The program that is generated for contacts does what their builder does. -/
theorem runs_program : (contactRecord.program .rust).Runs Value.default workings {}
    ContactSetter.passed Contact.ofInvocation? := by
  refine Record.runs_program (isUsable_of_mem (by simp)).nodup_fieldNames
    (fun setter => by cases setter <;> simp [ContactSetter.passed, contactRecord]) Holds rfl
    (fun b calls setter h => h.set setter) ?_
  intro b calls h
  rw [h]
  rfl

end ContactBuilder

/-! ### Both builders -/

/-- **The sample builders make what is made directly from the last values.** The manifest of the
sample has two records, and the programs that are generated for them do in every run of setters
and builds what the builders of persons and of contacts do. Every build of a person comes to
what the constructor makes of the last value of every field, or of its default, and every build
of a contact is the contact of these values, which is never refused; whether and when something
was built before makes no difference. A person is refused exactly if the last height is not
positive, with that height. -/
theorem builders_follow_last_values (stamp : Stamp) :
    Manifest.parse manifestText = .ok manifest ∧
    (({ manifest } : Round).lint Lint.builtin).hasErrors = false ∧
    Round.lowerManifest manifest = [personRecord, contactRecord] ∧
    (∃ p, personRecord.builderProgram? .rust stamp = some p ∧
      p.Runs Value.default PersonBuilder.workings {} PersonSetter.passed Person.ofInvocation?) ∧
    (∃ p, contactRecord.builderProgram? .rust stamp = some p ∧
      p.Runs Value.default ContactBuilder.workings {} ContactSetter.passed Contact.ofInvocation?) ∧
    PersonBuilder.workings.Follows {} PersonBuilder.lastValues
      (fun v => Person.new v.firstName v.lastName v.birthDate v.heightInCentimeters) ∧
    (∀ uses e, (PersonBuilder.workings.outcomes {} (uses ++ [.build])).getLast? = some (.error e) ↔
      (PersonBuilder.lastValues uses).heightInCentimeters ≤ 0 ∧
        e = ⟨(PersonBuilder.lastValues uses).heightInCentimeters⟩) ∧
    ContactBuilder.workings.Follows {} ContactBuilder.lastValues
      (fun v => ⟨v.firstName, v.lastName, v.birthDate, v.email, v.heightInCentimeters⟩) := by
  refine ⟨parse_manifestText, lint_manifest, lowerManifest_manifest,
    ⟨_, Record.builderProgram?_eq (isUsable_of_mem (by simp)) stamp, PersonBuilder.runs_program⟩,
    ⟨_, Record.builderProgram?_eq (isUsable_of_mem (by simp)) stamp, ContactBuilder.runs_program⟩,
    PersonBuilder.workings.follows PersonBuilder.after_eq_lastValues fun _ => rfl,
    fun uses e => ?_,
    ContactBuilder.workings.follows ContactBuilder.after_eq_lastValues fun _ => rfl⟩
  rw [Workings.getLast?_outcomes_build, PersonBuilder.after_eq_lastValues, Option.some.injEq]
  exact Person.new_eq_error_iff

/-- Somebody whose height is forgotten at first, and somebody whose values are set at once in
another order: from then on, both are built alike. -/
theorem person_built_after_failure :
    let early : List (Use PersonSetter) :=
      [.set (.firstName "Augusta"), .build, .set (.heightInCentimeters 75), .set (.firstName "Ada")]
    let late : List (Use PersonSetter) :=
      [.set (.firstName "Ada"), .set (.heightInCentimeters 75)]
    let ada : Except InvalidHeight Person := .ok ⟨"Ada", "", ⟨1970, 1, 1⟩, 75⟩
    PersonBuilder.lastValues early = PersonBuilder.lastValues late ∧
      PersonBuilder.workings.outcomes {} (early ++ [.build]) = [.error ⟨0⟩, ada] ∧
      PersonBuilder.workings.outcomes {} (late ++ [.build]) = [ada] := by
  intro early late ada
  have hlast : PersonBuilder.lastValues early = PersonBuilder.lastValues late := by decide
  obtain ⟨-, -, -, -, -, hperson, -, -⟩ := builders_follow_last_values ⟨2024, 5, 1, 12, 0, 0, 0⟩
  obtain ⟨later, hearly, hlate⟩ := hperson.alike hlast [.build]
  have hada : PersonBuilder.workings.outcomes {} (late ++ [.build]) = [ada] := by decide
  obtain rfl : later = [ada] := by rw [← hada, hlate]; rfl
  exact ⟨hlast, hearly, hlate⟩

end BuilderGen.Sample
