import BuilderGen.Emit.ClassUnit
import BuilderGen.Proofs.Emit.Reading

/-!
# BuilderGen.Proofs.Emit.ClassReading

**Reading class units.** A class is read as a builder program: its fields are the
slots, and a method is told apart by its modifiers, its parameters and the lines of its
body. A body of another form than those of builders is not read at all.

The class of a usable record is read as the program that does what the record's
blueprint lists (`program?_builderFile`).
-/

namespace BuilderGen.ClassUnit

open Text (joinWith)

/-- What `return new T(a, b);` makes. -/
def made? (line : String) : Option (Invocation String) := do
  let made ← Text.inside? "return new " ";" line
  let (type, arguments) ← Text.invoked? made
  let slots ← Language.java.operands? "" "" arguments
  if Language.java.isName type then some (.create type slots) else none

/-- What a method of a class does. -/
def Method.member? (builder : String) (m : Method) : Option Member :=
  match m.returns, m.isStatic, m.parameters, m.body with
  | none, false, [], body =>
      if m.name = builder ∧ body.all (fun line => (Text.inside? "//" "" line).isSome) then
        some .hidden
      else none
  | some type, true, [], body =>
      if type = builder ∧ body = ["return new " ++ builder ++ "();"] then some .factory else none
  | some _, false, [], [line] => (made? line).map .maker
  | some type, false, [p], [line, last] =>
      if type = builder ∧ last = "return this;" then
        (Language.java.stored? "this." p.name line).map .setter
      else none
  | _, _, _, _ => none

/-- The slot that a field declares. -/
def Field.slot? (f : Field) : Option Slot :=
  if Language.java.isName f.name then some { name := f.name, type := f.type } else none

/-- A class, read as a builder. -/
def Class.program? (c : Class) : Option Program := do
  let slots ← c.fields.mapM Field.slot?
  let members ← c.methods.mapM (Method.member? c.name)
  return { slots, members }

/-- The only class of a file, read as a builder. -/
def File.program? (f : File) : Option Program :=
  match f.classes with
  | [c] => c.program?
  | _ => none

/-! ### Builder classes -/

theorem made?_line {type : String} {slots : List String}
    (htype : Language.java.isName type = true) (hparen : '(' ∉ type.toList)
    (hnames : ∀ s ∈ slots, Language.java.isName s = true) (hcomma : ∀ s ∈ slots, ',' ∉ s.toList) :
    made? ("return new " ++ type ++ "(" ++ joinWith ", " slots ++ ");") =
      some (.create type slots) := by
  have hinside : Text.inside? "return new " ";"
      ("return new " ++ type ++ "(" ++ joinWith ", " slots ++ ");") =
      some (type ++ "(" ++ joinWith ", " slots ++ ")") :=
    Text.inside?_eq_some_iff.mpr (by simp only [String.append_assoc]; rfl)
  have hoperands : Language.java.operands? "" "" (joinWith ", " slots) = some slots := by
    simpa using Language.operands?_joinWith "" "" hnames (by simpa using hcomma)
  simp [made?, hinside, Text.invoked?_append hparen, hoperands, htype]

theorem member?_hiddenConstructor (builder : String) :
    (hiddenConstructor builder).member? builder = some .hidden := by
  have hcomment : (hiddenConstructor builder).body.all
      (fun line => (Text.inside? "//" "" line).isSome) = true := by rfl
  simp only [Method.member?, hiddenConstructor] at hcomment ⊢
  rw [hcomment]
  simp

theorem member?_factory (builder : String) :
    (factory builder).member? builder = some .factory := by
  simp [Method.member?, factory]

theorem member?_buildMethod {r : Record} (h : r.IsUsable .java) (builder : String) :
    (buildMethod (Blueprint.ofRecord .java r)).member? builder =
      some (.maker (r.invocation .java (r.fieldNames .java))) := by
  have hmade := made?_line h.isName
    (Text.not_mem_of_isIdentifier h.name (c := '(') (by decide)) (fun _ => h.isName_field)
    (fun _ hf => h.not_mem_field hf (c := ',') (by decide) (by decide))
  simp only [Method.member?, buildMethod, Blueprint.arguments_ofRecord]
  exact congrArg (Option.map Member.maker) hmade

theorem member?_setterMethod {s : Setter} (h : s.parameter = s.slot)
    (hname : Language.java.isName s.slot = true) (hblank : ' ' ∉ s.slot.toList) (builder : String) :
    (setterMethod builder s).member? builder = some (.setter s.slot) := by
  have hstored := Language.stored?_line "this." hname hname hblank hblank
  simp only [Method.member?, setterMethod, h, and_self, if_true, hstored, Option.map_some]

/-- **The class of a usable record** is read as the program of the record. -/
theorem program?_builderFile {r : Record} (h : r.IsUsable .java) (stamp : Stamp) :
    (builderFile r stamp).program? = some (r.program .java) := by
  have hslots : ((Blueprint.ofRecord .java r).slots.map fun s : Slot =>
      ({ name := s.name, type := s.type } : Field)).mapM Field.slot? =
        some ((Blueprint.ofRecord .java r).slots.map id) := by
    rw [List.mapM_map]
    exact mapM_eq_some_map fun s hs => if_pos (h.isName_slot hs)
  have hsetters : ((Blueprint.ofRecord .java r).setters.map (setterMethod r.builderName)).mapM
      (Method.member? r.builderName) =
        some ((Blueprint.ofRecord .java r).setters.map fun s => .setter s.slot) := by
    rw [List.mapM_map]
    refine mapM_eq_some_map fun s hs => ?_
    obtain ⟨hparameter, hfield⟩ := Blueprint.slot_mem_of_mem_setters hs
    exact member?_setterMethod hparameter (h.isName_field hfield)
      (h.not_mem_field hfield (by decide) (by decide)) _
  have hmembers : (builderClass r stamp).methods.mapM (Method.member? r.builderName) =
      some (r.program .java).members := by
    simp only [builderClass, Blueprint.builder_ofRecord, List.mapM_append, List.mapM_cons,
      List.mapM_nil, member?_hiddenConstructor, member?_factory, member?_buildMethod h, hsetters]
    simp [Record.program, Blueprint.arguments_ofRecord]
  change (builderClass r stamp).program? = _
  rw [Class.program?, show (builderClass r stamp).name = r.builderName from rfl, hmembers]
  simp only [builderClass, hslots]
  simp [Record.program]

end BuilderGen.ClassUnit
