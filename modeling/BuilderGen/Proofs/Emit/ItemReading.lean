import BuilderGen.Emit.ItemUnit
import BuilderGen.Proofs.Emit.Reading

/-!
# BuilderGen.Proofs.Emit.ItemReading

**Reading item units.** A struct and its implementation are read as a builder program:
the fields of the struct are the slots, and a function is told apart by its receiver,
its parameters and the lines of its body. A record is made by a literal, which gives
each of its fields on a line of its own, or by a call.

The items of a usable record are read as the program that does what the record's
blueprint lists (`program?_builderFile`).
-/

namespace BuilderGen.ItemUnit

open Text (isIdentifier isIdentifierRest segments joinWith)

/-- The slot that a line of a literal copies into a field: `f: self.g.clone(),`. -/
def given? (line : String) : Option (String × String) := do
  let given ← Text.inside? "    " "," line
  match segments ": " given with
  | [field, value] =>
      let slot ← Language.rust.operand? "self." ".clone()" value
      if Language.rust.isName field then some (field, slot) else none
  | _ => none

/-- What a literal makes. Without fields it is written on one line. -/
def literal? : List String → Option (Invocation String)
  | [] => none
  | line :: lines =>
      if lines = [] then do
        let type ← Text.inside? "" " \x7b\x7d" line
        if Language.rust.isName type then some (.literal type []) else none
      else do
        let type ← Text.inside? "" " \x7b" line
        let fields ← lines.dropLast.mapM given?
        if Language.rust.isName type ∧ lines.getLast? = some "\x7d" then some (.literal type fields)
        else none

/-- What a call `T::f(self.a.clone(), self.b.clone())` makes. -/
def called? : List String → Option (Invocation String)
  | [line] => do
      let (path, arguments) ← Text.invoked? line
      let slots ← Language.rust.operands? "self." ".clone()" arguments
      match segments "::" path with
      | [type, function] =>
          if Language.rust.isName type ∧ isIdentifier function then some (.call type function slots)
          else none
      | _ => none
  | _ => none

/-- What a function of a struct does. -/
def Function.member? (f : Function) : Option Member :=
  match f.parameters, f.body with
  | [], body =>
      if f.returns = some "Self" ∧ body = ["Self::default()"] then some .factory else none
  | [.receiver self], body =>
      if self = "&self" then (literal? body <|> called? body).map .maker else none
  | [.receiver self, .typed name _], [line, last] =>
      if self = "&mut self" ∧ f.returns = some "&mut Self" ∧ last = "self" then
        (Language.rust.stored? "self." name line).map .setter
      else none
  | _, _ => none

/-- The slot that a field declares. -/
def Field.slot? (f : Field) : Option Slot :=
  if Language.rust.isName f.name then some { name := f.name, type := f.type } else none

/-- The only struct of a file and its implementation, read as a builder. New builders
have defaults in their slots because the struct derives that. -/
def File.program? (f : File) : Option Program :=
  match f.items with
  | [.struct s, .implementation i] =>
      if i.type = s.name ∧ "Default" ∈ s.derives then do
        let slots ← s.fields.mapM Field.slot?
        let members ← i.methods.mapM Function.member?
        return { slots, members }
      else none
  | _ => none

/-! ### Builder items -/

variable {r : Record}

theorem member?_factory : factory.member? = some .factory := by
  simp [Function.member?, factory]

theorem member?_setterFunction {s : Setter} (h : s.parameter = s.slot)
    (hname : Language.rust.isName s.slot = true) (hblank : ' ' ∉ s.slot.toList) :
    (setterFunction s).member? = some (.setter s.slot) := by
  have hstored := Language.stored?_line "self." hname hname hblank hblank
  simp only [Function.member?, setterFunction, h, and_self, if_true, hstored, Option.map_some]

/-- Copying a slot adds no punctuation but dots and brackets. -/
theorem not_mem_copied {slot : String} {c : Char} (h : c ∉ slot.toList)
    (hcopied : c ∉ "self..clone()".toList) : c ∉ (copied slot).toList := by
  have hsplit : "self..clone()".toList = "self.".toList ++ ".clone()".toList := rfl
  rw [hsplit, List.mem_append, not_or] at hcopied
  simp only [copied, String.toList_append, List.mem_append, not_or]
  exact ⟨⟨hcopied.1, h⟩, hcopied.2⟩

theorem given?_line {field slot : String} (hfield : Language.rust.isName field = true)
    (hslot : Language.rust.isName slot = true) (hcolon : ':' ∉ field.toList)
    (hcolon' : ':' ∉ slot.toList) :
    given? ("    " ++ field ++ ": " ++ copied slot ++ ",") = some (field, slot) := by
  have hinside : Text.inside? "    " "," ("    " ++ field ++ ": " ++ copied slot ++ ",") =
      some (field ++ ": " ++ copied slot) :=
    Text.inside?_eq_some_iff.mpr (by simp only [String.append_assoc])
  have hcut : segments ": " (field ++ ": " ++ copied slot) = [field, copied slot] := by
    rw [Text.segments_append rfl hcolon,
      Text.segments_of_not_mem rfl (not_mem_copied hcolon' (by decide))]
  have hoperand : Language.rust.operand? "self." ".clone()" (copied slot) = some slot :=
    Language.operand?_append hslot
  simp [given?, hinside, hcut, hoperand, hfield]

theorem literal?_construction (h : r.IsUsable .rust) (hliteral : r.constructor = .literal) :
    literal? (construction (Blueprint.ofRecord .rust r)).2 =
      some (r.invocation .rust (r.fieldNames .rust)) := by
  have hinvocation : r.invocation .rust (r.fieldNames .rust) =
      .literal r.name ((r.fieldNames .rust).map fun f => (f, f)) := by
    simpa [Record.invocation, hliteral] using
      List.zip_map' (f := id) (g := id) (l := r.fieldNames .rust)
  have hconstruction : (Blueprint.ofRecord .rust r).construction =
      .named ((r.fieldNames .rust).map fun f => (f, f)) := by
    simp [Blueprint.ofRecord, Blueprint.constructionOf, hliteral, Record.fieldNames]
  have hgiven : ∀ f ∈ r.fieldNames .rust,
      given? ("    " ++ f ++ ": " ++ copied f ++ ",") = some (f, f) := fun f hf =>
    given?_line (h.isName_field hf) (h.isName_field hf) (h.not_mem_field hf (by decide) (by decide))
      (h.not_mem_field hf (by decide) (by decide))
  have hrecord : (Blueprint.ofRecord .rust r).record = r.name := rfl
  rw [hinvocation, construction, hconstruction, hrecord]
  have hname := h.isName
  -- a literal without fields is written on one line
  generalize r.fieldNames .rust = fields at hgiven
  cases fields with
  | nil =>
      have hinside : Text.inside? "" " \x7b\x7d" (r.name ++ " \x7b\x7d") = some r.name :=
        Text.inside?_eq_some_iff.mpr (by simp)
      simp [literal?, hinside, hname]
  | cons f fields =>
      have hinside : Text.inside? "" " \x7b" (r.name ++ " \x7b") = some r.name :=
        Text.inside?_eq_some_iff.mpr (by simp)
      have hlines : (((f :: fields).map fun f => (f, f)).map fun f : String × String =>
          "    " ++ f.1 ++ ": " ++ copied f.2 ++ ",").mapM given? =
            some ((f :: fields).map fun f => (f, f)) := by
        rw [List.mapM_map, List.mapM_map]
        exact mapM_eq_some_map hgiven
      change literal? ((r.name ++ " \x7b") :: (_ ++ ["\x7d"])) = _
      rw [literal?, if_neg (by simp), hinside, List.dropLast_concat, List.getLast?_concat, hlines]
      simp [hname]

/-- The call of a usable record's constructor is read back, and not as a literal. -/
theorem called?_construction (h : r.IsUsable .rust) {name : String} {returns : Option String}
    (hcall : r.constructor = .function name returns) :
    literal? (construction (Blueprint.ofRecord .rust r)).2 = none ∧
      called? (construction (Blueprint.ofRecord .rust r)).2 =
        some (r.invocation .rust (r.fieldNames .rust)) := by
  have hconstruction : (Blueprint.ofRecord .rust r).construction =
      .call name (returns.getD r.name) (r.fieldNames .rust) := by
    simp [Blueprint.ofRecord, Blueprint.constructionOf, hcall, Record.fieldNames]
  have hid := h.constructor name returns hcall
  have hpath : segments "::" (r.name ++ "::" ++ name) = [r.name, name] := by
    rw [Text.segments_append rfl (Text.not_mem_of_isIdentifier h.name (by decide)),
      Text.segments_of_not_mem rfl (Text.not_mem_of_isIdentifier hid (by decide))]
  have hinvoked : Text.invoked? (r.name ++ "::" ++ name ++ "(" ++
      joinWith ", " ((r.fieldNames .rust).map copied) ++ ")") =
        some (r.name ++ "::" ++ name, joinWith ", " ((r.fieldNames .rust).map copied)) := by
    refine Text.invoked?_append ?_ _
    have h1 : '(' ∉ r.name.toList := Text.not_mem_of_isIdentifier h.name (by decide)
    have h2 : '(' ∉ name.toList := Text.not_mem_of_isIdentifier hid (by decide)
    simp [h1, h2]
  have hoperands := Language.operands?_joinWith "self." ".clone()"
    (fun _ hf => h.isName_field hf) (fun f hf => not_mem_copied
      (h.not_mem_field hf (c := ',') (by decide) (by decide)) (by decide))
  have hrecord : (Blueprint.ofRecord .rust r).record = r.name := rfl
  have hline : (construction (Blueprint.ofRecord .rust r)).2 = [r.name ++ "::" ++ name ++ "(" ++
      joinWith ", " ((r.fieldNames .rust).map copied) ++ ")"] := by
    rw [construction, hconstruction, hrecord]
  refine ⟨?_, ?_⟩
  · -- the line ends with a bracket of another kind
    have hend : (")".toList.getLast?.or (r.name ++ "::" ++ name ++ "(" ++
        joinWith ", " ((r.fieldNames .rust).map copied)).toList.getLast?) ≠ some '\x7d' := by simp
    rw [hline, literal?, if_pos rfl, Text.inside?_eq_none_of_getLast? (c := '\x7d') rfl
      (by rwa [String.toList_append, List.getLast?_append])]
    rfl
  · rw [hline, called?, hinvoked]
    simp only [Option.bind_eq_bind, Option.bind_some, hpath]
    rw [show (fun s => "self." ++ s ++ ".clone()") = copied from rfl] at hoperands
    simp [hoperands, h.isName, hid, Record.invocation, hcall]

theorem member?_buildFunction (h : r.IsUsable .rust) :
    (buildFunction (Blueprint.ofRecord .rust r)).member? =
      some (.maker (r.invocation .rust (r.fieldNames .rust))) := by
  have hmade : (literal? (construction (Blueprint.ofRecord .rust r)).2 <|>
      called? (construction (Blueprint.ofRecord .rust r)).2) =
        some (r.invocation .rust (r.fieldNames .rust)) := by
    cases hc : r.constructor with
    | literal => rw [literal?_construction h hc]; rfl
    | function name returns =>
        rw [(called?_construction h hc).1, (called?_construction h hc).2]
        rfl
  simp only [Function.member?, buildFunction, if_true, hmade, Option.map_some]

/-- **The items of a usable record** are read as the program of the record. -/
theorem program?_builderFile (h : r.IsUsable .rust) (stamp : Stamp) :
    (builderFile r stamp).program? = some (r.program .rust) := by
  have hslots : ((Blueprint.ofRecord .rust r).slots.map fun s : Slot =>
      ({ name := s.name, type := s.type } : Field)).mapM Field.slot? =
        some ((Blueprint.ofRecord .rust r).slots.map id) := by
    rw [List.mapM_map]
    exact mapM_eq_some_map fun s hs => if_pos (h.isName_slot hs)
  have hsetters : ((Blueprint.ofRecord .rust r).setters.map setterFunction).mapM
      Function.member? =
        some ((Blueprint.ofRecord .rust r).setters.map fun s => .setter s.slot) := by
    rw [List.mapM_map]
    refine mapM_eq_some_map fun s hs => ?_
    obtain ⟨hparameter, hfield⟩ := Blueprint.slot_mem_of_mem_setters hs
    exact member?_setterFunction hparameter (h.isName_field hfield)
      (h.not_mem_field hfield (by decide) (by decide))
  have hmembers : (builderImplementation (Blueprint.ofRecord .rust r)).methods.mapM
      Function.member? = some (r.program .rust).members := by
    simp only [builderImplementation, List.mapM_append, List.mapM_cons, List.mapM_nil,
      member?_factory, member?_buildFunction h, hsetters]
    simp [Record.program, Blueprint.arguments_ofRecord]
  change (if _ ∧ _ then _ else _) = _
  rw [if_pos ⟨rfl, by simp [builderStruct]⟩]
  simp only [builderStruct, hslots, hmembers]
  simp [Record.program]

end BuilderGen.ItemUnit
