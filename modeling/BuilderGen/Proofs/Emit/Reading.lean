import BuilderGen.Proofs.Emit.Program
import BuilderGen.Proofs.Record

/-!
# BuilderGen.Proofs.Emit.Reading

**Reading lines of source text**: the few forms that both languages have in the bodies
of builders. A line is read from its outside in. `inside?` takes off a known front and
back, `invoked?` takes a call apart, and lists are cut at their separator. What is left
in the end must be a name of the language (`Language.isName`), so nothing that is read
can hide an operator, a call or a reserved word.

For each reader there is a lemma that it reads back what is printed in its form.
-/

namespace BuilderGen

open Text (isIdentifier isIdentifierRest segments joinWith)

/-! ### Texts with a known front and back -/

namespace Text

/-- What stands between `front` and `back` in a text of that form. -/
def inside? (front back text : String) : Option String := do
  let rest ← text.toList.dropPrefix? front.toList
  let middle ← rest.dropSuffix? back.toList
  return String.ofList middle

theorem inside?_eq_some_iff {front back text middle : String} :
    inside? front back text = some middle ↔ text = front ++ middle ++ back := by
  simp only [inside?, Option.bind_eq_bind, Option.pure_def, Option.bind_eq_some_iff,
    List.dropPrefix?_eq_some_iff, List.dropSuffix?_eq_some_iff, beq_iff_eq, Option.some.injEq]
  refine ⟨fun h => ?_, fun h => ?_⟩
  · obtain ⟨rest, ⟨_, htext, rfl⟩, cs, ⟨_, rfl, rfl⟩, rfl⟩ := h
    rw [← String.toList_inj, htext]
    simp
  · subst h
    exact ⟨middle.toList ++ back.toList, ⟨_, by simp, rfl⟩, middle.toList, ⟨_, rfl, rfl⟩, by simp⟩

@[simp] theorem inside?_append (front middle back : String) :
    inside? front back (front ++ middle ++ back) = some middle :=
  inside?_eq_some_iff.mpr rfl

/-- A text whose last character is not that of `back` does not end with it. -/
theorem inside?_eq_none_of_getLast? {front back text : String} {c : Char}
    (hback : back.toList.getLast? = some c) (h : text.toList.getLast? ≠ some c) :
    inside? front back text = none := by
  rw [Option.eq_none_iff_forall_ne_some]
  intro middle hmiddle
  rw [inside?_eq_some_iff] at hmiddle
  rw [hmiddle, String.toList_append, List.getLast?_append, hback] at h
  exact h rfl

/-- A text of the form `head(arguments)`, taken apart. -/
def invoked? (text : String) : Option (String × String) := do
  let body ← inside? "" ")" text
  match segments "(" body with
  | head :: rest => if rest = [] then none else some (head, joinWith "(" rest)
  | [] => none

theorem invoked?_append {head : String} (h : '(' ∉ head.toList) (arguments : String) :
    invoked? (head ++ "(" ++ arguments ++ ")") = some (head, arguments) := by
  have hbody : inside? "" ")" (head ++ "(" ++ arguments ++ ")") =
      some (head ++ "(" ++ arguments) := inside?_eq_some_iff.mpr (by simp)
  rw [invoked?, hbody, Option.bind_eq_bind, Option.bind_some, segments_append rfl h]
  simp [segments_ne_nil, joinWith_segments]

end Text

/-! ### Names -/

namespace Language

/-- Whether a word can be written as it is: words that are reserved, or no names at all,
cannot. -/
def isFree (language : Language) (word : String) : Bool :=
  !language.isReserved word && !(language == .rust && neverRawWords.contains word)

/-- Whether a text is a name in the language: a free identifier or, where the language
has raw names, a reserved one that is written raw. -/
def isName (language : Language) (text : String) : Bool :=
  match language, Text.inside? "r#" "" text with
  | .rust, some word =>
      isIdentifier word && Language.rust.isReserved word && !neverRawWords.contains word
  | _, _ => isIdentifier text && language.isFree text

/-- An identifier is not written raw. -/
theorem inside?_raw_of_isIdentifier {name : String} (h : isIdentifier name = true) :
    Text.inside? "r#" "" name = none := by
  rw [Option.eq_none_iff_forall_ne_some]
  intro word hword
  rw [Text.inside?_eq_some_iff] at hword
  exact Text.not_mem_of_isIdentifier h (c := '#') (by decide) (by simp [hword])

theorem isName_of_isFree {language : Language} {name : String} (hid : isIdentifier name = true)
    (h : language.isFree name = true) : language.isName name = true := by
  cases language with
  | java => simp [isName, hid, h]
  | rust => simp [isName, inside?_raw_of_isIdentifier hid, hid, h]

theorem isName_empty (language : Language) : language.isName "" = false := by
  cases language <;> rfl

theorem isName_of_record {language : Language} {name : String} (hid : isIdentifier name = true)
    (h : Lint.isBadRecordName language name = false) : language.isName name = true := by
  rw [Lint.isBadRecordName, Bool.or_eq_false_iff] at h
  exact isName_of_isFree hid (by rw [isFree, h.1, h.2]; rfl)

variable {a b component : String} {language : Language}

theorem isName_fieldName (hid : isIdentifier component = true)
    (h : isBadComponentName language component = false) :
    language.isName (language.fieldName component) = true := by
  cases hr : language.isReserved component with
  | false =>
      rw [fieldName, safeName_of_not_reserved hr]
      cases language with
      | java => exact isName_of_isFree hid (by simp [isFree, hr])
      | rust => exact isName_of_isFree hid (by simpa [isFree, hr, isBadComponentName] using h)
  | true =>
      cases language with
      | java => exact absurd hr (by simpa [isBadComponentName] using h)
      | rust =>
          rw [fieldName, safeName_of_reserved hr]
          have hraw : Text.inside? "r#" "" (Language.rust.escape component) = some component :=
            Text.inside?_eq_some_iff.mpr (by simp [escape])
          simpa [isName, hraw, hid, hr, isBadComponentName] using h

/-- A field has the characters of an identifier, or the mark of a raw name. -/
theorem not_mem_fieldName (hid : isIdentifier component = true) {c : Char}
    (hc : isIdentifierRest c = false) (hraw : c ≠ '#') :
    c ∉ (language.fieldName component).toList := by
  have hmem := Text.not_mem_of_isIdentifier hid hc
  have hne : ∀ d, isIdentifierRest d = true → c ≠ d := by
    intro d hd heq
    rw [← heq, hc] at hd
    cases hd
  cases hr : language.isReserved component with
  | false => rwa [fieldName, safeName_of_not_reserved hr]
  | true =>
      rw [fieldName, safeName_of_reserved hr]
      cases language with
      | java => simp [escape, hmem, hne '_' (by decide)]
      | rust => simp [escape, hmem, hne 'r' (by decide), hraw]

/-- In a struct, components have fields of their own: a raw name is no identifier, so both are
written raw or neither is. -/
theorem fieldName_rust_inj (ha : isIdentifier a = true) (hb : isIdentifier b = true)
    (h : Language.rust.fieldName a = Language.rust.fieldName b) : a = b := by
  have hraw : ∀ {name other : String}, isIdentifier name = true → name ≠ "r#" ++ other := by
    intro name other hname heq
    subst heq
    exact Text.not_mem_of_isIdentifier hname (c := '#') (by decide) (by simp)
  cases hra : Language.rust.isReserved a <;> cases hrb : Language.rust.isReserved b
  · rwa [fieldName, safeName_of_not_reserved hra, fieldName, safeName_of_not_reserved hrb] at h
  · rw [fieldName, safeName_of_not_reserved hra, fieldName, safeName_of_reserved hrb] at h
    exact absurd h (hraw ha)
  · rw [fieldName, safeName_of_reserved hra, fieldName, safeName_of_not_reserved hrb] at h
    exact absurd h.symm (hraw hb)
  · rw [fieldName, safeName_of_reserved hra, fieldName, safeName_of_reserved hrb, escape,
      escape] at h
    exact (String.append_right_inj _).mp h

/-- Usable components have fields of their own. Escaping with an underscore would break
this, but no reserved word is usable where it is escaped so. -/
theorem fieldName_inj (ha : isIdentifier a = true) (hb : isIdentifier b = true)
    (ha' : isBadComponentName language a = false) (hb' : isBadComponentName language b = false)
    (h : language.fieldName a = language.fieldName b) : a = b := by
  cases language with
  | java =>
      rwa [fieldName, safeName_of_not_reserved ha', fieldName, safeName_of_not_reserved hb'] at h
  | rust => exact fieldName_rust_inj ha hb h

/-! ### Lines -/

/-- The slot that a line stores a parameter in, in a builder written `front`. -/
def stored? (language : Language) (front parameter line : String) : Option String := do
  let assignment ← Text.inside? front ";" line
  match segments " = " assignment with
  | [slot, value] =>
      if value = parameter ∧ language.isName parameter ∧ language.isName slot then some slot
      else none
  | _ => none

theorem stored?_line (front : String) {slot parameter : String}
    (hslot : language.isName slot = true) (hparameter : language.isName parameter = true)
    (hblank : ' ' ∉ slot.toList) (hblank' : ' ' ∉ parameter.toList) :
    language.stored? front parameter (front ++ slot ++ " = " ++ parameter ++ ";") = some slot := by
  have hinside : Text.inside? front ";" (front ++ slot ++ " = " ++ parameter ++ ";") =
      some (slot ++ " = " ++ parameter) :=
    Text.inside?_eq_some_iff.mpr (by simp only [String.append_assoc])
  rw [stored?, hinside, Option.bind_eq_bind, Option.bind_some, Text.segments_append rfl hblank,
    Text.segments_of_not_mem rfl hblank']
  simp [hslot, hparameter]

/-- The slot that is read by an argument. -/
def operand? (language : Language) (front back text : String) : Option String :=
  (Text.inside? front back text).filter language.isName

@[simp] theorem operand?_append {front back slot : String} (h : language.isName slot = true) :
    language.operand? front back (front ++ slot ++ back) = some slot := by
  simp [operand?, h]

/-- The slots that are read by arguments, each of them between `front` and `back`. -/
def operands? (language : Language) (front back text : String) : Option (List String) :=
  if text = "" then some [] else (segments ", " text).mapM (language.operand? front back)

theorem operands?_joinWith (front back : String) {slots : List String}
    (hnames : ∀ s ∈ slots, language.isName s = true)
    (hcomma : ∀ s ∈ slots, ',' ∉ (front ++ s ++ back).toList) :
    language.operands? front back (joinWith ", " (slots.map fun s => front ++ s ++ back)) =
      some slots := by
  by_cases hnil : slots = []
  · subst hnil
    rfl
  have hsep : (", " : String).toList = [',', ' '] := rfl
  have hcut : segments ", " (joinWith ", " (slots.map fun s => front ++ s ++ back)) =
      slots.map fun s => front ++ s ++ back :=
    Text.segments_joinWith hsep (by simpa using hnil) (by simpa using hcomma)
  have hne : joinWith ", " (slots.map fun s => front ++ s ++ back) ≠ "" := by
    -- an empty text has an empty segment only, and no name is empty
    intro hempty
    obtain ⟨s, hs⟩ := List.exists_mem_of_ne_nil slots hnil
    have hmem : front ++ s ++ back ∈ [""] := by
      rw [show [""] = segments ", " "" from rfl, ← hempty, hcut]
      exact List.mem_map_of_mem hs
    have hs' := hnames s hs
    simp only [List.mem_singleton, String.append_eq_empty_iff] at hmem
    rw [hmem.1.2, isName_empty] at hs'
    cases hs'
  have hread : (slots.map fun s => front ++ s ++ back).mapM (language.operand? front back) =
      some (slots.map id) := by
    rw [List.mapM_map]
    exact mapM_eq_some_map fun s hs => operand?_append (hnames s hs)
  rw [operands?, if_neg hne, hcut, hread, List.map_id]

end Language

/-! ### Names of usable records -/

namespace Record.IsUsable

variable {language : Language} {r : Record}

theorem isName (h : r.IsUsable language) : language.isName r.name = true :=
  Language.isName_of_record h.name h.recordName

theorem isName_field (h : r.IsUsable language) {field : String}
    (hf : field ∈ r.fieldNames language) : language.isName field = true := by
  obtain ⟨c, hc, rfl⟩ := List.mem_map.mp hf
  exact Language.isName_fieldName (h.components c hc) (h.componentNames c hc)

theorem isName_slot (h : r.IsUsable language) {s : Slot}
    (hs : s ∈ (Blueprint.ofRecord language r).slots) : language.isName s.name = true := by
  refine h.isName_field ?_
  rw [← Blueprint.slotNames_ofRecord]
  exact List.mem_map_of_mem hs

/-- No field holds punctuation, except for the mark of a raw name. -/
theorem not_mem_field (h : r.IsUsable language) {field : String}
    (hf : field ∈ r.fieldNames language) {c : Char} (hc : isIdentifierRest c = false)
    (hraw : c ≠ '#') : c ∉ field.toList := by
  obtain ⟨d, hd, rfl⟩ := List.mem_map.mp hf
  exact Language.not_mem_fieldName (h.components d hd) hc hraw

theorem nodup_fieldNames (h : r.IsUsable language) : (r.fieldNames language).Nodup := by
  have hnames : r.components.Pairwise fun a b => a.name ≠ b.name := by
    simpa [List.Nodup, List.pairwise_map] using h.distinct
  rw [Record.fieldNames, List.Nodup, List.pairwise_map]
  refine hnames.imp_of_mem fun ha hb hne hfield => hne ?_
  exact Language.fieldName_inj (h.components _ ha) (h.components _ hb) (h.componentNames _ ha)
    (h.componentNames _ hb) hfield

end Record.IsUsable
end BuilderGen
