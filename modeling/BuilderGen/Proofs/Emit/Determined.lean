import BuilderGen.Proofs.Emit.BuilderPath
import BuilderGen.Proofs.Emit.Setters
import BuilderGen.Proofs.Layout

/-!
# BuilderGen.Proofs.Emit.Determined

**The text of a builder determines its record** (`Manifest.builderText_eq_iff`), although types
are arbitrary text and may read like other parts of the file. The text is taken apart from its
top, and at each step it is known where the next piece ends:

* a name or a package ends at a character that it cannot hold, and so does a type that stands
  at the end of its line;
* a package is left out if it is empty, but no other line starts like its line;
* the fields end at the first line that does not end as a field does, and the documentation of
  a struct at the first line that does not start as one.

What follows from what was read already is not read again, but the same on both sides. The
fields tell the components of a struct. In a class they do not, because a reserved word and
the word with an underscore have the same field; there the setters make the difference.
-/

namespace BuilderGen

open Text (isIdentifier isIdentifier_iff isIdentifierRest unlines)

/-! ### Pieces of a text -/

/-- What tells the elements of two lists apart tells the lists apart. -/
theorem map_eq_map_of_forall {α β γ : Type} {p : α → Prop} {f : α → β} {g : α → γ}
    (h : ∀ {a b}, p a → p b → f a = f b → g a = g b) : ∀ {xs ys : List α}, (∀ a ∈ xs, p a) →
      (∀ b ∈ ys, p b) → xs.map f = ys.map f → xs.map g = ys.map g
  | [], [], _, _, _ => rfl
  | [], _ :: _, _, _, hmap => by cases hmap
  | _ :: _, [], _, _, hmap => by cases hmap
  | a :: xs, b :: ys, hxs, hys, hmap => by
      obtain ⟨ha, hxs⟩ := List.forall_mem_cons.mp hxs
      obtain ⟨hb, hys⟩ := List.forall_mem_cons.mp hys
      obtain ⟨hhead, htail⟩ := List.cons.inj hmap
      rw [List.map_cons, List.map_cons, h ha hb hhead, map_eq_map_of_forall h hxs hys htail]

/-- A line about a text, which is left out when the text is empty. -/
def noteLine (front back text : String) : String :=
  if text = "" then "" else front ++ text ++ back ++ "\n"

/-- A text on one line is told by the line about it, if nothing else starts like that line. -/
theorem noteLine_append_inj {front back text text' rest rest' : String}
    (hback : '\n' ∉ back.toList) (htext : '\n' ∉ text.toList) (htext' : '\n' ∉ text'.toList)
    (hrest : ∀ other, rest ≠ front ++ other) (hrest' : ∀ other, rest' ≠ front ++ other)
    (h : noteLine front back text ++ rest = noteLine front back text' ++ rest') :
    text = text' ∧ rest = rest' := by
  unfold noteLine at h
  split at h <;> split at h
  case isTrue.isTrue hempty hempty' =>
    exact ⟨hempty.trans hempty'.symm, by simpa using h⟩
  case isTrue.isFalse =>
    simp only [String.empty_append, String.append_assoc] at h
    exact absurd h (hrest _)
  case isFalse.isTrue =>
    simp only [String.empty_append, String.append_assoc] at h
    exact absurd h.symm (hrest' _)
  case isFalse.isFalse =>
    have hlines : text ++ back ++ "\n" ++ rest = text' ++ back ++ "\n" ++ rest' := by
      simpa only [String.append_assoc, String.append_right_inj] using h
    obtain ⟨hfront, hback⟩ := Text.append_inj_first (d := '\n') rfl (by simp [htext, hback])
      (by simp [htext', hback]) hlines
    exact ⟨(String.append_left_inj back).mp hfront, hback⟩

/-! ### Names -/

namespace Language

variable {a b component : String}

theorem not_mem_setterName_java (h : isIdentifier component = true) {c : Char}
    (hc : isIdentifierRest c = false) : c ∉ (Language.java.setterName component).toList := by
  have hname : Language.java.isName (Language.java.setterName component) = true :=
    isName_setterName h
  rw [isName_iff] at hname
  obtain ⟨hid, -⟩ | ⟨hrust, -⟩ := hname
  · exact Text.not_mem_of_isIdentifier (isIdentifier_iff.mpr hid) hc
  · cases hrust

/-- A component of a class is told by its field and its setter. One of them would not do: a
reserved word has the field of the word with an underscore, and the setter capitalises. -/
theorem name_java_inj (ha : isIdentifier a = true) (hb : isIdentifier b = true)
    (hfield : Language.java.fieldName a = Language.java.fieldName b)
    (hsetter : Language.java.setterName a = Language.java.setterName b) : a = b := by
  have hlength : a.toList.length = b.toList.length := by
    rcases (setterName_eq_iff ha hb).mp hsetter with rfl | ⟨-, c, d, cs, hac, hbd, -⟩
    · rfl
    · rw [hac, hbd, List.length_cons, List.length_cons]
  cases hra : Language.java.isReserved a <;> cases hrb : Language.java.isReserved b
  · rwa [fieldName, safeName_of_not_reserved hra, fieldName, safeName_of_not_reserved hrb] at hfield
  · rw [fieldName, safeName_of_not_reserved hra, fieldName, safeName_of_reserved hrb] at hfield
    rw [hfield] at hlength
    simp [escape] at hlength
  · rw [fieldName, safeName_of_reserved hra, fieldName, safeName_of_not_reserved hrb] at hfield
    rw [← hfield] at hlength
    simp [escape] at hlength
  · rw [fieldName, safeName_of_reserved hra, fieldName, safeName_of_reserved hrb] at hfield
    exact (String.append_left_inj "_").mp hfield

end Language

/-! ### Records on one line -/

theorem Component.eq_of {c c' : Component} (hname : c.name = c'.name) (htype : c.type = c'.type) :
    c = c' := by
  cases c
  cases c'
  exact (Component.mk.injEq ..).mpr ⟨hname, htype⟩

namespace Record.IsSound

variable {r : Record} (h : r.IsSound)
include h

theorem one_line_name : '\n' ∉ r.name.toList :=
  Text.not_mem_of_isIdentifier h.name (by decide)

theorem isIdentifier_builderName : isIdentifier r.builderName = true :=
  Text.isIdentifier_append h.name (List.all_eq_true.mp rfl)

theorem one_line_package : '\n' ∉ r.package.toList := by
  obtain ⟨language, hpackage⟩ := h.package
  exact hpackage.not_mem (by decide) (by cases language <;> decide)

theorem one_line_qualifiedName : '\n' ∉ (r.qualifiedName ".").toList := by
  unfold Record.qualifiedName
  split
  · exact h.one_line_name
  · simp [h.one_line_name, h.one_line_package]

end Record.IsSound

/-- A constructor with what it returns: the record, unless something else is declared. -/
def Constructor.settled (record : String) : Constructor → Constructor
  | literal => literal
  | function name returns => function name (some (returns.getD record))

/-- A record whose declared types are written on one line. -/
structure Record.IsOneLine (r : Record) : Prop where
  types : ∀ c ∈ r.components, '\n' ∉ c.type.toList
  returns : ∀ name type, r.constructor = .function name (some type) → '\n' ∉ type.toList

/-! ### Classes -/

namespace ClassUnit

/-- A field is told by its declaration, as names hold no blank. -/
theorem Field.declaration_inj {name name' type type' : String} (hname : ' ' ∉ name.toList)
    (hname' : ' ' ∉ name'.toList) (h : ({ name, type } : Field).declaration =
      ({ name := name', type := type' } : Field).declaration) : name = name' ∧ type = type' := by
  have hdeclared : type ++ " " ++ (name ++ ";") = type' ++ " " ++ (name' ++ ";") := by
    simpa only [Field.declaration, String.append_assoc, String.append_right_inj] using h
  obtain ⟨htype, hnames⟩ := Text.append_inj_last (d := ' ') rfl (by simpa using hname)
    (by simpa using hname') hdeclared
  exact ⟨(String.append_left_inj ";").mp hnames, htype⟩

theorem methodFragments_append (ms ms' : List Method) : ∀ first,
    methodFragments first (ms ++ ms') =
      methodFragments first ms ++ methodFragments (first && ms.isEmpty) ms' := by
  induction ms with
  | nil => simp [methodFragments]
  | cons m ms ih => simp [methodFragments, ih]

/-- The text of setters, each behind an empty line. -/
def settersText (builder : String) (cs : List Component) : String :=
  unlines (Fragment.linesAt 1
    (methodFragments false (cs.map fun c => setterMethod builder (Blueprint.setterOf .java c))))

/-- What stands behind the name of the setter that fills a slot. -/
def setterTail (s : Slot) : String :=
  s.type ++ " " ++ s.name ++ ") \x7b\n        this." ++ s.name ++ " = " ++ s.name ++
    ";\n        return this;\n    \x7d\n"

theorem settersText_cons (builder : String) (c : Component) (cs : List Component) :
    settersText builder (c :: cs) = "\n    public " ++ (builder ++ (" " ++
      (Language.java.setterName c.name ++ "(" ++ (setterTail (Blueprint.slotOf .java c) ++
        settersText builder cs)))) := by
  refine String.toList_inj.mp ?_
  simp [settersText, setterTail, methodFragments, Method.fragments, docFragments, setterMethod,
    Blueprint.setterOf, Blueprint.slotOf, Page.indentation, Page.fourSpaces, Method.signature,
    Visibility.modifier, Parameter.declaration]

/-- The line of the field that holds a component. -/
def fieldLine (c : Component) : String :=
  "    " ++ ({ name := Language.java.fieldName c.name, type := c.type } : Field).declaration

/-- The methods of a builder class in front of its setters. -/
def methodsText (r : Record) : String :=
  unlines (Fragment.linesAt 1 (methodFragments r.components.isEmpty
    [hiddenConstructor r.builderName, factory r.builderName,
      buildMethod (Blueprint.ofRecord .java r)]))

theorem unlines_body (r : Record) (stamp : Stamp) :
    unlines (Fragment.linesAt 1 (builderClass r stamp).body) =
      unlines (r.components.map fieldLine) ++
        (methodsText r ++ settersText r.builderName r.components) := by
  have hfields : ((builderClass r stamp).fields.map fun f => Fragment.line f.declaration) =
      r.components.map fun c => .line
        ({ name := Language.java.fieldName c.name, type := c.type } : Field).declaration := by
    simp [builderClass, Blueprint.ofRecord, Blueprint.slotOf]
  have hempty : (builderClass r stamp).fields.isEmpty = r.components.isEmpty := by
    simp [builderClass, Blueprint.ofRecord]
  have hmethods : (builderClass r stamp).methods = [hiddenConstructor r.builderName,
      factory r.builderName, buildMethod (Blueprint.ofRecord .java r)] ++
        r.components.map fun c => setterMethod r.builderName (Blueprint.setterOf .java c) := by
    simp [builderClass, Blueprint.ofRecord]
  rw [Class.body, hfields, hempty, hmethods, methodFragments_append, Fragment.linesAt_append,
    Fragment.linesAt_append, Fragment.linesAt_map_line, Text.unlines_append, Text.unlines_append]
  simp only [List.isEmpty_cons, Bool.and_false]
  rfl

/-- The text of a builder class behind the first line of its documentation. -/
def classText (r : Record) (stamp : Stamp) : String :=
  unlines [" * " ++ ("It was automatically generated on " ++ stamp.timestamp ++ " in timezone " ++
      stamp.zone ++ "."), " */", "public " ++ "class " ++ r.builderName ++ " \x7b"] ++
    (unlines (r.components.map fieldLine) ++
      (methodsText r ++ (settersText r.builderName r.components ++ "\x7d\n")))

theorem unlines_builderClass (r : Record) (stamp : Stamp) :
    unlines (Fragment.linesAt 0 (builderClass r stamp).fragments) = "/**\n" ++ (" * " ++
      ("This class is an implementation of the builder pattern for the record " ++
        (r.qualifiedName "." ++ "." ++ "\n" ++ classText r stamp))) := by
  have hfragments : (builderClass r stamp).fragments = docFragments (builderDoc r stamp) ++
      [.braced (Visibility.public.modifier ++ "class " ++ r.builderName ++ " \x7b")
        (builderClass r stamp).body] := by
    rw [Class.fragments]
    rfl
  rw [hfragments]
  simp [unlines_body, docFragments, builderDoc, Page.blockDocLine, classText, Page.indentation,
    Visibility.modifier, String.append_assoc]

/-- The text of a file, from the marker on. -/
theorem File.render_inPackage (classes : List Class) (package : String) :
    ({ classes : File }.inPackage package).render = "// " ++ marker ++ "\n" ++
      (noteLine "\npackage " ";" package ++
        unlines (Fragment.linesAt 0 (classes.flatMap fun c => .blank :: c.fragments))) := by
  by_cases hpackage : package = "" <;> refine String.toList_inj.mp ?_ <;>
    simp [File.render, Fragment.render_eq_unlines, File.fragments, File.inPackage, hpackage,
      noteLine, Page.indentation]

/-- The methods start with a line that is told apart from a field. -/
theorem exists_methodsText {r : Record} (hname : '\n' ∉ r.name.toList) :
    ∃ line rest, methodsText r = line ++ "\n" ++ rest ∧
      line.toList.getLast? ≠ some ';' ∧ '\n' ∉ line.toList := by
  suffices h : ∃ line lines, Fragment.linesAt 1 (methodFragments r.components.isEmpty
      [hiddenConstructor r.builderName, factory r.builderName,
        buildMethod (Blueprint.ofRecord .java r)]) = line :: lines ∧
      line.toList.getLast? ≠ some ';' ∧ '\n' ∉ line.toList by
    obtain ⟨line, lines, hlines, hline⟩ := h
    exact ⟨line, unlines lines, by rw [methodsText, hlines, Text.unlines_cons], hline⟩
  cases r.components.isEmpty with
  | false => exact ⟨"", _, rfl, by decide, by decide⟩
  | true =>
      have hsignature : (hiddenConstructor r.builderName).signature =
          "private " ++ r.builderName ++ "() \x7b" := by
        simp [Method.signature, hiddenConstructor, Visibility.modifier, String.append_assoc]
      refine ⟨Page.indentation Page.fourSpaces 1 ++ (hiddenConstructor r.builderName).signature, _,
        rfl, ?_, ?_⟩
      · rw [hsignature, ← String.append_assoc, String.toList_append, List.getLast?_append]
        simp
      · rw [hsignature]
        simpa [Page.indentation, Page.fourSpaces, Record.builderName] using hname

/-- The lines of fields end with a semicolon, unlike the line behind them. -/
theorem of_mem_fieldLines {cs : List Component} (hnames : ∀ c ∈ cs, isIdentifier c.name = true)
    (hlines : ∀ c ∈ cs, '\n' ∉ c.type.toList) :
    ∀ l ∈ cs.map fieldLine, l.toList.getLast? = some ';' ∧ '\n' ∉ l.toList := by
  intro l hl
  obtain ⟨c, hc, rfl⟩ := List.mem_map.mp hl
  have hfield : '\n' ∉ (Language.java.fieldName c.name).toList :=
    Language.not_mem_fieldName (hnames c hc) (by decide) (by decide)
  refine ⟨?_, by simp [fieldLine, Field.declaration, Visibility.modifier, hlines c hc, hfield]⟩
  rw [fieldLine, Field.declaration, String.toList_append, String.toList_append,
    List.getLast?_append, List.getLast?_append]
  rfl

theorem slotOf_of_fieldLine {c c' : Component} (hc : isIdentifier c.name = true)
    (hc' : isIdentifier c'.name = true) (h : fieldLine c = fieldLine c') :
    Blueprint.slotOf .java c = Blueprint.slotOf .java c' := by
  have hblank : ∀ {name : String}, isIdentifier name = true →
      ' ' ∉ (Language.java.fieldName name).toList :=
    fun hname => Language.not_mem_fieldName hname (by decide) (by decide)
  rw [fieldLine, fieldLine, String.append_right_inj] at h
  obtain ⟨hname, htype⟩ := Field.declaration_inj (hblank hc) (hblank hc') h
  rw [Blueprint.slotOf, Blueprint.slotOf, hname, htype]

/-- Next to the fields, the setters tell the names of components. -/
theorem components_of_settersText {builder rest rest' : String} : ∀ {cs cs' : List Component},
    (∀ c ∈ cs, isIdentifier c.name = true) → (∀ c ∈ cs', isIdentifier c.name = true) →
      cs.map (Blueprint.slotOf .java) = cs'.map (Blueprint.slotOf .java) →
      settersText builder cs ++ rest = settersText builder cs' ++ rest' → cs = cs'
  | [], [], _, _, _, _ => rfl
  | [], _ :: _, _, _, hslots, _ => by simp at hslots
  | _ :: _, [], _, _, hslots, _ => by simp at hslots
  | c :: cs, c' :: cs', hcs, hcs', hslots, h => by
      obtain ⟨hc, hcs⟩ := List.forall_mem_cons.mp hcs
      obtain ⟨hc', hcs'⟩ := List.forall_mem_cons.mp hcs'
      obtain ⟨hslot, hslots⟩ := List.cons.inj hslots
      have hsetters : Language.java.setterName c.name ++ "(" ++
            (setterTail (Blueprint.slotOf .java c) ++ (settersText builder cs ++ rest)) =
          Language.java.setterName c'.name ++ "(" ++
            (setterTail (Blueprint.slotOf .java c) ++ (settersText builder cs' ++ rest')) := by
        simpa only [settersText_cons, ← hslot, String.append_assoc, String.append_right_inj] using h
      obtain ⟨hsetter, hrest⟩ := Text.append_inj_first (d := '(') rfl
        (Language.not_mem_setterName_java hc (by decide))
        (Language.not_mem_setterName_java hc' (by decide)) hsetters
      obtain ⟨hfield, htype⟩ := Slot.mk.inj hslot
      have hname := Language.name_java_inj hc hc' hfield hsetter
      rw [components_of_settersText hcs hcs' hslots ((String.append_right_inj _).mp hrest),
        Component.eq_of hname htype]

/-- The methods in front of the setters are told by the name and the slots. -/
theorem methodsText_congr {r r' : Record} (hname : r.name = r'.name)
    (hslots : r.components.map (Blueprint.slotOf .java) =
      r'.components.map (Blueprint.slotOf .java)) : methodsText r = methodsText r' := by
  have hempty : r.components.isEmpty = r'.components.isEmpty := by
    simpa using congrArg List.isEmpty hslots
  have hfields : (Blueprint.ofRecord .java r).arguments =
      (Blueprint.ofRecord .java r').arguments := by
    simpa [Blueprint.slotOf, Function.comp_def, Blueprint.arguments, Blueprint.ofRecord,
      Blueprint.constructionOf] using congrArg (List.map Slot.name) hslots
  have hrecord : (Blueprint.ofRecord .java r).record = (Blueprint.ofRecord .java r').record := hname
  rw [methodsText, methodsText, buildMethod, buildMethod, hempty, hfields, hrecord,
    Record.builderName, Record.builderName, hname]

section Render

variable {r r' : Record} (hr : r.IsSound) (hr' : r'.IsSound)
include hr hr'

/-- The top of a file tells the package and the name. -/
theorem name_of_render {stamp : Stamp}
    (h : (builderFile r stamp).render = (builderFile r' stamp).render) :
    r.package = r'.package ∧ r.name = r'.name ∧ classText r stamp = classText r' stamp := by
  simp only [builderFile, File.render_inPackage, String.append_right_inj, List.flatMap_singleton,
    Fragment.linesAt_blank, Text.unlines_cons, unlines_builderClass] at h
  -- what follows the package does not start like it
  have hnote : ∀ rest other : String,
      "" ++ "\n" ++ ("/**\n" ++ rest) ≠ "\npackage " ++ other := by
    intro rest other
    rw [← String.append_assoc]
    exact Text.append_ne_append (by decide) (by decide) rest other
  obtain ⟨hpackage, hclass⟩ := noteLine_append_inj (by decide) hr.one_line_package
    hr'.one_line_package (hnote _) (hnote _) h
  simp only [String.append_right_inj] at hclass
  obtain ⟨hdoc, htext⟩ := Text.append_inj_first (d := '\n') rfl
    (by simpa using hr.one_line_qualifiedName) (by simpa using hr'.one_line_qualifiedName) hclass
  have hqualified := (String.append_left_inj ".").mp hdoc
  refine ⟨hpackage, ?_, htext⟩
  rw [Record.qualifiedName, Record.qualifiedName, hpackage] at hqualified
  split at hqualified
  · exact hqualified
  · exact (String.append_right_inj _).mp hqualified

/-- The class tells the components. -/
theorem components_of_classText (hlines : ∀ c ∈ r.components, '\n' ∉ c.type.toList)
    (hlines' : ∀ c ∈ r'.components, '\n' ∉ c.type.toList) (hname : r.name = r'.name)
    {stamp : Stamp} (h : classText r stamp = classText r' stamp) :
    r.components = r'.components := by
  have hbuilder : r.builderName = r'.builderName := by rw [Record.builderName, hname]; rfl
  rw [classText, classText, hbuilder, String.append_right_inj] at h
  obtain ⟨line, rest, hmethods, hline⟩ := exists_methodsText hr.one_line_name
  obtain ⟨line', rest', hmethods', hline'⟩ := exists_methodsText hr'.one_line_name
  have hcut : unlines (r.components.map fieldLine) ++
        (line ++ "\n" ++ (rest ++ (settersText r'.builderName r.components ++ "\x7d\n"))) =
      unlines (r'.components.map fieldLine) ++
        (line' ++ "\n" ++ (rest' ++ (settersText r'.builderName r'.components ++ "\x7d\n"))) := by
    simpa only [hmethods, hmethods', String.append_assoc] using h
  obtain ⟨hfields, -⟩ := Text.unlines_append_inj (of_mem_fieldLines hr.components hlines)
    hline (of_mem_fieldLines hr'.components hlines') hline' hcut
  have hslots := map_eq_map_of_forall slotOf_of_fieldLine hr.components hr'.components hfields
  rw [hfields, methodsText_congr hname hslots, String.append_right_inj,
    String.append_right_inj] at h
  exact components_of_settersText hr.components hr'.components hslots h

end Render
end ClassUnit

/-! ### Structs -/

namespace ItemUnit

/-- A field is told by its declaration, as names hold no colon. -/
theorem Field.declaration_inj {name name' type type' : String} (hname : ':' ∉ name.toList)
    (hname' : ':' ∉ name'.toList) (h : ({ name, type } : Field).declaration =
      ({ name := name', type := type' } : Field).declaration) : name = name' ∧ type = type' := by
  have hdeclared : name ++ ":" ++ (" " ++ (type ++ ",")) =
      name' ++ ":" ++ (" " ++ (type' ++ ",")) := by
    refine String.toList_inj.mp ?_
    simpa [Field.declaration] using congrArg String.toList h
  obtain ⟨hnames, htype⟩ := Text.append_inj_first (d := ':') rfl hname hname' hdeclared
  rw [String.append_right_inj] at htype
  exact ⟨hnames, (String.append_left_inj ",").mp htype⟩

/-- The line of the field that holds a component. -/
def fieldLine (c : Component) : String :=
  "    " ++ ({ name := Language.rust.fieldName c.name, type := c.type } : Field).declaration

/-- What stands behind the name of a builder struct. -/
def structTail (cs : List Component) : String :=
  if cs.isEmpty then "\x7b\x7d\n"
  else "\x7b\n" ++ (unlines (cs.map fieldLine) ++ ("\x7d" ++ "\n"))

theorem unlines_builderStruct (r : Record) (stamp : Stamp) :
    unlines (Fragment.linesAt 0 (builderStruct r stamp (Blueprint.ofRecord .rust r)).fragments) =
      unlines ((Text.lines (builderDoc r stamp)).map Page.lineDocLine) ++
        ("#[derive(Clone, Default)]" ++ "\n" ++
          ("pub struct " ++ (r.builderName ++ " " ++ structTail r.components))) := by
  have hfields : ((builderStruct r stamp (Blueprint.ofRecord .rust r)).fields.map fun f =>
      Fragment.line f.declaration) = r.components.map fun c =>
        .line ({ name := Language.rust.fieldName c.name, type := c.type } : Field).declaration := by
    simp [builderStruct, Blueprint.ofRecord, Blueprint.slotOf]
  have hempty : (builderStruct r stamp (Blueprint.ofRecord .rust r)).fields.isEmpty =
      r.components.isEmpty := by
    simp [builderStruct, Blueprint.ofRecord]
  have hfragments : (builderStruct r stamp (Blueprint.ofRecord .rust r)).fragments =
      [.lineDoc (builderDoc r stamp), .line "#[derive(Clone, Default)]",
        if r.components.isEmpty then .line ("pub struct " ++ r.builderName ++ " \x7b\x7d")
        else .braced ("pub struct " ++ r.builderName ++ " \x7b") (r.components.map fun c => .line
          ({ name := Language.rust.fieldName c.name, type := c.type } : Field).declaration)] := by
    rw [Struct.fragments, hfields, hempty]
    rfl
  have hlines : ∀ cs : List Component, cs.map fieldLine = cs.map fun c => "    " ++
      ({ name := Language.rust.fieldName c.name, type := c.type } : Field).declaration :=
    fun cs => rfl
  rw [hfragments, structTail, hlines]
  split <;> refine String.toList_inj.mp ?_ <;> simp [Page.indentation, Page.fourSpaces]

/-- What the `build` of a builder returns. -/
def returned (r : Record) : String := (construction (Blueprint.ofRecord .rust r)).1

/-- The lines of the `build` of a builder. -/
def bodyText (r : Record) : String :=
  unlines ((construction (Blueprint.ofRecord .rust r)).2.map ("        " ++ ·))

/-- What is said about `build`. -/
def buildDoc : Fragment := .lineDoc "Calls the constructor with the current field values."

/-- A builder implementation up to what `build` returns. -/
def implementationHead (builder : String) : String :=
  unlines (("impl " ++ builder ++ " \x7b") :: Fragment.linesAt 1 factory.fragments ++
    "" :: Fragment.linesAt 1 [buildDoc]) ++ "    pub fn build(&self) -> "

theorem exists_builderImplementation (r : Record) : ∃ rest,
    unlines (Fragment.linesAt 0 (builderImplementation (Blueprint.ofRecord .rust r)).fragments) =
      implementationHead r.builderName ++
        (returned r ++ " \x7b" ++ "\n" ++ (bodyText r ++ rest)) := by
  unfold returned bodyText
  generalize hb : Blueprint.ofRecord .rust r = b
  have hbuilder : r.builderName = b.builder := by rw [← hb]; rfl
  have hmethods : methodFragments true (builderImplementation b).methods = factory.fragments ++
      (.blank :: (buildFunction b).fragments ++
        methodFragments false (b.setters.map setterFunction)) := rfl
  have hsignature : (buildFunction b).signature =
      "pub fn build(&self) -> " ++ (construction b).1 ++ " \x7b" := by
    refine String.toList_inj.mp ?_
    simp [Function.signature, buildFunction, Parameter.declaration]
  have hbuild : (buildFunction b).fragments =
      [buildDoc, .braced (buildFunction b).signature ((construction b).2.map .line)] := rfl
  refine ⟨"    \x7d\n" ++ unlines (Fragment.linesAt 1
    (methodFragments false (b.setters.map setterFunction))) ++ "\x7d\n", ?_⟩
  rw [Implementation.fragments, hmethods, hbuild, hsignature, implementationHead, hbuilder]
  refine String.toList_inj.mp ?_
  simp [builderImplementation, buildDoc, Page.indentation, Page.fourSpaces]

theorem File.render_inModule (items : List Item) (module : String) :
    ({ items : File }.inModule module).render = "// " ++ marker ++ "\n" ++
      (noteLine "// Module: " "" module ++
        unlines (Fragment.linesAt 0 (items.flatMap fun c => .blank :: c.fragments))) := by
  by_cases hmodule : module = "" <;> refine String.toList_inj.mp ?_ <;>
    simp [File.render, Fragment.render_eq_unlines, File.fragments, File.inModule, hmodule,
      noteLine, Page.indentation]

/-- A literal starts with the record and a blank. -/
theorem exists_bodyText_literal {r : Record} (h : r.constructor = .literal) :
    returned r = r.name ∧ ∃ rest, bodyText r = "        " ++ (r.name ++ (" " ++ rest)) := by
  unfold returned bodyText
  cases hcomponents : r.components with
  | nil =>
      have hmade : construction (Blueprint.ofRecord .rust r) =
          (r.name, [r.name ++ " \x7b\x7d"]) := by
        simp [construction, Blueprint.ofRecord, Blueprint.constructionOf, h, hcomponents]
      refine ⟨by rw [hmade], "\x7b\x7d\n", String.toList_inj.mp ?_⟩
      simp [hmade]
  | cons c cs =>
      obtain ⟨lines, hmade⟩ : ∃ lines, construction (Blueprint.ofRecord .rust r) =
          (r.name, (r.name ++ " \x7b") :: lines) := by
        simp [construction, Blueprint.ofRecord, Blueprint.constructionOf, h, hcomponents]
      refine ⟨by rw [hmade], "\x7b\n" ++ unlines (lines.map ("        " ++ ·)),
        String.toList_inj.mp ?_⟩
      simp [hmade]

/-- A call starts with the record, colons and the function. -/
theorem exists_bodyText_function {r : Record} {function : String} {returns : Option String}
    (h : r.constructor = .function function returns) :
    returned r = returns.getD r.name ∧ ∃ rest,
      bodyText r = "        " ++ (r.name ++ ("::" ++ (function ++ "(" ++ rest))) := by
  obtain ⟨arguments, hmade⟩ : ∃ arguments, construction (Blueprint.ofRecord .rust r) =
      (returns.getD r.name, [r.name ++ "::" ++ function ++ "(" ++ arguments ++ ")"]) := by
    simp [construction, Blueprint.ofRecord, Blueprint.constructionOf, h]
  refine ⟨by rw [returned, hmade], arguments ++ ")\n", String.toList_inj.mp ?_⟩
  simp [bodyText, hmade]

/-- What `build` returns is written on one line. -/
theorem one_line_returned {r : Record} (hr : r.IsSound) (hlines : r.IsOneLine) :
    '\n' ∉ (returned r).toList := by
  cases hc : r.constructor with
  | literal =>
      rw [(exists_bodyText_literal hc).1]
      exact hr.one_line_name
  | function function returns =>
      rw [(exists_bodyText_function hc).1]
      cases returns with
      | none => exact hr.one_line_name
      | some type => exact hlines.returns function type hc

/-- What `build` returns and the first line of it tell the constructor. -/
theorem settled_of_bodyText {r r' : Record} (hr : r.IsSound) (hr' : r'.IsSound)
    (hname : r.name = r'.name) (hreturned : returned r = returned r') {rest rest' : String}
    (h : bodyText r ++ rest = bodyText r' ++ rest') :
    r.constructor.settled r.name = r'.constructor.settled r'.name := by
  have hcall : ∀ a b : String, " " ++ a ≠ "::" ++ b :=
    Text.append_ne_append (by decide) (by decide)
  cases hc : r.constructor with
  | literal =>
      obtain ⟨-, made, hmade⟩ := exists_bodyText_literal hc
      cases hc' : r'.constructor with
      | literal => rfl
      | function function' returns' =>
          obtain ⟨-, made', hmade'⟩ := exists_bodyText_function hc'
          simp only [hmade, hmade', hname, String.append_assoc, String.append_right_inj] at h
          exact absurd h (hcall _ _)
  | function function returns =>
      obtain ⟨hfunction, made, hmade⟩ := exists_bodyText_function hc
      cases hc' : r'.constructor with
      | literal =>
          obtain ⟨-, made', hmade'⟩ := exists_bodyText_literal hc'
          simp only [hmade, hmade', hname, String.append_assoc, String.append_right_inj] at h
          exact absurd h.symm (hcall _ _)
      | function function' returns' =>
          obtain ⟨hfunction', made', hmade'⟩ := exists_bodyText_function hc'
          have hcut : function ++ "(" ++ (made ++ rest) = function' ++ "(" ++ (made' ++ rest') := by
            simpa only [hmade, hmade', hname, String.append_assoc, String.append_right_inj] using h
          obtain ⟨hnames, -⟩ := Text.append_inj_first (d := '(') rfl
            (Text.not_mem_of_isIdentifier (hr.constructor _ _ hc) (by decide))
            (Text.not_mem_of_isIdentifier (hr'.constructor _ _ hc') (by decide)) hcut
          rw [hfunction, hfunction'] at hreturned
          rw [Constructor.settled, Constructor.settled, hnames, hreturned]

theorem component_of_fieldLine {c c' : Component} (hc : isIdentifier c.name = true)
    (hc' : isIdentifier c'.name = true) (h : fieldLine c = fieldLine c') : c = c' := by
  have hcolon : ∀ {name : String}, isIdentifier name = true →
      ':' ∉ (Language.rust.fieldName name).toList :=
    fun hname => Language.not_mem_fieldName hname (by decide) (by decide)
  rw [fieldLine, fieldLine, String.append_right_inj] at h
  obtain ⟨hname, htype⟩ := Field.declaration_inj (hcolon hc) (hcolon hc') h
  exact Component.eq_of (Language.fieldName_rust_inj hc hc' hname) htype

/-- The lines of fields end with a comma, unlike the brace behind them. -/
theorem of_mem_fieldLines {cs : List Component} (hnames : ∀ c ∈ cs, isIdentifier c.name = true)
    (hlines : ∀ c ∈ cs, '\n' ∉ c.type.toList) :
    ∀ l ∈ cs.map fieldLine, l.toList.getLast? = some ',' ∧ '\n' ∉ l.toList := by
  intro l hl
  obtain ⟨c, hc, rfl⟩ := List.mem_map.mp hl
  have hfield : '\n' ∉ (Language.rust.fieldName c.name).toList :=
    Language.not_mem_fieldName (hnames c hc) (by decide) (by decide)
  refine ⟨?_, by simp [fieldLine, Field.declaration, hlines c hc, hfield]⟩
  rw [fieldLine, Field.declaration, String.toList_append, String.toList_append,
    List.getLast?_append, List.getLast?_append]
  rfl

theorem structTail_append_inj {cs cs' : List Component} {rest rest' : String}
    (hnames : ∀ c ∈ cs, isIdentifier c.name = true)
    (hnames' : ∀ c ∈ cs', isIdentifier c.name = true)
    (hlines : ∀ c ∈ cs, '\n' ∉ c.type.toList) (hlines' : ∀ c ∈ cs', '\n' ∉ c.type.toList)
    (h : structTail cs ++ rest = structTail cs' ++ rest') : cs = cs' ∧ rest = rest' := by
  have hbraces : ∀ a b : String, "\x7b\x7d\n" ++ a ≠ "\x7b\n" ++ b :=
    Text.append_ne_append (by decide) (by decide)
  unfold structTail at h
  split at h <;> split at h
  case isTrue.isTrue hempty hempty' =>
    rw [List.isEmpty_iff] at hempty hempty'
    exact ⟨hempty.trans hempty'.symm, (String.append_right_inj _).mp h⟩
  case isTrue.isFalse =>
    simp only [String.append_assoc] at h
    exact absurd h (hbraces _ _)
  case isFalse.isTrue =>
    simp only [String.append_assoc] at h
    exact absurd h.symm (hbraces _ _)
  case isFalse.isFalse =>
    have hcut : unlines (cs.map fieldLine) ++ ("\x7d" ++ "\n" ++ rest) =
        unlines (cs'.map fieldLine) ++ ("\x7d" ++ "\n" ++ rest') := by
      simpa only [String.append_assoc, String.append_right_inj] using h
    obtain ⟨hmap, -, hrest⟩ := Text.unlines_append_inj (of_mem_fieldLines hnames hlines)
      (by decide) (of_mem_fieldLines hnames' hlines') (by decide) hcut
    have hcs := map_eq_map_of_forall (g := id) component_of_fieldLine hnames hnames' hmap
    exact ⟨by simpa using hcs, hrest⟩

/-- The text of a file up to the lines of `build`. -/
theorem exists_render_builderFile (r : Record) (stamp : Stamp) : ∃ rest,
    (builderFile r stamp).render = "// " ++ marker ++ "\n" ++
      (noteLine "// Module: " "" r.package ++ ("\n" ++
        (unlines ((Text.lines (builderDoc r stamp)).map Page.lineDocLine) ++
          ("#[derive(Clone, Default)]" ++ "\n" ++ ("pub struct " ++ (r.builderName ++ " " ++
            (structTail r.components ++ ("\n" ++ (implementationHead r.builderName ++
              (returned r ++ " \x7b" ++ "\n" ++ (bodyText r ++ rest))))))))))) := by
  obtain ⟨rest, hrest⟩ := exists_builderImplementation r
  refine ⟨rest, ?_⟩
  rw [builderFile, File.render_inModule, List.flatMap_cons, List.flatMap_singleton,
    Fragment.linesAt_append, Text.unlines_append, Item.fragments, Item.fragments,
    Fragment.linesAt_blank, Fragment.linesAt_blank, Text.unlines_cons, Text.unlines_cons,
    unlines_builderStruct, hrest]
  simp only [String.append_assoc, String.empty_append]

/-- The text of a file tells the record. -/
theorem record_of_render {r r' : Record} (hr : r.IsSound) (hr' : r'.IsSound)
    (hlines : r.IsOneLine) (hlines' : r'.IsOneLine) {stamp : Stamp}
    (h : (builderFile r stamp).render = (builderFile r' stamp).render) :
    r.package = r'.package ∧ r.name = r'.name ∧ r.components = r'.components ∧
      r.constructor.settled r.name = r'.constructor.settled r'.name := by
  obtain ⟨setters, htext⟩ := exists_render_builderFile r stamp
  obtain ⟨setters', htext'⟩ := exists_render_builderFile r' stamp
  rw [htext, htext', String.append_right_inj] at h
  have hnote : ∀ rest other : String, "\n" ++ rest ≠ "// Module: " ++ other :=
    Text.append_ne_append (by decide) (by decide)
  have hdoc : ∀ r : Record, ∀ l ∈ (Text.lines (builderDoc r stamp)).map Page.lineDocLine,
      "///".toList <+: l.toList ∧ '\n' ∉ l.toList := by
    intro r l hl
    obtain ⟨line, hline, rfl⟩ := List.mem_map.mp hl
    exact Fragment.lineDocLine_of_mem hline
  obtain ⟨hpackage, hfile⟩ := noteLine_append_inj (by decide) hr.one_line_package
    hr'.one_line_package (hnote _) (hnote _) h
  rw [String.append_right_inj] at hfile
  obtain ⟨-, -, hstruct⟩ := Text.unlines_append_inj (hdoc r) (by decide) (hdoc r') (by decide) hfile
  rw [String.append_right_inj] at hstruct
  obtain ⟨hbuilder, htail⟩ := Text.append_inj_first (d := ' ') rfl
    (Text.not_mem_of_isIdentifier hr.isIdentifier_builderName (by decide))
    (Text.not_mem_of_isIdentifier hr'.isIdentifier_builderName (by decide)) hstruct
  have hname : r.name = r'.name := (String.append_left_inj "Builder").mp hbuilder
  obtain ⟨hcomponents, himplementation⟩ := structTail_append_inj hr.components hr'.components
    hlines.types hlines'.types htail
  rw [String.append_right_inj, hbuilder, String.append_right_inj] at himplementation
  obtain ⟨hreturns, hbody⟩ := Text.append_inj_first (d := '\n') rfl
    (by simpa using one_line_returned hr hlines) (by simpa using one_line_returned hr' hlines')
    himplementation
  exact ⟨hpackage, hname, hcomponents, settled_of_bodyText hr hr' hname
    ((String.append_left_inj " \x7b").mp hreturns) hbody⟩

/-- A constructor that declares the record as what it returns is written like one that
declares nothing. -/
theorem builderFile_settled (r : Record) (stamp : Stamp) :
    builderFile { r with constructor := r.constructor.settled r.name } stamp =
      builderFile r stamp := by
  have hblueprint : Blueprint.ofRecord .rust
      { r with constructor := r.constructor.settled r.name } = Blueprint.ofRecord .rust r := by
    obtain ⟨package, name, components, constructor⟩ := r
    cases constructor <;> rfl
  rw [builderFile, builderFile, hblueprint]
  rfl

end ItemUnit

/-- **The text of a builder determines its record.** Whatever types are written on one line, and
however much they look like source text themselves, the builder of a class has the same text
for the same package, name and components only, and the builder of a struct for the same
constructor as well, where declaring the record as what it returns is declaring nothing. This
holds for all records of parsed manifests, whether they pass the lints or not. -/
theorem Manifest.builderText_eq_iff {text text' : String} {m m' : Manifest}
    (hparse : parse text = .ok m) (hparse' : parse text' = .ok m') {r r' : Record}
    (hr : r ∈ Round.lowerManifest m) (hr' : r' ∈ Round.lowerManifest m') (hlines : r.IsOneLine)
    (hlines' : r'.IsOneLine) (stamp : Stamp) :
    (r.builderText .java stamp = r'.builderText .java stamp ↔
      r.package = r'.package ∧ r.name = r'.name ∧ r.components = r'.components) ∧
    (r.builderText .rust stamp = r'.builderText .rust stamp ↔
      r.package = r'.package ∧ r.name = r'.name ∧ r.components = r'.components ∧
        r.constructor.settled r.name = r'.constructor.settled r'.name) := by
  have hsound := Round.isSound_of_mem_lowerManifest
    (violation?_eq_none_iff.mp (parse_eq_ok_iff.mp hparse).2) hr
  have hsound' := Round.isSound_of_mem_lowerManifest
    (violation?_eq_none_iff.mp (parse_eq_ok_iff.mp hparse').2) hr'
  refine ⟨⟨fun h => ?_, fun h => ?_⟩, ItemUnit.record_of_render hsound hsound' hlines hlines',
    fun h => ?_⟩
  · obtain ⟨hpackage, hname, hclass⟩ := ClassUnit.name_of_render hsound hsound' h
    exact ⟨hpackage, hname, ClassUnit.components_of_classText hsound hsound' hlines.types
      hlines'.types hname hclass⟩
  · obtain ⟨package, name, components, constructor⟩ := r
    obtain ⟨rfl, rfl, rfl⟩ := h
    rfl
  · have hrecord : ({ r with constructor := r.constructor.settled r.name } : Record) =
        { r' with constructor := r'.constructor.settled r'.name } := by
      rw [Record.mk.injEq]
      exact h
    show (ItemUnit.builderFile r stamp).render = (ItemUnit.builderFile r' stamp).render
    rw [← ItemUnit.builderFile_settled r, hrecord, ItemUnit.builderFile_settled]

/-- The manifest of a struct that is made by a function. -/
def pair (components : List (String × String)) (returns : Option String) : Manifest where
  project := { name := "p", language := .rust }
  types := [("Pair", {
    builder := true
    components := components.map fun c => { name := c.1, type := c.2 }
    constructor := some { name := "new", returns } })]

/-- The record of that manifest. -/
def pairRecord (components : List (String × String)) (returns : Option String) : Record where
  package := ""
  name := "Pair"
  components := components.map fun c => { name := c.1, type := c.2 }
  constructor := .function "new" returns

set_option maxRecDepth 100000 in
/-- A type that reads like another field is not taken for one. -/
theorem disguised_field_told :
    ∃ text text', Manifest.parse text = .ok (pair [("x", "u8, y: u8")] none) ∧
      Manifest.parse text' = .ok (pair [("x", "u8"), ("y", "u8")] (some "Pair")) ∧
      (pairRecord [("x", "u8, y: u8")] none).builderText .rust ⟨2024, 5, 1, 12, 0, 0, 0⟩ ≠
        (pairRecord [("x", "u8"), ("y", "u8")] (some "Pair")).builderText .rust
          ⟨2024, 5, 1, 12, 0, 0, 0⟩ := by
  have hparse : Manifest.parse (Text.unlines ["[project]", "name = \"p\"", "language = \"rust\"",
      "[types.Pair]", "builder = true", "components = [\x7bname=\"x\",type=\"u8, y: u8\"\x7d]",
      "constructor = \x7bname=\"new\"\x7d"]) = .ok (pair [("x", "u8, y: u8")] none) := by
    apply Manifest.parse_of_toList
    · repeat apply Text.toList_unlines_cons rfl
      exact rfl
    · decide
    · decide +kernel
    · decide +kernel
  have hparse' : Manifest.parse (Text.unlines ["[project]", "name = \"p\"", "language = \"rust\"",
      "[types.Pair]", "builder = true",
      "components = [\x7bname=\"x\",type=\"u8\"\x7d,\x7bname=\"y\",type=\"u8\"\x7d]",
      "constructor = \x7bname=\"new\",returns=\"Pair\"\x7d"]) =
        .ok (pair [("x", "u8"), ("y", "u8")] (some "Pair")) := by
    apply Manifest.parse_of_toList
    · repeat apply Text.toList_unlines_cons rfl
      exact rfl
    · decide
    · decide +kernel
    · decide +kernel
  have hlines : (pairRecord [("x", "u8, y: u8")] none).IsOneLine :=
    ⟨by decide, by simp [pairRecord]⟩
  have hlines' : (pairRecord [("x", "u8"), ("y", "u8")] (some "Pair")).IsOneLine :=
    ⟨by decide, by simp [pairRecord]⟩
  refine ⟨_, _, hparse, hparse', fun heq => ?_⟩
  have hcomponents := ((Manifest.builderText_eq_iff hparse hparse' (by decide) (by decide) hlines
    hlines' _).2.mp heq).2.2.1
  exact absurd hcomponents (by decide)

/-- What a function returns need not be declared if it is the record. -/
example : (pairRecord [("x", "u8")] none).constructor.settled "Pair" =
    (pairRecord [("x", "u8")] (some "Pair")).constructor.settled "Pair" := rfl

end BuilderGen
