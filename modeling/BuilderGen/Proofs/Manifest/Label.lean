import BuilderGen.Manifest.Load
import BuilderGen.Proofs.Manifest.Grammar
import BuilderGen.Proofs.Text.Occurrences

/-!
# BuilderGen.Proofs.Manifest.Label

**What the labels of a violation mark.** A place is looked for in several *forms*, one after
another, each with its own characters around what is looked for (`Form`, `nameSpan?_eq`,
`valueSpan?_eq`). Whatever form it is found in, a span covers just the name or the package that
the violation is about (`Violation.labels_cover_subject`), because both are part of the pattern.

The two labels of a component that is declared twice are looked for independently, and may be
found in different forms. Places of a name in different forms do not overlap
(`Form.apart_of_mem_spans`), so the labels are in order unless the name *strays*, and in the
wrong order if it does (`Manifest.duplicate_labels_in_order_iff`).
-/

namespace BuilderGen

open Text (byteCount occurrences isIdentifier isIdentifier_iff isIdentifierRest)

/-! ### Spans -/

/-- A span covers a part of a text: it lies within it, starts and ends where characters do, and
its bytes are those of the part. -/
structure Span.Covers (span : Span) (text part : String) : Prop where
  within : span.offset + span.length ≤ text.utf8ByteSize
  start : String.Pos.Raw.IsValid text ⟨span.offset⟩
  stop : String.Pos.Raw.IsValid text ⟨span.offset + span.length⟩
  bytes : text.toUTF8.extract span.offset (span.offset + span.length) = part.toUTF8

theorem textBytes_eq (text : String) : textBytes text = text.utf8ByteSize :=
  Text.byteCount_toList text

/-- A part of a text is covered by the span behind all that stands before it. -/
theorem Span.covers_append (before part after : String) :
    Span.Covers { offset := textBytes before, length := textBytes part }
      (before ++ part ++ after) part := by
  simp only [textBytes_eq]
  refine ⟨?_, ?_, ?_, ?_⟩
  · simp only [String.utf8ByteSize_append]
    omega
  · exact String.Pos.Raw.isValid_iff_exists_append.mpr
      ⟨before, part ++ after, String.append_assoc, rfl⟩
  · exact String.Pos.Raw.isValid_iff_exists_append.mpr
      ⟨before ++ part, after, rfl, by simp [String.Pos.Raw.ext_iff]⟩
  · have hbefore := ByteArray.extract_append_size_add' (a := before.toByteArray)
      (b := part.toByteArray ++ after.toByteArray) (i := 0) (j := part.utf8ByteSize)
      String.size_toByteArray.symm
    rw [Nat.add_zero, ByteArray.extract_append_eq_left String.size_toByteArray.symm] at hbefore
    simpa [String.append_assoc] using hbefore

/-! ### Forms -/

/-- A form in which a part is looked for: behind a lead, and between two characters. -/
structure Form where
  lead : String
  opening : Char
  closing : Char
  deriving DecidableEq, Repr

namespace Form

/-- What stands before the part. -/
def front (f : Form) : String := f.lead ++ String.singleton f.opening

/-- What is looked for. -/
def pattern (f : Form) (part : String) : String := f.front ++ part ++ String.singleton f.closing

/-- The places of a part in a form, in order. -/
def spans (f : Form) (text part : String) : List Span :=
  (occurrences (f.pattern part) text).map fun offset =>
    { offset := offset + textBytes f.front, length := textBytes part }

/-- The forms of a name in a header. -/
def ofHeader : List Form := [⟨"", '.', ']'⟩, ⟨"", '.', '.'⟩]

/-- The forms of the value of a key. -/
def ofValue (key : String) : List Form := [⟨key ++ " = ", '"', '"'⟩, ⟨key ++ " = ", '\'', '\''⟩]

/-- The forms of a name. -/
def ofName : List Form := ofHeader ++ ofValue "name"

end Form

/-- The places of a part, form by form. -/
def spansIn (forms : List Form) (text part : String) : List (List Span) :=
  forms.map (·.spans text part)

theorem spansIn_append (forms others : List Form) (text part : String) :
    spansIn (forms ++ others) text part = spansIn forms text part ++ spansIn others text part :=
  List.map_append

/-- Looking for patterns one after another is looking for the places in each form. -/
theorem occurrence?_map_pattern {forms : List Form} {shift : Nat}
    (hshift : ∀ f ∈ forms, textBytes f.front = shift) (text part : String) (nth : Nat) :
    ((occurrence? text nth (forms.map (·.pattern part))).map fun offset =>
      ({ offset := offset + shift, length := textBytes part } : Span)) =
        (spansIn forms text part).findSome? (·[nth]?) := by
  induction forms with
  | nil => rfl
  | cons f forms ih =>
      obtain ⟨hf, hforms⟩ := List.forall_mem_cons.mp hshift
      have hrest := ih hforms
      simp only [occurrence?, spansIn, List.map_cons, List.findSome?_cons] at hrest ⊢
      rw [Form.spans, List.getElem?_map, hf]
      cases (occurrences (f.pattern part) text)[nth]? with
      | none => exact hrest
      | some offset => rfl

/-- The place of a value is found in the first form in which it occurs often enough. -/
theorem valueSpan?_eq (text key value : String) (nth : Nat) :
    valueSpan? text key value nth =
      (spansIn (Form.ofValue key) text value).findSome? (·[nth]?) := by
  have hshift : ∀ f ∈ Form.ofValue key, textBytes f.front = textBytes key + 4 := by
    simp only [Form.ofValue, Form.front, textBytes_eq, List.forall_mem_cons,
      String.utf8ByteSize_append]
    exact ⟨rfl, rfl, by simp⟩
  have hpatterns : (Form.ofValue key).map (·.pattern value) =
      [key ++ " = \"" ++ value ++ "\"", key ++ " = '" ++ value ++ "'"] := by
    simp [Form.ofValue, Form.pattern, Form.front, ← String.toList_inj]
  rw [← occurrence?_map_pattern hshift, hpatterns, valueSpan?]
  simp only [Nat.add_assoc]

theorem nameSpan?_eq (text name : String) (nth : Nat) :
    nameSpan? text name nth = (spansIn Form.ofName text name).findSome? (·[nth]?) := by
  have hshift : ∀ f ∈ Form.ofHeader, textBytes f.front = 1 :=
    List.forall_mem_cons.mpr ⟨rfl, List.forall_mem_singleton.mpr rfl⟩
  have hpatterns : Form.ofHeader.map (·.pattern name) =
      ["." ++ name ++ "]", "." ++ name ++ "."] := by
    simp [Form.ofHeader, Form.pattern, Form.front, ← String.toList_inj]
  rw [Form.ofName, spansIn_append, List.findSome?_append, ← occurrence?_map_pattern hshift,
    hpatterns, ← valueSpan?_eq, nameSpan?, Option.orElse_eq_orElse, Option.orElse_eq_or]

/-! ### What is found -/

/-- In its form, a part stands between the characters of the form. -/
theorem Form.exists_of_mem_spans {f : Form} {text part : String} {span : Span}
    (h : span ∈ f.spans text part) :
    ∃ before after, text.toList =
        before ++ f.opening :: (part.toList ++ f.closing :: after) ∧
      span = { offset := byteCount (before ++ [f.opening]), length := textBytes part } := by
  obtain ⟨offset, hoffset, rfl⟩ := List.mem_map.mp h
  obtain ⟨before, after, htext, rfl⟩ := Text.exists_of_mem_occurrences hoffset
  refine ⟨before ++ f.lead.toList, after, ?_, ?_⟩
  · rw [htext]
    simp [Form.pattern, Form.front]
  · simp [Form.front, textBytes]

/-- A part is covered wherever it is found. -/
theorem Form.covers_of_mem_spans {f : Form} {text part : String} {span : Span}
    (h : span ∈ f.spans text part) : span.Covers text part := by
  obtain ⟨before, after, htext, rfl⟩ := f.exists_of_mem_spans h
  have hcovers := Span.covers_append (String.ofList (before ++ [f.opening])) part
    (String.ofList (f.closing :: after))
  have hsplit : String.ofList (before ++ [f.opening]) ++ part ++
      String.ofList (f.closing :: after) = text := by
    rw [← String.toList_inj, htext]
    simp
  rw [hsplit, textBytes, String.toList_ofList] at hcovers
  exact hcovers

theorem covers_of_findSome? {forms : List Form} {text part : String} {nth : Nat} {span : Span}
    (h : (spansIn forms text part).findSome? (·[nth]?) = some span) : span.Covers text part := by
  obtain ⟨spans, hspans, hspan⟩ := List.exists_of_findSome?_eq_some h
  obtain ⟨f, -, rfl⟩ := List.mem_map.mp hspans
  exact f.covers_of_mem_spans (List.mem_of_getElem? hspan)

/-- The name or package that a violation is about. -/
def Violation.subject? : Violation → Option String
  | namelessProject => none
  | typeName name | componentName _ name | constructorName _ name => some name
  | package _ segments => some segments
  | missingType _ component => some component
  | duplicateComponent _ name => some name

/-- **Labels cover what a violation is about.** -/
theorem Violation.labels_cover_subject (text : String) (v : Violation) :
    ∀ label ∈ v.labels text, ∀ span, label.span = some span →
      ∃ name, v.subject? = some name ∧ span.Covers text name := by
  have hname : ∀ {name : String} {nth : Nat} {span : Span},
      nameSpan? text name nth = some span → span.Covers text name := fun hspan =>
    covers_of_findSome? (nameSpan?_eq text _ _ ▸ hspan)
  have hpackage : ∀ {segments : String} {span : Span},
      valueSpan? text "package" segments 0 = some span → span.Covers text segments := fun hspan =>
    covers_of_findSome? (valueSpan?_eq text "package" _ 0 ▸ hspan)
  intro label hlabel span hspan
  cases v with
  | namelessProject =>
      rw [List.mem_singleton.mp hlabel] at hspan
      cases hspan
  | package record segments =>
      rw [List.mem_singleton.mp hlabel] at hspan
      exact ⟨segments, rfl, hpackage hspan⟩
  | typeName name | componentName record name | constructorName record name
  | missingType record name =>
      rw [List.mem_singleton.mp hlabel] at hspan
      exact ⟨name, rfl, hname hspan⟩
  | duplicateComponent record name =>
      refine ⟨name, rfl, ?_⟩
      rcases List.mem_cons.mp hlabel with rfl | hlabel
      · exact hname hspan
      · rw [List.mem_singleton.mp hlabel] at hspan
        exact hname hspan

set_option maxRecDepth 100000 in
/-- A package in single quotes, behind a character of two bytes. -/
theorem package_label_covered :
    ∃ text label span, Manifest.parse text = .error (.violation (.package "P" "a-b")) ∧
      (Violation.package "P" "a-b").labels text = [label] ∧ label.span = some span ∧
      span.offset = 44 ∧ span.Covers text "a-b" := by
  have hparse : Manifest.parse "[project]\nname = \"é\"\n\n[types.P]\npackage = 'a-b'\n" =
      .error (.violation (.package "P" "a-b")) := by rfl
  have hlabels : (Violation.package "P" "a-b").labels
      "[project]\nname = \"é\"\n\n[types.P]\npackage = 'a-b'\n" =
      [{ text := Violation.badName, span := some { offset := 44, length := 3 } }] := by
    decide +kernel
  obtain ⟨name, hname, hcovers⟩ := Violation.labels_cover_subject _ (.package "P" "a-b") _
    (by rw [hlabels]; exact List.mem_singleton_self _) { offset := 44, length := 3 } rfl
  cases hname
  exact ⟨_, _, _, hparse, hlabels, rfl, rfl, hcovers⟩

/-! ### Places in different forms -/

/-- A marked part of a text that comes first ends before another one starts: the character
before the other one is in no such part. -/
theorem byteCount_le_of_marked {part front after after' : List Char} {c c' d d' : Char}
    (h : c :: (part ++ d :: after) = front ++ c' :: (part ++ d' :: after')) (hc' : c' ∉ part)
    (hne : (c, d) ≠ (c', d')) : byteCount (c :: part) ≤ byteCount front := by
  cases front with
  | nil =>
      -- the same place, but then it would be marked by the same characters
      obtain ⟨rfl, hrest⟩ := List.cons.inj h
      obtain ⟨rfl, -⟩ := List.cons.inj (List.append_cancel_left hrest)
      exact absurd rfl hne
  | cons x front =>
      obtain ⟨rfl, hrest⟩ := List.cons.inj h
      rcases List.append_eq_append_iff.mp hrest with ⟨between, rfl, -⟩ | ⟨between, rfl, hbetween⟩
      · simp only [Text.byteCount_cons, Text.byteCount_append]
        omega
      · cases between with
        | nil => simp
        | cons y between =>
            obtain ⟨rfl, -⟩ := List.cons.inj hbetween
            exact absurd (by simp) hc'

/-- Places of a name in different forms do not overlap. -/
theorem Form.apart_of_mem_spans {f g : Form} {text name : String} {first second : Span}
    (hfirst : first ∈ f.spans text name) (hsecond : second ∈ g.spans text name)
    (hf : f.opening ∉ name.toList) (hg : g.opening ∉ name.toList)
    (hne : (f.opening, f.closing) ≠ (g.opening, g.closing)) :
    first.offset + first.length ≤ second.offset ∨ second.offset + second.length ≤ first.offset := by
  obtain ⟨before, after, htext, rfl⟩ := f.exists_of_mem_spans hfirst
  obtain ⟨before', after', htext', rfl⟩ := g.exists_of_mem_spans hsecond
  rw [htext] at htext'
  simp only [textBytes, Text.byteCount_append, Text.byteCount_cons, Text.byteCount_nil]
  rcases List.append_eq_append_iff.mp htext' with ⟨between, rfl, h⟩ | ⟨between, rfl, h⟩
  · have hle := byteCount_le_of_marked h hg hne
    simp only [Text.byteCount_cons, Text.byteCount_append] at hle ⊢
    omega
  · have hle := byteCount_le_of_marked h hf hne.symm
    simp only [Text.byteCount_cons, Text.byteCount_append] at hle ⊢
    omega

/-- Places of a part in one form come in order. -/
theorem Form.le_of_spans {f : Form} {text part : String} {first second : Span}
    (hfirst : (f.spans text part)[0]? = some first)
    (hsecond : (f.spans text part)[1]? = some second) :
    first.offset + first.length ≤ second.offset := by
  rw [Form.spans, List.getElem?_map, Option.map_eq_some_iff] at hfirst hsecond
  obtain ⟨offset, hoffset, rfl⟩ := hfirst
  obtain ⟨offset', hoffset', rfl⟩ := hsecond
  obtain ⟨hlt, rfl⟩ := List.getElem?_eq_some_iff.mp hoffset
  obtain ⟨hlt', rfl⟩ := List.getElem?_eq_some_iff.mp hoffset'
  have hle := List.pairwise_iff_getElem.mp (Text.pairwise_occurrences (f.pattern part) text)
    0 1 hlt hlt' Nat.zero_lt_one
  have hlength : byteCount (f.pattern part).toList =
      textBytes f.front + textBytes part + byteCount [f.closing] := by
    simp [Form.pattern, textBytes, Nat.add_assoc]
  simp only
  omega

/-! ### Two places of a name -/

/-- A name strays in a text: in the first form in which it stands at all it stands just once, and
there behind the second place of the first form in which it stands more than once. -/
def Strays (text name : String) : Prop :=
  ∃ before only between spans after other,
    spansIn Form.ofName text name = before ++ [only] :: (between ++ spans :: after) ∧
    (∀ s ∈ before, s = []) ∧ (∀ s ∈ between, s.length ≤ 1) ∧ spans[1]? = some other ∧
    other.offset < only.offset

/-- Where a name strays, its second place is found before its first one. -/
theorem Strays.lt {text name : String} (h : Strays text name) {first second : Span}
    (hfirst : nameSpan? text name 0 = some first) (hsecond : nameSpan? text name 1 = some second) :
    second.offset < first.offset := by
  obtain ⟨before, only, between, spans, after, other, hforms, hbefore, hbetween, hother, hlt⟩ := h
  have honly : nameSpan? text name 0 = some only := by
    rw [nameSpan?_eq]
    refine List.findSome?_eq_some_iff.mpr ⟨before, [only], _, hforms, rfl, fun s hs => ?_⟩
    rw [hbefore s hs, List.getElem?_nil]
  have hnext : nameSpan? text name 1 = some other := by
    rw [nameSpan?_eq]
    refine List.findSome?_eq_some_iff.mpr
      ⟨before ++ [only] :: between, spans, after, by simp [hforms], hother, fun s hs => ?_⟩
    rw [List.getElem?_eq_none_iff]
    rcases List.mem_append.mp hs with hs | hs
    · simp [hbefore s hs]
    · rcases List.mem_cons.mp hs with rfl | hs
      · exact Nat.le_refl 1
      · exact hbetween s hs
  cases hfirst.symm.trans honly
  cases hsecond.symm.trans hnext
  exact hlt

/-- The first two places of a name are in one form, or the first one is the only place in its
form. -/
theorem nameSpan?_cases {text name : String} {first second : Span}
    (hfirst : nameSpan? text name 0 = some first) (hsecond : nameSpan? text name 1 = some second) :
    (∃ f : Form, (f.spans text name)[0]? = some first ∧ (f.spans text name)[1]? = some second) ∨
    ∃ before between spans after,
      spansIn Form.ofName text name = before ++ [first] :: (between ++ spans :: after) ∧
      (∀ s ∈ before, s = []) ∧ (∀ s ∈ between, s.length ≤ 1) ∧ spans[1]? = some second := by
  rw [nameSpan?_eq] at hfirst hsecond
  obtain ⟨before, firsts, rest, hforms, hfirsts, hbefore⟩ := List.findSome?_eq_some_iff.mp hfirst
  obtain ⟨before', seconds, after, hforms', hseconds, hbefore'⟩ :=
    List.findSome?_eq_some_iff.mp hsecond
  have hbefore : ∀ s ∈ before, s = [] := fun s hs => by
    simpa [List.getElem?_eq_none_iff] using hbefore s hs
  have hbefore' : ∀ s ∈ before', s.length ≤ 1 := fun s hs =>
    List.getElem?_eq_none_iff.mp (hbefore' s hs)
  rcases List.append_eq_append_iff.mp (hforms.symm.trans hforms') with
    ⟨between, rfl, hrest⟩ | ⟨between, rfl, hrest⟩
  · cases between with
    | nil =>
        obtain ⟨rfl, -⟩ := List.cons.inj hrest
        have hmem : firsts ∈ spansIn Form.ofName text name := by simp [hforms]
        obtain ⟨f, -, rfl⟩ := List.mem_map.mp hmem
        exact Or.inl ⟨f, hfirsts, hseconds⟩
    | cons s between =>
        obtain ⟨rfl, rfl⟩ := List.cons.inj hrest
        -- what is looked through for the second place holds the first one, and no other
        have hone : firsts = [first] := by
          have hlength := hbefore' firsts (by simp)
          match firsts, hfirsts, hlength with
          | [_], rfl, _ => rfl
        subst hone
        exact Or.inr ⟨before, between, seconds, after, hforms, hbefore,
          fun s hs => hbefore' s (by simp [hs]), hseconds⟩
  · cases between with
    | nil =>
        obtain ⟨rfl, -⟩ := List.cons.inj hrest
        have hmem : seconds ∈ spansIn Form.ofName text name := by simp [hforms]
        obtain ⟨f, -, rfl⟩ := List.mem_map.mp hmem
        exact Or.inl ⟨f, hfirsts, hseconds⟩
    | cons s between =>
        obtain ⟨rfl, -⟩ := List.cons.inj hrest
        have hnil := hbefore seconds (by simp)
        rw [hnil] at hseconds
        cases hseconds

/-- No two forms mark a name with the same characters. -/
theorem Form.pairwise_ofName :
    Form.ofName.Pairwise fun f g => (f.opening, f.closing) ≠ (g.opening, g.closing) := by
  decide

/-- No form opens a name with a character of it. -/
theorem Form.opening_notMem {f : Form} (hf : f ∈ Form.ofName) {name : String}
    (hname : isIdentifier name = true) : f.opening ∉ name.toList := by
  have hopening : ∀ f ∈ Form.ofName, isIdentifierRest f.opening = false := by decide
  exact Text.not_mem_of_isIdentifier hname (hopening f hf)

/-- The second place of a name is found behind the first one unless the name strays, and before
it if it does. -/
theorem nameSpan?_order {text name : String} (hname : isIdentifier name = true)
    {first second : Span} (hfirst : nameSpan? text name 0 = some first)
    (hsecond : nameSpan? text name 1 = some second) :
    first.offset + first.length ≤ second.offset ∧ ¬ Strays text name ∨
    second.offset + second.length ≤ first.offset ∧ Strays text name := by
  have hinOrder : first.offset + first.length ≤ second.offset →
      first.offset + first.length ≤ second.offset ∧ ¬ Strays text name := fun hle =>
    ⟨hle, fun hstrays => by have := hstrays.lt hfirst hsecond; omega⟩
  rcases nameSpan?_cases hfirst hsecond with ⟨f, h0, h1⟩ |
    ⟨before, between, spans, after, hforms, hbefore, hbetween, hspans⟩
  · exact Or.inl (hinOrder (f.le_of_spans h0 h1))
  · obtain ⟨fs, gs, hsplit, -, hgs⟩ := List.map_eq_append_iff.mp hforms
    obtain ⟨f, gs, rfl, hf, hgs⟩ := List.map_eq_cons_iff.mp hgs
    obtain ⟨hs, gs, rfl, -, hgs⟩ := List.map_eq_append_iff.mp hgs
    obtain ⟨g, gs, rfl, hg, -⟩ := List.map_eq_cons_iff.mp hgs
    have hne : (f.opening, f.closing) ≠ (g.opening, g.closing) := by
      have hpairwise := hsplit ▸ Form.pairwise_ofName
      exact (List.pairwise_cons.mp (List.pairwise_append.mp hpairwise).2.1).1 g (by simp)
    have hfirstMem : first ∈ f.spans text name := by simp [hf]
    have hsecondMem : second ∈ g.spans text name := hg ▸ List.mem_of_getElem? hspans
    have hapart := Form.apart_of_mem_spans hfirstMem hsecondMem
      (Form.opening_notMem (by simp [hsplit]) hname)
      (Form.opening_notMem (by simp [hsplit]) hname) hne
    refine hapart.imp hinOrder fun hle => ⟨hle, ?_⟩
    have hlength : 0 < second.length := by
      obtain ⟨_, _, -, rfl⟩ := g.exists_of_mem_spans hsecondMem
      rw [textBytes_eq, Nat.pos_iff_ne_zero, ne_eq, String.utf8ByteSize_eq_zero_iff]
      exact Text.ne_empty_of_isIdentifier hname
    exact ⟨before, first, between, spans, after, second, hforms, hbefore, hbetween, hspans,
      by omega⟩

/-- A component that is declared twice is named by an identifier: its name is looked at first. -/
theorem Manifest.isIdentifier_of_duplicate {m : Manifest} {record name : String}
    (h : m.violation? = some (.duplicateComponent record name)) : isIdentifier name = true := by
  have hfirst := m.first_violation?
  rw [h] at hfirst
  obtain ⟨place, hbreach, hplace⟩ := hfirst
  cases hbreach with
  | type htype hbreach =>
      cases hbreach with
      | component hcomponent hbreach =>
          cases hbreach with
          | repetition =>
              refine isIdentifier_iff.mpr (by_contra fun hname => ?_)
              have hle := hplace _ _ (.type htype (.component hcomponent (.name hname)))
              simp at hle

/-- **The labels of a component that is declared twice are in order, unless its name strays.** -/
theorem Manifest.duplicate_labels_in_order_iff {text record name : String} {first second : Span}
    (hparse : Manifest.parse text = .error (.violation (.duplicateComponent record name)))
    (hlabels : (Violation.duplicateComponent record name).labels text =
      [⟨"first declared here", some first⟩, ⟨"declared again here", some second⟩]) :
    (first.offset + first.length ≤ second.offset ↔ ¬ Strays text name) ∧
    (Strays text name → second.offset + second.length ≤ first.offset) := by
  have hname : isIdentifier name = true := by
    rw [Manifest.parse] at hparse
    split at hparse
    next => cases hparse
    next m _ =>
      split at hparse
      next v hv =>
        cases hparse
        exact isIdentifier_of_duplicate hv
      next => cases hparse
  simp only [Violation.labels, List.cons.injEq, Label.mk.injEq, true_and, and_true] at hlabels
  obtain ⟨hfirst, hsecond⟩ := hlabels
  rcases nameSpan?_order hname hfirst hsecond with ⟨hle, hstrays⟩ | ⟨hle, hstrays⟩
  · exact ⟨iff_of_true hle hstrays, fun h => absurd h hstrays⟩
  · have hlt := hstrays.lt hfirst hsecond
    exact ⟨iff_of_false (by omega) (fun h => h hstrays), fun _ => hle⟩

/-- A type that is declared later is named like the component. -/
def strayText : String :=
  "[project]\nname = \"p\"\n\n[types.P]\ncomponents = [" ++
    "\x7b name = \"x\", type = \"int\" \x7d, \x7b name = \"x\", type = \"int\" \x7d]\n" ++
    "\n[types.x]\n"

set_option maxRecDepth 100000 in
/-- The first label is at the header, and the second one at the second component. -/
theorem stray_labels :
    Manifest.parse strayText = .error (.violation (.duplicateComponent "P" "x")) ∧
    (Violation.duplicateComponent "P" "x").labels strayText =
      [⟨"first declared here", some ⟨114, 1⟩⟩, ⟨"declared again here", some ⟨86, 1⟩⟩] ∧
    Strays strayText "x" := by
  have hparse : Manifest.parse strayText = .error (.violation (.duplicateComponent "P" "x")) := by
    rfl
  have hlabels : (Violation.duplicateComponent "P" "x").labels strayText =
      [⟨"first declared here", some ⟨114, 1⟩⟩, ⟨"declared again here", some ⟨86, 1⟩⟩] := by
    decide +kernel
  have horder := (Manifest.duplicate_labels_in_order_iff hparse hlabels).1
  refine ⟨hparse, hlabels, by_contra fun hstrays => ?_⟩
  exact absurd (horder.mpr hstrays) (by decide)

end BuilderGen
