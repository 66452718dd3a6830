import BuilderGen.Proofs.Emit.Reading

/-!
# BuilderGen.Proofs.Emit.Names

**Names of a language** (`Language.IsName`): what can be written where a name is expected.
The names that builders are made of are such names (`Language.isName_setterName`,
`Language.isName_builderName`; fields are in the module on reading lines). Setters and
builders owe that to a word of their own, which no reserved word starts or ends with.
-/

namespace BuilderGen

open Text (IsIdentifier isIdentifier isIdentifier_iff isIdentifierRest)

/-! ### Names of a language -/

namespace Language

/-- What can be written as a name: an identifier that is not reserved or, where the language
has raw names, a reserved word behind the mark of one. -/
def IsName (language : Language) (text : String) : Prop :=
  (IsIdentifier text ∧ text ∉ language.reservedWords ∧
      (language = .rust → text ∉ neverRawWords)) ∨
    language = .rust ∧ ∃ word, text = "r#" ++ word ∧ word ∈ language.reservedWords ∧
      word ∉ neverRawWords

theorem isIdentifier_of_reserved (language : Language) :
    ∀ word ∈ language.reservedWords, isIdentifier word = true := by
  cases language <;> decide +kernel

theorem isFree_iff {language : Language} {word : String} :
    language.isFree word = true ↔
      word ∉ language.reservedWords ∧ (language = .rust → word ∉ neverRawWords) := by
  rw [isFree, Bool.and_eq_true, Bool.not_eq_true', Bool.not_eq_true', ← Bool.not_eq_true,
    isReserved_iff, ← Bool.not_eq_true, Bool.and_eq_true, List.contains_iff_mem, beq_iff_eq,
    not_and]

/-- The test for names decides what a name is. -/
theorem isName_iff {language : Language} {text : String} :
    language.isName text = true ↔ language.IsName text := by
  cases language with
  | java => simp [isName, IsName, isIdentifier_iff, isFree_iff]
  | rust =>
      unfold isName IsName
      cases hraw : Text.inside? "r#" "" text with
      | none =>
          have hnot : ∀ word, text ≠ "r#" ++ word := by
            intro word heq
            rw [Option.eq_none_iff_forall_ne_some] at hraw
            exact hraw word (Text.inside?_eq_some_iff.mpr (by rw [heq, String.append_empty]))
          simp [isIdentifier_iff, isFree_iff, hnot]
      | some word =>
          rw [Text.inside?_eq_some_iff, String.append_empty] at hraw
          subst hraw
          have hnot : ¬ IsIdentifier ("r#" ++ word) := fun h =>
            Text.not_mem_of_isIdentifier (isIdentifier_iff.mpr h) (c := '#') (by decide) (by simp)
          have hreserved : word ∈ Language.rust.reservedWords → isIdentifier word = true :=
            isIdentifier_of_reserved .rust word
          simp only [hnot, false_and, false_or, true_and, String.append_right_inj, exists_eq_left',
            Bool.and_eq_true, isReserved_iff, Bool.not_eq_true', ← Bool.not_eq_true,
            List.contains_iff_mem]
          exact ⟨fun h => ⟨h.1.2, h.2⟩, fun h => ⟨⟨hreserved h.1, h.1⟩, h.2⟩⟩

/-- An identifier is a name as long as it is not reserved. -/
theorem isName_iff_of_isIdentifier {name : String} (h : isIdentifier name = true) :
    Language.rust.IsName name ↔ name ∉ Language.rust.reservedWords ∧ name ∉ neverRawWords := by
  refine ⟨fun hname => ?_, fun hfree => Or.inl ⟨isIdentifier_iff.mp h, hfree.1, fun _ => hfree.2⟩⟩
  rcases hname with ⟨-, hfree, hraw⟩ | ⟨-, word, hword, -⟩
  · exact ⟨hfree, hraw rfl⟩
  · -- an identifier is not written raw
    have hnone := inside?_raw_of_isIdentifier h
    rw [hword, Text.inside?_eq_some_iff.mpr String.append_empty.symm] at hnone
    cases hnone

/-- No reserved word starts with the word of setters. -/
theorem isFree_of_with {language : Language} {name : String}
    (h : "with".toList <+: name.toList) : language.isFree name = true := by
  have hwords : ∀ word ∈ language.reservedWords ++ neverRawWords,
      ¬ "with".toList <+: word.toList := by
    cases language <;> decide +kernel
  have hnot : name ∉ language.reservedWords ++ neverRawWords := fun hmem => hwords name hmem h
  rw [List.mem_append, not_or] at hnot
  exact isFree_iff.mpr ⟨hnot.1, fun _ => hnot.2⟩

/-- No reserved word ends with the word of builders. -/
theorem isFree_of_builder {language : Language} {name : String}
    (h : "Builder".toList <:+ name.toList) : language.isFree name = true := by
  have hwords : ∀ word ∈ language.reservedWords ++ neverRawWords,
      ¬ "Builder".toList <:+ word.toList := by
    cases language <;> decide +kernel
  have hnot : name ∉ language.reservedWords ++ neverRawWords := fun hmem => hwords name hmem h
  rw [List.mem_append, not_or] at hnot
  exact isFree_iff.mpr ⟨hnot.1, fun _ => hnot.2⟩

end Language

namespace Text

/-- An identifier goes on with any of the characters that may follow in one. -/
theorem isIdentifier_append {name rest : String} (h : isIdentifier name = true)
    (hrest : ∀ c ∈ rest.toList, isIdentifierRest c = true) : isIdentifier (name ++ rest) = true := by
  unfold isIdentifier at h ⊢
  rw [String.toList_append]
  cases hname : name.toList with
  | nil => simp [hname] at h
  | cons c cs =>
      rw [hname, isIdentifierChars_cons, Bool.and_eq_true] at h
      rw [List.cons_append, isIdentifierChars_cons, Bool.and_eq_true, List.all_append,
        Bool.and_eq_true, List.all_eq_true (l := rest.toList)]
      exact ⟨h.1, h.2, hrest⟩

/-- Upper case keeps the characters of identifiers. -/
theorem isIdentifierRest_toUpper {c : Char} (hc : isIdentifierRest c = true) :
    isIdentifierRest c.toUpper = true := by
  refine of_isIdentifierRest (p := fun c => isIdentifierRest c.toUpper = true) ?_ hc
  decide +kernel

/-- Of an identifier, only the first character changes when it is capitalised. -/
theorem exists_capitalizeChars {name : String} (h : isIdentifier name = true) :
    ∃ c cs, name.toList = c :: cs ∧ isIdentifierRest c = true ∧
      (∀ d ∈ cs, isIdentifierRest d = true) ∧
      capitalizeChars name.toList = c.toUpper :: cs := by
  have hall := fun c => isIdentifierRest_of_mem h (c := c)
  cases hname : name.toList with
  | nil => exact absurd (String.toList_eq_nil_iff.mp hname) (ne_empty_of_isIdentifier h)
  | cons c cs =>
      rw [hname, List.forall_mem_cons] at hall
      have hn := toNat_of_isIdentifierRest hall.1
      exact ⟨c, cs, rfl, hall.1, hall.2, by
        rw [capitalizeChars_cons, upperChar_of_ascii (by omega), List.singleton_append]⟩

end Text

namespace Language

theorem isName_setterName {language : Language} {component : String}
    (h : isIdentifier component = true) : language.isName (language.setterName component) = true := by
  cases language with
  | java =>
      obtain ⟨c, cs, -, hc, hcs, hcapital⟩ := Text.exists_capitalizeChars h
      refine isName_of_isFree (Text.isIdentifier_append (by decide) ?_) (isFree_of_with ?_)
      · rw [Text.toList_capitalize, hcapital]
        exact List.forall_mem_cons.mpr ⟨Text.isIdentifierRest_toUpper hc, hcs⟩
      · exact ⟨_, (String.toList_append ..).symm⟩
  | rust =>
      refine isName_of_isFree (Text.isIdentifier_append (by decide)
        fun c hc => Text.isIdentifierRest_of_mem h hc) (isFree_of_with ⟨'_' :: component.toList, ?_⟩)
      rw [setterName, String.toList_append]
      rfl

theorem isName_builderName {language : Language} {r : Record} (h : isIdentifier r.name = true) :
    language.isName r.builderName = true :=
  isName_of_isFree (Text.isIdentifier_append h (List.all_eq_true.mp rfl))
    (isFree_of_builder ⟨r.name.toList, (String.toList_append ..).symm⟩)

end Language
end BuilderGen
