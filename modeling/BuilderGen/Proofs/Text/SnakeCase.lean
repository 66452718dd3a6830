import BuilderGen.Proofs.Text.Identifier
import BuilderGen.Text.Casing
import Mathlib.Data.List.Induction

/-!
# BuilderGen.Proofs.Text.SnakeCase

**Snake case of identifiers.** The conversion writes every character of a name in lower
case and in its place, and adds nothing but underscores: one before each capital that is
neither the first character nor behind an underscore already (`Respells`).

Words are cut with a flag for what was written last. It comes to the same to look at the
text written so far (`snakeWords_concat`), and on that text one more character is one step
(`Respells.concat`), so a whole name is respelled by induction from its end
(`exists_respells`).
-/

namespace BuilderGen.Text

/-! ### Letters in lower case -/

/-- A capital letter of ASCII. -/
def IsCapital (c : Char) : Prop := 'A' ≤ c ∧ c ≤ 'Z'

instance (c : Char) : Decidable (IsCapital c) := inferInstanceAs (Decidable (_ ∧ _))

theorem isUpper_iff {c : Char} (hc : isIdentifierRest c = true) :
    isUpper c = true ↔ IsCapital c := by
  have hn := toNat_of_isIdentifierRest hc
  rw [isUpper_of_ascii (by omega)]
  exact decide_eq_true_iff

theorem lowerChar_of_identifier {c : Char} (hc : isIdentifierRest c = true) :
    lowerChar c = [c.toLower] :=
  lowerChar_of_ascii (by have hn := toNat_of_isIdentifierRest hc; omega)

theorem toLower_of_not_isCapital {c : Char} (h : ¬ IsCapital c) : c.toLower = c :=
  dif_neg h

/-- Lower case keeps the characters of identifiers. -/
theorem isIdentifierRest_toLower {c : Char} (hc : isIdentifierRest c = true) :
    isIdentifierRest c.toLower = true := by
  refine of_isIdentifierRest (p := fun c => isIdentifierRest c.toLower = true) ?_ hc
  decide +kernel

theorem isIdentifierStart_toLower {c : Char} (hc : isIdentifierStart c = true) :
    isIdentifierStart c.toLower = true := by
  refine of_isIdentifierRest (p := fun c => isIdentifierStart c = true →
    isIdentifierStart c.toLower = true) ?_ (isIdentifierRest_of_start hc) hc
  decide +kernel

theorem not_isCapital_toLower {c : Char} (hc : isIdentifierRest c = true) :
    ¬ IsCapital c.toLower := by
  refine of_isIdentifierRest (p := fun c => ¬ IsCapital c.toLower) ?_ hc
  decide +kernel

theorem toLower_eq_underscore_iff {c : Char} (hc : isIdentifierRest c = true) :
    c.toLower = '_' ↔ c = '_' := by
  refine of_isIdentifierRest (p := fun c => c.toLower = '_' ↔ c = '_') ?_ hc
  decide +kernel

/-! ### The text written so far -/

/-- Whether a capital goes on after `written` as it is: nothing is written yet, or an
underscore was written last. -/
def isJoined (written : List Char) : Bool := written.getLast?.all (· == '_')

/-- What goes between `written` and the character `c`. -/
def gap (written : List Char) (c : Char) : List Char :=
  if IsCapital c ∧ isJoined written = false then ['_'] else []

/-- The text with one more character of the name. -/
def writeSnake (written : List Char) (c : Char) : List Char :=
  written ++ gap written c ++ [c.toLower]

theorem isJoined_eq_false_iff {written : List Char} :
    isJoined written = false ↔ ∃ d, written.getLast? = some d ∧ d ≠ '_' := by
  cases h : written.getLast? <;> simp [isJoined, h]

theorem gap_cases (written : List Char) (c : Char) :
    gap written c = ['_'] ∧ IsCapital c ∧ isJoined written = false ∨
      gap written c = [] ∧ (IsCapital c → isJoined written = true) := by
  by_cases h : IsCapital c ∧ isJoined written = false
  · exact Or.inl ⟨if_pos h, h⟩
  · refine Or.inr ⟨if_neg h, fun hc => ?_⟩
    rw [← Bool.not_eq_false]
    exact fun hjoined => h ⟨hc, hjoined⟩

/-- Where the character `c` is written. -/
def nextPlace (written : List Char) (c : Char) : Nat := written.length + (gap written c).length

theorem length_writeSnake (written : List Char) (c : Char) :
    (writeSnake written c).length = nextPlace written c + 1 := by
  rw [writeSnake, List.length_append, List.length_append, List.length_singleton, nextPlace]

theorem getElem?_writeSnake_of_lt {written : List Char} {c : Char} {j : Nat}
    (hj : j < written.length) : (writeSnake written c)[j]? = written[j]? := by
  rw [writeSnake, List.append_assoc, List.getElem?_append_left hj]

theorem getElem?_writeSnake_next (written : List Char) (c : Char) :
    (writeSnake written c)[nextPlace written c]? = some c.toLower := by
  simp [writeSnake, nextPlace]

/-- A capital that is not written first stands behind an underscore. -/
theorem getElem?_writeSnake_before {written : List Char} {c : Char} {j : Nat}
    (hc : IsCapital c) (hj : nextPlace written c = j + 1) :
    (writeSnake written c)[j]? = some '_' := by
  rcases gap_cases written c with ⟨hgap, -, -⟩ | ⟨hgap, hjoined⟩
  · have hlength : j = written.length := by simpa [nextPlace, hgap] using hj.symm
    simp [writeSnake, hgap, hlength]
  · -- without a gap, the place is the last one of the text, where an underscore stands already
    have hlength : written.length = j + 1 := by simpa [nextPlace, hgap] using hj
    rw [getElem?_writeSnake_of_lt (by omega)]
    have hlast := hjoined hc
    rw [isJoined, List.getLast?_eq_getElem?, hlength, Nat.add_sub_cancel,
      List.getElem?_eq_getElem (by omega), Option.all_some, beq_iff_eq] at hlast
    rw [List.getElem?_eq_getElem (by omega), hlast]

/-- What is written besides the text so far and the character is a gap before a capital. -/
theorem lt_writeSnake_cases {written : List Char} {c : Char} {j : Nat}
    (hj : j < (writeSnake written c).length) (hnext : nextPlace written c ≠ j) :
    j < written.length ∨ j = written.length ∧ nextPlace written c = j + 1 ∧ IsCapital c ∧
      isJoined written = false := by
  rw [length_writeSnake] at hj
  rcases gap_cases written c with ⟨hgap, hc, hjoined⟩ | ⟨hgap, -⟩
  · have hplace : nextPlace written c = written.length + 1 := by simp [nextPlace, hgap]
    by_cases hlt : j < written.length
    · exact Or.inl hlt
    · exact Or.inr ⟨by omega, by omega, hc, hjoined⟩
  · have hplace : nextPlace written c = written.length := by simp [nextPlace, hgap]
    exact Or.inl (by omega)

/-- The flag of the words says what the text written so far ends with. -/
theorem foldl_writeSnake {cs : List Char} (h : ∀ c ∈ cs, isIdentifierRest c = true)
    (written : List Char) :
    cs.foldl writeSnake written = written ++ snakeWords (isJoined written) cs := by
  induction cs generalizing written with
  | nil => simp
  | cons c cs ih =>
      obtain ⟨hc, hcs⟩ := List.forall_mem_cons.mp h
      have hjoined : isJoined (writeSnake written c) = (c.toLower == '_') := by
        simp [isJoined, writeSnake]
      have hgap : gap written c = if (isUpper c && !isJoined written) = true then ['_'] else [] := by
        simp [gap, isUpper_iff hc]
      rw [List.foldl_cons, ih hcs, hjoined, snakeWords, lowerChar_of_identifier hc, ← hgap]
      simp [writeSnake]

/-- The words of a name with one more character at its end. -/
theorem snakeWords_concat {cs : List Char} {c : Char}
    (h : ∀ d ∈ cs ++ [c], isIdentifierRest d = true) :
    snakeWords true (cs ++ [c]) = writeSnake (snakeWords true cs) c := by
  have hcs : ∀ d ∈ cs, isIdentifierRest d = true := fun d hd => h d (List.mem_append_left _ hd)
  calc snakeWords true (cs ++ [c])
      = (cs ++ [c]).foldl writeSnake [] := (foldl_writeSnake h []).symm
    _ = writeSnake (cs.foldl writeSnake []) c := List.foldl_append
    _ = writeSnake (snakeWords true cs) c := congrArg (writeSnake · c) (foldl_writeSnake hcs [])

/-! ### A name and its snake case, place by place -/

/-- Directly behind the place `j` stands a capital of the name that is not its first
character. The character `i` of the name stands at `place i`. -/
def BeforeCapital (name : List Char) (place : Nat → Nat) (j : Nat) : Prop :=
  ∃ i c, 0 < i ∧ name[i]? = some c ∧ IsCapital c ∧ place i = j + 1

/-- No character of the name stands at the place `j`. -/
def IsAdded (name : List Char) (place : Nat → Nat) (j : Nat) : Prop :=
  ∀ i < name.length, place i ≠ j

/-- `snake` is `name` in lower case, in the same order, with underscores added before
capitals and nowhere else. -/
structure Respells (name snake : List Char) (place : Nat → Nat) : Prop where
  increasing : ∀ i j, i < j → j < name.length → place i < place j
  written : ∀ i c, name[i]? = some c → snake[place i]? = some c.toLower
  underscore : ∀ j, BeforeCapital name place j → snake[j]? = some '_'
  added : ∀ j < snake.length, IsAdded name place j → BeforeCapital name place j
  /-- No underscore is added beside another one. -/
  apart : ∀ j < snake.length, IsAdded name place j →
    snake[j + 1]? ≠ some '_' ∧ ∀ k, k + 1 = j → snake[k]? ≠ some '_'

theorem getElem?_concat_eq_some_iff {α : Type} {l : List α} {a b : α} {i : Nat} :
    (l ++ [a])[i]? = some b ↔ l[i]? = some b ∨ i = l.length ∧ a = b := by
  rcases Nat.lt_or_ge i l.length with hi | hi
  · rw [List.getElem?_append_left hi]
    exact ⟨Or.inl, fun h => h.resolve_right fun h => absurd h.1 (Nat.ne_of_lt hi)⟩
  · rw [List.getElem?_append_right hi, List.getElem?_singleton, List.getElem?_eq_none hi]
    split <;> simp <;> omega

section

variable {name : List Char} {place : Nat → Nat} {c : Char} {last : Nat}

/-- The character that is written at the end stands at the place `last`. -/
theorem beforeCapital_concat {j : Nat} :
    BeforeCapital (name ++ [c]) (Function.update place name.length last) j ↔
      BeforeCapital name place j ∨ 0 < name.length ∧ IsCapital c ∧ last = j + 1 := by
  constructor
  · rintro ⟨i, d, hi, hd, hcapital, hj⟩
    rcases getElem?_concat_eq_some_iff.mp hd with hd | ⟨rfl, rfl⟩
    · have hlt := (List.getElem?_eq_some_iff.mp hd).1
      rw [Function.update_of_ne (Nat.ne_of_lt hlt)] at hj
      exact Or.inl ⟨i, d, hi, hd, hcapital, hj⟩
    · rw [Function.update_self] at hj
      exact Or.inr ⟨hi, hcapital, hj⟩
  · rintro (⟨i, d, hi, hd, hcapital, hj⟩ | ⟨hi, hcapital, hj⟩)
    · have hlt := (List.getElem?_eq_some_iff.mp hd).1
      refine ⟨i, d, hi, getElem?_concat_eq_some_iff.mpr (Or.inl hd), hcapital, ?_⟩
      rw [Function.update_of_ne (Nat.ne_of_lt hlt), hj]
    · refine ⟨_, c, hi, getElem?_concat_eq_some_iff.mpr (Or.inr ⟨rfl, rfl⟩), hcapital, ?_⟩
      rw [Function.update_self, hj]

theorem isAdded_concat {j : Nat} :
    IsAdded (name ++ [c]) (Function.update place name.length last) j ↔
      IsAdded name place j ∧ last ≠ j := by
  unfold IsAdded
  rw [List.length_append, List.length_singleton, Nat.forall_lt_succ_right, Function.update_self]
  refine and_congr_left' (forall₂_congr fun i hi => ?_)
  rw [Function.update_of_ne (Nat.ne_of_lt hi)]

end

namespace Respells

variable {name snake : List Char} {place : Nat → Nat}

theorem place_lt (h : Respells name snake place) {i : Nat} (hi : i < name.length) :
    place i < snake.length := by
  have hwritten := h.written i name[i] (List.getElem?_eq_getElem hi)
  exact (List.getElem?_eq_some_iff.mp hwritten).1

theorem lt_of_beforeCapital (h : Respells name snake place) {j : Nat}
    (hj : BeforeCapital name place j) : j + 1 < snake.length := by
  obtain ⟨i, c, -, hi, -, hplace⟩ := hj
  rw [← hplace]
  exact h.place_lt (List.getElem?_eq_some_iff.mp hi).1

theorem length_pos (h : Respells name snake place) (hsnake : 0 < snake.length) :
    0 < name.length := by
  by_contra hname
  have hadded : IsAdded name place 0 := fun i hi => absurd hi (by omega)
  obtain ⟨i, c, -, hi, -⟩ := h.added 0 hsnake hadded
  exact hname (Nat.zero_lt_of_lt (List.getElem?_eq_some_iff.mp hi).1)

theorem nil (place : Nat → Nat) : Respells [] [] place := by
  constructor <;> simp [BeforeCapital]

/-- One more character is written at the end, behind its gap. -/
theorem concat (h : Respells name snake place) {c : Char} (hc : isIdentifierRest c = true) :
    Respells (name ++ [c]) (writeSnake snake c)
      (Function.update place name.length (nextPlace snake c)) where
  increasing i j hij hj := by
    rw [List.length_append, List.length_singleton, Nat.lt_succ_iff_lt_or_eq] at hj
    rcases hj with hj | rfl
    · rw [Function.update_of_ne (by omega), Function.update_of_ne (by omega)]
      exact h.increasing i j hij hj
    · rw [Function.update_of_ne (by omega), Function.update_self]
      exact Nat.lt_of_lt_of_le (h.place_lt hij) (Nat.le_add_right ..)
  written i d hd := by
    rcases getElem?_concat_eq_some_iff.mp hd with hd | ⟨rfl, rfl⟩
    · have hlt := (List.getElem?_eq_some_iff.mp hd).1
      rw [Function.update_of_ne (Nat.ne_of_lt hlt), getElem?_writeSnake_of_lt (h.place_lt hlt)]
      exact h.written i d hd
    · rw [Function.update_self]
      exact getElem?_writeSnake_next snake c
  underscore j hj := by
    rcases beforeCapital_concat.mp hj with hj | ⟨-, hcapital, hnext⟩
    · have hlt := h.lt_of_beforeCapital hj
      rw [getElem?_writeSnake_of_lt (by omega)]
      exact h.underscore j hj
    · exact getElem?_writeSnake_before hcapital hnext
  added j hj hadded := by
    obtain ⟨hadded, hne⟩ := isAdded_concat.mp hadded
    rcases lt_writeSnake_cases hj hne with hlt | ⟨-, hnext, hcapital, hjoined⟩
    · exact beforeCapital_concat.mpr (Or.inl (h.added j hlt hadded))
    · obtain ⟨d, hd, -⟩ := isJoined_eq_false_iff.mp hjoined
      have hsnake : 0 < snake.length := List.length_pos_of_mem (List.mem_of_getLast? hd)
      exact beforeCapital_concat.mpr (Or.inr ⟨h.length_pos hsnake, hcapital, hnext⟩)
  apart j hj hadded := by
    obtain ⟨hadded, hne⟩ := isAdded_concat.mp hadded
    rcases lt_writeSnake_cases hj hne with hlt | ⟨rfl, hnext, hcapital, hjoined⟩
    · have hbefore := h.lt_of_beforeCapital (h.added j hlt hadded)
      obtain ⟨hafter, hfront⟩ := h.apart j hlt hadded
      refine ⟨by rwa [getElem?_writeSnake_of_lt hbefore], fun k hk => ?_⟩
      rw [getElem?_writeSnake_of_lt (by omega)]
      exact hfront k hk
    · -- the new gap has the capital's small letter behind it, and no underscore before it
      obtain ⟨d, hd, hother⟩ := isJoined_eq_false_iff.mp hjoined
      refine ⟨?_, fun k hk => ?_⟩
      · rw [← hnext, getElem?_writeSnake_next, Ne, Option.some_inj, toLower_eq_underscore_iff hc]
        rintro rfl
        exact absurd hcapital (by decide)
      · rw [getElem?_writeSnake_of_lt (by omega)]
        rw [List.getLast?_eq_getElem?, ← hk, Nat.add_sub_cancel] at hd
        rwa [hd, Ne, Option.some_inj]

end Respells

/-- The words of a name respell it. -/
theorem exists_respells {cs : List Char} (h : ∀ c ∈ cs, isIdentifierRest c = true) :
    ∃ place, Respells cs (snakeWords true cs) place := by
  induction cs using List.reverseRecOn with
  | nil => exact ⟨id, Respells.nil id⟩
  | append_singleton cs c ih =>
      obtain ⟨hcs, hc⟩ := List.forall_mem_append.mp h
      obtain ⟨place, hplace⟩ := ih hcs
      rw [snakeWords_concat h]
      exact ⟨_, hplace.concat (hc c List.mem_cons_self)⟩

/-! ### The characters of the words -/

/-- Every character of the words is an underscore or stands for one of the name. -/
theorem mem_snakeWords {cs : List Char} {joined : Bool} {d : Char}
    (hd : d ∈ snakeWords joined cs) : d = '_' ∨ ∃ c ∈ cs, d ∈ lowerChar c := by
  induction cs generalizing joined with
  | nil => cases hd
  | cons c cs ih =>
      rw [snakeWords, List.mem_append, List.mem_append] at hd
      rcases hd with (hd | hd) | hd
      · split at hd
        · exact Or.inl (List.mem_singleton.mp hd)
        · cases hd
      · exact Or.inr ⟨c, List.mem_cons_self, hd⟩
      · exact (ih hd).imp_right fun ⟨e, he, hde⟩ => ⟨e, List.mem_cons_of_mem _ he, hde⟩

/-- The words of an identifier hold its characters without capitals. -/
theorem small_of_mem_snakeWords {cs : List Char} (h : ∀ c ∈ cs, isIdentifierRest c = true)
    {joined : Bool} {d : Char} (hd : d ∈ snakeWords joined cs) :
    isIdentifierRest d = true ∧ ¬ IsCapital d := by
  rcases mem_snakeWords hd with rfl | ⟨c, hc, hdc⟩
  · exact ⟨rfl, by decide⟩
  · rw [lowerChar_of_identifier (h c hc), List.mem_singleton] at hdc
    rw [hdc]
    exact ⟨isIdentifierRest_toLower (h c hc), not_isCapital_toLower (h c hc)⟩

/-- Apart from underscores, the words hold what the name holds, in the same order. -/
theorem filter_snakeWords {cs : List Char} (h : ∀ c ∈ cs, isIdentifierRest c = true)
    (joined : Bool) :
    (snakeWords joined cs).filter (· ≠ '_') = (cs.filter (· ≠ '_')).map Char.toLower := by
  induction cs generalizing joined with
  | nil => rfl
  | cons c cs ih =>
      obtain ⟨hc, hcs⟩ := List.forall_mem_cons.mp h
      have hgap : (if (isUpper c && !joined) = true then ['_'] else []).filter (· ≠ '_') = [] := by
        split <;> rfl
      rw [snakeWords, lowerChar_of_identifier hc, List.filter_append, List.filter_append, hgap,
        ih hcs, List.nil_append]
      by_cases hunderscore : c = '_'
      · simp [hunderscore]
      · simp [hunderscore, toLower_eq_underscore_iff hc]

/-- A name without capitals is one word. -/
theorem snakeWords_of_small {cs : List Char}
    (h : ∀ c ∈ cs, isIdentifierRest c = true ∧ ¬ IsCapital c) (joined : Bool) :
    snakeWords joined cs = cs := by
  induction cs generalizing joined with
  | nil => rfl
  | cons c cs ih =>
      obtain ⟨⟨hc, hsmall⟩, hcs⟩ := List.forall_mem_cons.mp h
      have hupper : isUpper c = false := by
        rwa [← Bool.not_eq_true, isUpper_iff hc]
      rw [snakeWords, lowerChar_of_identifier hc, toLower_of_not_isCapital hsmall, hupper,
        ih hcs]
      rfl

/-! ### Snake case of identifiers -/

/-- An identifier has no hyphens that would turn into underscores. -/
theorem snakeChars_of_identifier {cs : List Char} (h : ∀ c ∈ cs, isIdentifierRest c = true) :
    snakeChars cs = snakeWords true cs := by
  have hkept : ∀ d ∈ snakeWords true cs, (if d = '-' then '_' else d) = id d := by
    intro d hd
    refine if_neg ?_
    rintro rfl
    exact absurd (small_of_mem_snakeWords h hd).1 (by decide)
  rw [snakeChars, List.map_congr_left hkept, List.map_id]

theorem toList_snakeCase_of_isIdentifier {name : String} (h : isIdentifier name = true) :
    (snakeCase name).toList = snakeWords true name.toList := by
  rw [toList_snakeCase, snakeChars_of_identifier fun _ hc => isIdentifierRest_of_mem h hc]

theorem isIdentifier_snakeCase {name : String} (h : isIdentifier name = true) :
    isIdentifier (snakeCase name) = true := by
  rw [isIdentifier, toList_snakeCase_of_isIdentifier h]
  have hrest := fun c => isIdentifierRest_of_mem h (c := c)
  unfold isIdentifier at h
  cases hname : name.toList with
  | nil => simp [hname] at h
  | cons c cs =>
      rw [hname] at h hrest
      obtain ⟨hc, hcs⟩ := List.forall_mem_cons.mp hrest
      rw [isIdentifierChars_cons, Bool.and_eq_true] at h
      -- no gap goes before the first character
      rw [snakeWords, Bool.not_true, Bool.and_false, lowerChar_of_identifier hc]
      refine Bool.and_eq_true_iff.mpr ⟨isIdentifierStart_toLower h.1, List.all_eq_true.mpr ?_⟩
      exact fun d hd => (small_of_mem_snakeWords hcs hd).1

/-- **Snake case of an identifier** is an identifier without capitals. Its letters and digits
are those of the name in lower case, and underscores are added before capitals and nowhere
else. Written in snake case again, it stays as it is. -/
theorem snakeCase_respells {name : String} (h : IsIdentifier name) :
    IsIdentifier (snakeCase name) ∧ (∀ c ∈ (snakeCase name).toList, ¬ IsCapital c) ∧
      (snakeCase name).toList.filter (· ≠ '_') =
        (name.toList.filter (· ≠ '_')).map Char.toLower ∧
      (∃ place, Respells name.toList (snakeCase name).toList place) ∧
      snakeCase (snakeCase name) = snakeCase name := by
  rw [← isIdentifier_iff] at h ⊢
  have hrest : ∀ c ∈ name.toList, isIdentifierRest c = true :=
    fun c hc => isIdentifierRest_of_mem h hc
  have hsnake := isIdentifier_snakeCase h
  have hsmall : ∀ c ∈ (snakeCase name).toList, isIdentifierRest c = true ∧ ¬ IsCapital c := by
    rw [toList_snakeCase_of_isIdentifier h]
    exact fun c hc => small_of_mem_snakeWords hrest hc
  refine ⟨hsnake, fun c hc => (hsmall c hc).2, ?_, ?_, ?_⟩
  · rw [toList_snakeCase_of_isIdentifier h]
    exact filter_snakeWords hrest true
  · rw [toList_snakeCase_of_isIdentifier h]
    exact exists_respells hrest
  · rw [← String.toList_inj, toList_snakeCase_of_isIdentifier hsnake]
    exact snakeWords_of_small hsmall true

/-- A run of capitals behind an underscore, and a capital that an underscore precedes already. -/
theorem snakeCase_capital_run :
    IsIdentifier "_HTTPServer_Key2" ∧ snakeCase "_HTTPServer_Key2" = "_h_t_t_p_server_key2" ∧
      IsIdentifier "_h_t_t_p_server_key2" ∧
      (∀ c ∈ "_h_t_t_p_server_key2".toList, ¬ IsCapital c) ∧
      "_h_t_t_p_server_key2".toList.filter (· ≠ '_') =
        ("_HTTPServer_Key2".toList.filter (· ≠ '_')).map Char.toLower ∧
      (∃ place, Respells "_HTTPServer_Key2".toList "_h_t_t_p_server_key2".toList place) ∧
      snakeCase "_h_t_t_p_server_key2" = "_h_t_t_p_server_key2" := by
  have hname : IsIdentifier "_HTTPServer_Key2" := isIdentifier_iff.mp (by decide)
  have hsnake : snakeCase "_HTTPServer_Key2" = "_h_t_t_p_server_key2" := by decide +kernel
  have hall := snakeCase_respells hname
  rw [hsnake] at hall
  exact ⟨hname, hsnake, hall⟩

end BuilderGen.Text
