import BuilderGen.Proofs.Toml.Keys
import BuilderGen.Toml.Document
import Mathlib.Data.Option.Basic

/-!
# BuilderGen.Proofs.Toml.Document

**A key is added once.** In every table of a document, at whatever depth, keys are distinct
(`distinctKeys_of_document?`). Tables come about in two ways: inline ones by what the reader
of statements holds open (`Machine.IsDistinct.step`), and those of headers by the statements
that have been read (`DistinctKeys.apply?`).
-/

namespace BuilderGen.Toml

/-! ### Scalars -/

/-- A value without tables. -/
def Value.isScalar : Value → Bool
  | .list _ | .tables _ | .table _ _ => false
  | _ => true

theorem Value.isDistinct_of_isScalar {v : Value} (h : v.isScalar = true) : v.IsDistinct := by
  cases v with
  | list items => cases h
  | tables items => cases h
  | table origin entries => cases h
  | _ => trivial

theorem isScalar_integerOf (negative : Bool) (digits : List Char) :
    (integerOf negative digits).isScalar = true := by
  rw [integerOf]
  split <;> rfl

theorem isScalar_of_integer? {cs : List Char} {v : Value} (h : integer? cs = some v) :
    v.isScalar = true := by
  obtain ⟨digits, -, rfl⟩ := Option.map_eq_some_iff.mp h
  split <;> exact isScalar_integerOf _ _

theorem isScalar_of_basedInteger? {base : Nat} {cs : List Char} {v : Value}
    (h : basedInteger? base cs = some v) : v.isScalar = true := by
  simp only [basedInteger?] at h
  split at h
  · obtain ⟨digits, -, rfl⟩ := Option.map_eq_some_iff.mp h
    split <;> rfl
  · cases h

theorem isScalar_of_decimal? {cs : List Char} {v : Value} (h : decimal? cs = some v) :
    v.isScalar = true := by
  have hunsigned : ∀ {negative digits}, unsignedDecimal? negative digits = some v →
      v.isScalar = true := by
    intro negative digits h
    simp only [unsignedDecimal?, Option.bind_eq_bind, Option.bind_eq_some_iff, Option.pure_def,
      Option.some.injEq] at h
    obtain ⟨_, -, _, -, _, -, rfl⟩ := h
    rfl
  simp only [decimal?, Option.bind_eq_bind, Option.bind_eq_some_iff] at h
  obtain ⟨digits, -, h⟩ := h
  split at h <;> exact hunsigned h

theorem isScalar_of_number? {cs unsigned : List Char} {v : Value}
    (h : number? cs unsigned = some v) : v.isScalar = true := by
  simp only [number?] at h
  split at h
  · split at h
    · cases h
    · exact isScalar_of_integer? h
  · split_ifs at h
    · obtain ⟨text, -, rfl⟩ := Option.map_eq_some_iff.mp h
      rfl
    · exact isScalar_of_decimal? h
    · exact isScalar_of_integer? h

theorem isScalar_of_numeric? {negative : Bool} {cs unsigned : List Char} {v : Value}
    (h : numeric? negative cs unsigned = some v) : v.isScalar = true := by
  rw [numeric?] at h
  split_ifs at h
  · rw [← Option.some.inj h]
    rfl
  · rw [← Option.some.inj h]
    rfl
  · exact isScalar_of_number? h

theorem isScalar_of_scalar? {cs : List Char} {v : Value} (h : scalar? cs = some v) :
    v.isScalar = true := by
  unfold scalar? at h
  split_ifs at h
  · rw [← Option.some.inj h]
    rfl
  · rw [← Option.some.inj h]
    rfl
  · split at h
    · exact isScalar_of_basedInteger? h
    · exact isScalar_of_basedInteger? h
    · exact isScalar_of_basedInteger? h
    · exact isScalar_of_numeric? h
    · exact isScalar_of_numeric? h
    · exact isScalar_of_numeric? h

/-! ### Statements -/

/-- In all tables of an open value, keys are distinct. -/
def Frame.IsDistinct : Frame → Prop
  | .assignment _ => True
  | .list items => AreDistinct items
  | .table entries _ => DistinctKeys entries

/-- In all tables of a statement's value, keys are distinct. -/
def Statement.IsDistinct : Statement → Prop
  | .assignment _ value => value.IsDistinct
  | _ => True

namespace Machine

/-- In all tables that a machine has read or is reading, keys are distinct. -/
structure IsDistinct (m : Machine) : Prop where
  statements : ∀ statement ∈ m.statements, statement.IsDistinct
  stack : ∀ frame ∈ m.stack, frame.IsDistinct

namespace IsDistinct

variable {m m' : Machine} (hm : m.IsDistinct)
include hm

theorem expect (state : State) : (m.expect state).IsDistinct :=
  ⟨hm.statements, hm.stack⟩

theorem of_same (h : some m = some m') : m'.IsDistinct := by
  rwa [← Option.some.inj h]

theorem of_expect {state : State} (h : some (m.expect state) = some m') :
    m'.IsDistinct := by
  rw [← Option.some.inj h]
  exact hm.expect state

theorem complete {statement : Statement} (hstatement : statement.IsDistinct) :
    (m.complete statement).IsDistinct :=
  ⟨List.forall_mem_cons.mpr ⟨hstatement, hm.statements⟩, by simp [Machine.complete]⟩

/-- Open values may be replaced by others. -/
theorem withStack {stack : List Frame} (h : ∀ frame ∈ stack, frame.IsDistinct)
    (state : State) : ({ m with stack, state } : Machine).IsDistinct :=
  ⟨hm.statements, h⟩

theorem give? {value : Value} (hvalue : value.IsDistinct)
    (h : m.give? value = some m') : m'.IsDistinct := by
  have hstack := hm.stack
  rw [Machine.give?] at h
  split at h
  · rw [← Option.some.inj h]
    exact hm.complete hvalue
  next items rest heq =>
    rw [heq, List.forall_mem_cons] at hstack
    have hitems : (Frame.list (value :: items)).IsDistinct := ⟨hvalue, hstack.1⟩
    rw [← Option.some.inj h]
    exact hm.withStack (List.forall_mem_cons.mpr ⟨hitems, hstack.2⟩) _
  next entries key rest heq =>
    rw [heq, List.forall_mem_cons] at hstack
    obtain ⟨entries', hassign, rfl⟩ := Option.map_eq_some_iff.mp h
    have hentries : (Frame.table entries' []).IsDistinct :=
      DistinctKeys.assign? hvalue hstack.1 hassign
    exact hm.withStack (List.forall_mem_cons.mpr ⟨hentries, hstack.2⟩) _
  · cases h

theorem closeList? (h : m.closeList? = some m') : m'.IsDistinct := by
  have hstack := hm.stack
  rw [Machine.closeList?] at h
  split at h
  next items rest heq =>
    rw [heq, List.forall_mem_cons] at hstack
    have hitems : (Value.list items.reverse).IsDistinct :=
      areDistinct_iff.mpr fun item hitem =>
        areDistinct_iff.mp hstack.1 item (List.mem_reverse.mp hitem)
    exact (hm.withStack hstack.2 m.state).give? hitems h
  next => cases h

theorem closeTable? (h : m.closeTable? = some m') : m'.IsDistinct := by
  have hstack := hm.stack
  rw [Machine.closeTable?] at h
  split at h
  next entries key rest heq =>
    rw [heq, List.forall_mem_cons] at hstack
    have hentries : (Value.table .inline entries).IsDistinct := hstack.1
    exact (hm.withStack hstack.2 m.state).give? hentries h
  next => cases h

theorem openFrame? {frame : Frame} {state : State} (hframe : frame.IsDistinct)
    (h : m.openFrame? frame state = some m') : m'.IsDistinct := by
  rw [Machine.openFrame?] at h
  split at h
  · rw [← Option.some.inj h]
    exact hm.withStack (List.forall_mem_cons.mpr ⟨hframe, hm.stack⟩) _
  · cases h

theorem endKey? {use : KeyUse} {key : List String} {c : Char}
    (h : m.endKey? use key c = some m') : m'.IsDistinct := by
  have hstack := hm.stack
  unfold Machine.endKey? at h
  split at h
  · split at h
    · rw [← Option.some.inj h]
      exact hm.withStack (by simp [Frame.IsDistinct]) _
    · cases h
  next entries _ rest heq =>
    rw [heq, List.forall_mem_cons] at hstack
    split at h
    · have hentries : (Frame.table entries key).IsDistinct := hstack.1
      rw [← Option.some.inj h]
      exact hm.withStack (List.forall_mem_cons.mpr ⟨hentries, hstack.2⟩) _
    · cases h
  · cases h
  · split at h
    · rw [← Option.some.inj h]
      exact hm.complete trivial
    · cases h
  · split at h
    · exact hm.of_expect h
    · cases h

theorem breakKey? {use : KeyUse} {key : List String}
    (h : m.breakKey? use key = some m') : m'.IsDistinct := by
  rw [Machine.breakKey?] at h
  split at h
  · exact hm.of_expect h
  · cases h

theorem nextPart? {use : KeyUse} {before : List String}
    (h : m.nextPart? use before = some m') : m'.IsDistinct := by
  rw [Machine.nextPart?] at h
  split at h
  · exact hm.of_expect h
  · cases h

theorem stepKey? {use : KeyUse} {before : List String} {part : KeyPart} {token : Token}
    (h : m.stepKey? use before part token = some m') : m'.IsDistinct := by
  unfold Machine.stepKey? at h
  split at h
  · split at h
    · cases h
    · exact hm.breakKey? h
    · exact hm.breakKey? h
  · split at h
    · split at h
      · cases h
      · exact hm.of_expect h
    · cases h
  · split at h
    · split_ifs at h
      · exact hm.of_expect h
      · exact hm.of_expect h
    · split_ifs at h
      · exact hm.of_expect h
      · exact hm.of_expect h
      · exact hm.nextPart? h
      · exact hm.endKey? h
    · split_ifs at h
      · exact hm.of_expect h
      · exact hm.nextPart? h
      · exact hm.endKey? h

theorem stepAfter? {token : Token} (h : m.stepAfter? token = some m') :
    m'.IsDistinct := by
  unfold Machine.stepAfter? at h
  split at h
  · exact hm.of_expect h
  · split at h
    · exact hm.of_same h
    · cases h
  · exact hm.of_same h
  · split_ifs at h
    · exact hm.of_same h
    · exact hm.of_expect h
    · exact hm.closeList? h
  · exact hm.of_same h
  · split_ifs at h
    · exact hm.of_same h
    · exact hm.of_expect h
    · exact hm.closeTable? h
  · cases h

theorem endScalar? {read : List Char} {token : Token}
    (h : m.endScalar? read token = some m') : m'.IsDistinct := by
  simp only [Machine.endScalar?, Option.bind_eq_bind, Option.bind_eq_some_iff] at h
  obtain ⟨value, hvalue, given, hgive, hafter⟩ := h
  have hdistinct := Value.isDistinct_of_isScalar (isScalar_of_scalar? hvalue)
  exact (hm.give? hdistinct hgive).stepAfter? hafter

theorem stepValue? {token : Token} (h : m.stepValue? token = some m') :
    m'.IsDistinct := by
  have hlist : (Frame.list []).IsDistinct := trivial
  have htable : (Frame.table [] []).IsDistinct := trivial
  unfold Machine.stepValue? at h
  split at h
  · split at h
    · exact hm.of_same h
    · cases h
  · exact hm.give? (Value.isDistinct_of_isScalar rfl) h
  · split_ifs at h
    · exact hm.of_same h
    · exact hm.openFrame? hlist h
    · exact hm.openFrame? htable h
    · exact hm.closeList? h
    · exact hm.of_expect h

/-- **Keys stay distinct** when a token is taken. -/
theorem step {token : Token} (h : m.step token = some m') : m'.IsDistinct := by
  unfold Machine.step at h
  cases hstate : m.state with
  | line =>
      simp only [hstate] at h
      split at h
      · exact hm.of_same h
      · exact hm.of_expect h
      · split_ifs at h
        · exact hm.of_same h
        · exact hm.stepKey? h
  | header =>
      simp only [hstate] at h
      split at h
      · exact hm.of_expect h
      · exact hm.stepKey? h
  | key use before part =>
      simp only [hstate] at h
      exact hm.stepKey? h
  | headerEnd path =>
      simp only [hstate] at h
      split at h
      · rw [← Option.some.inj h]
        exact hm.complete trivial
      · cases h
  | memberEquals key =>
      simp only [hstate] at h
      split at h
      · exact hm.of_same h
      · split at h
        · exact hm.of_same h
        · exact hm.endKey? h
      · cases h
  | value =>
      simp only [hstate] at h
      exact hm.stepValue? h
  | scalar read blanks =>
      simp only [hstate] at h
      split at h
      · split_ifs at h
        · exact hm.of_expect h
        · exact hm.endScalar? h
        · exact hm.of_expect h
      · exact hm.endScalar? h
      · cases h
  | member =>
      simp only [hstate] at h
      split at h
      · exact hm.of_same h
      · exact hm.closeTable? h
      · split_ifs at h
        · exact hm.of_same h
        · exact hm.stepKey? h
  | lineEnd =>
      simp only [hstate] at h
      exact hm.stepAfter? h
  | afterItem =>
      simp only [hstate] at h
      exact hm.stepAfter? h
  | afterMember =>
      simp only [hstate] at h
      exact hm.stepAfter? h

end IsDistinct
end Machine

/-! ### Documents -/

/-- What every step of a run keeps, the run keeps. -/
theorem foldlM_keeps {σ α : Type} {step : σ → α → Option σ} {P : σ → Prop} {xs : List α}
    (hstep : ∀ x ∈ xs, ∀ {s s'}, P s → step s x = some s' → P s') :
    ∀ {s s' : σ}, P s → xs.foldlM step s = some s' → P s' := by
  induction xs with
  | nil =>
      intro s s' hs h
      rwa [← Option.some.inj h]
  | cons x xs ih =>
      intro s s' hs h
      obtain ⟨hx, hxs⟩ := List.forall_mem_cons.mp hstep
      simp only [List.foldlM_cons, Option.bind_eq_bind, Option.bind_eq_some_iff] at h
      obtain ⟨mid, hmid, hrest⟩ := h
      exact ih hxs (hx hs hmid) hrest

theorem isDistinct_of_statements? {tokens : List Token} {statements : List Statement}
    (h : statements? tokens = some statements) :
    ∀ statement ∈ statements, statement.IsDistinct := by
  simp only [statements?, Option.bind_eq_bind, Option.bind_eq_some_iff] at h
  obtain ⟨m, hrun, h⟩ := h
  have hm : m.IsDistinct :=
    foldlM_keeps (fun _ _ _ _ hs hstep => hs.step hstep) ⟨by simp, by simp⟩ hrun
  split at h
  · rw [← Option.some.inj h]
    exact fun statement hmem => hm.statements statement (List.mem_reverse.mp hmem)
  · cases h

theorem DistinctKeys.apply? {d d' : Draft} (h : DistinctKeys d.root) {statement : Statement}
    (hstatement : statement.IsDistinct) (happly : d.apply? statement = some d') :
    DistinctKeys d'.root := by
  cases statement with
  | header path =>
      obtain ⟨root, hroot, rfl⟩ := Option.map_eq_some_iff.mp happly
      exact h.declare? hroot
  | itemHeader path =>
      obtain ⟨root, hroot, rfl⟩ := Option.map_eq_some_iff.mp happly
      exact h.declareItem? hroot
  | assignment key value =>
      obtain ⟨root, hroot, rfl⟩ := Option.map_eq_some_iff.mp happly
      exact h.assignIn? hstatement hroot

/-- **A key is added once**: in all tables of a document, keys are distinct. -/
theorem distinctKeys_of_document? {text : String} {root : Entries}
    (h : document? text = some root) : DistinctKeys root := by
  simp only [document?, Option.bind_eq_bind, Option.bind_eq_some_iff, build?,
    Option.map_eq_some_iff] at h
  obtain ⟨tokens, -, statements, hstatements, d, hrun, rfl⟩ := h
  have hdistinct := isDistinct_of_statements? hstatements
  have hempty : DistinctKeys ({} : Draft).root := trivial
  exact foldlM_keeps (P := fun d => DistinctKeys d.root)
    (fun statement hmem _ _ hs happly => hs.apply? (hdistinct statement hmem) happly) hempty hrun

end BuilderGen.Toml
