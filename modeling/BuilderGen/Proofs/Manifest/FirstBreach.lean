import BuilderGen.Manifest.Violation

/-!
# BuilderGen.Proofs.Manifest.FirstBreach

**Looking for the first finding.** The checks of a manifest are nested: a list of
types, in each a list of components, in each a few rules. A *place* in such a
nesting is a list of numbers, compared like words in a dictionary. A search that
goes through the places in order returns the finding at the first place that has
one (`First`).

The lemmas follow the ways searches are put together: one search and then another
(`First.orElse`), a search at the head of a list and then one in its tail
(`First.cons`), and the same search for every item of a list (`First.findSome?`).
-/

namespace BuilderGen

/-- Where something is found, outermost position first. -/
abbrev Place := List Nat

/-- Whether a place comes before another one or is the same. -/
def Place.UpTo : Place → Place → Prop
  | [], _ => True
  | _ :: _, [] => False
  | a :: as, b :: bs => a < b ∨ a = b ∧ UpTo as bs

@[simp] theorem Place.upTo_cons {a b : Nat} {as bs : Place} :
    Place.UpTo (a :: as) (b :: bs) ↔ a < b ∨ a = b ∧ Place.UpTo as bs := Iff.rfl

theorem Place.UpTo.antisymm : ∀ {p q : Place}, p.UpTo q → q.UpTo p → p = q
  | [], [], _, _ => rfl
  | [], _ :: _, _, h => h.elim
  | _ :: _, [], h, _ => h.elim
  | a :: as, b :: bs, h, h' => by
      rw [upTo_cons] at h h'
      obtain ⟨rfl, hle⟩ : a = b ∧ UpTo as bs := by
        rcases h with h | h
        · rcases h' with h' | ⟨rfl, -⟩ <;> omega
        · exact h
      rcases h' with h' | ⟨-, h'⟩
      · omega
      · rw [UpTo.antisymm hle h']

/-- What a search through places returns: the finding at the first place, or nothing
if nothing is found anywhere. -/
def First {α : Type} (Found : Place → α → Prop) : Option α → Prop
  | none => ∀ place a, ¬ Found place a
  | some a => ∃ place, Found place a ∧ ∀ other b, Found other b → place.UpTo other

namespace First

variable {α β : Type} {F G : Place → α → Prop} {o o' : Option α}

theorem congr (h : First F o) (hFG : ∀ place a, F place a ↔ G place a) : First G o := by
  have : F = G := funext fun place => funext fun a => propext (hFG place a)
  exact this ▸ h

/-- A rule that holds or not, at a place of its own. -/
theorem check {ok : Bool} {v : Violation} {n : Nat} :
    First (fun place w => place = [n] ∧ ok = false ∧ w = v) (violationUnless ok v) := by
  cases ok with
  | true => simp [First]
  | false =>
      refine ⟨[n], by simp, fun other w hw => ?_⟩
      obtain ⟨rfl, -, -⟩ := hw
      exact Or.inr ⟨rfl, trivial⟩

theorem nothing : First (fun _ (_ : α) => False) none := fun _ _ h => h

/-- One search and then another, at later places. -/
theorem orElse (hF : First F o) (hG : First G o')
    (hlt : ∀ {p q a b}, F p a → G q b → Place.UpTo p q) :
    First (fun place a => F place a ∨ G place a) (o <|> o') := by
  cases o with
  | some a =>
      obtain ⟨place, hfound, hfirst⟩ := hF
      refine ⟨place, Or.inl hfound, fun other b hb => ?_⟩
      rcases hb with hb | hb
      · exact hfirst other b hb
      · exact hlt hfound hb
  | none =>
      -- nothing is found by the first search, so the second one finds all there is
      refine congr (G := fun place a => F place a ∨ G place a) hG fun place a => ?_
      simp [hF place a]

/-- A search one level further in. -/
theorem nest (n : Nat) (hF : First F o) :
    First (fun place a => ∃ inner, place = n :: inner ∧ F inner a) o := by
  cases o with
  | none =>
      intro place a h
      obtain ⟨inner, -, h⟩ := h
      exact hF inner a h
  | some a =>
      obtain ⟨place, hfound, hfirst⟩ := hF
      refine ⟨n :: place, ⟨place, rfl, hfound⟩, fun other b hb => ?_⟩
      obtain ⟨inner, rfl, hb⟩ := hb
      exact Or.inr ⟨rfl, hfirst inner b hb⟩

/-- A search in a list that starts one position later. -/
theorem shift {H : Nat → Place → α → Prop}
    (h : First (fun place a => ∃ i inner, place = i :: inner ∧ H i inner a) o) :
    First (fun place a => ∃ i inner, place = (i + 1) :: inner ∧ H i inner a) o := by
  cases o with
  | none =>
      intro place a hfound
      obtain ⟨i, inner, -, hi⟩ := hfound
      exact h _ a ⟨i, inner, rfl, hi⟩
  | some a =>
      obtain ⟨_, ⟨i, inner, rfl, hfound⟩, hfirst⟩ := h
      refine ⟨(i + 1) :: inner, ⟨i, inner, rfl, hfound⟩, fun other b hb => ?_⟩
      obtain ⟨j, inner', rfl, hj⟩ := hb
      have hle := hfirst _ b ⟨j, inner', rfl, hj⟩
      simpa using hle

end First

/-- What is found in the items of a list. `H` says what is found in an item at a
position. -/
def InItems {α β : Type} (l : List β) (H : β → Nat → Place → α → Prop) (place : Place) (a : α) :
    Prop :=
  ∃ i inner, place = i :: inner ∧ ∃ x, l[i]? = some x ∧ H x i inner a

namespace First

variable {α β : Type} {o o' : Option α}

/-- A search at the head of a list and then one in its tail. -/
theorem cons {H : β → Nat → Place → α → Prop} {x : β} {rest : List β} (hhead : First (H x 0) o)
    (htail : First (InItems rest fun y i => H y (i + 1)) o') :
    First (InItems (x :: rest) H) (o <|> o') := by
  refine ((hhead.nest 0).orElse (shift htail) ?_).congr fun place a => ⟨fun h => ?_, fun h => ?_⟩
  · intro p q a b hp hq
    obtain ⟨inner, rfl, -⟩ := hp
    obtain ⟨i, inner', rfl, -⟩ := hq
    exact Or.inl (by omega)
  · rcases h with ⟨inner, rfl, h⟩ | ⟨i, inner, rfl, h⟩
    · exact ⟨0, inner, rfl, x, rfl, h⟩
    · exact ⟨i + 1, inner, rfl, h⟩
  · obtain ⟨i, inner, rfl, y, hy, h⟩ := h
    cases i with
    | zero =>
        obtain rfl : x = y := by simpa using hy
        exact Or.inl ⟨inner, rfl, h⟩
    | succ i => exact Or.inr ⟨i, inner, rfl, y, hy, h⟩

/-- The same search for every item of a list. -/
theorem findSome? {f : β → Option α} {H : β → Place → α → Prop} (h : ∀ x, First (H x) (f x)) :
    ∀ l : List β, First (InItems l fun x _ => H x) (l.findSome? f)
  | [] => nothing.congr fun place a => by simp [InItems]
  | x :: rest => by
      have := cons (H := fun y _ => H y) (h x) (findSome? h rest)
      rw [List.findSome?_cons]
      cases hx : f x <;> simpa [hx] using this

end First
end BuilderGen
