import BuilderGen.Proofs.Text.Segments
import BuilderGen.Text.Lines

/-!
# BuilderGen.Proofs.Text.Lines

**Lines and texts.** No line of a text holds a line feed (`not_mem_of_mem_lines`). The
other way round, a text that starts with some lines is cut into these and the rest, if none
of them holds a line feed (`segments_unlines_append`). Reading lines does not undo writing
them: a carriage return at the end of a line belongs to the line ending when it is read.

Hence a text can be put together from its pieces in one way only, if it can be told where a
piece ends: at the first or the last of a character, or where lines stop being of a kind.
-/

namespace BuilderGen.Text

/-! ### Reading lines -/

theorem linesFrom_append {front : List Char} (h : '\n' ∉ front) (back : List Char) :
    ∀ line, linesFrom line (front ++ '\n' :: back) =
      (dropReturn (front.reverse ++ line)).reverse :: linesFrom [] back := by
  induction front with
  | nil => intro line; rfl
  | cons c front ih =>
      intro line
      obtain ⟨hc, hfront⟩ := not_or.mp (fun hmem => h (List.mem_cons.mpr hmem))
      rw [List.cons_append, linesFrom, ih hfront]
      · simp
      · exact fun heq => hc heq.symm

theorem dropReturn_subset (line : List Char) : dropReturn line ⊆ line := by
  unfold dropReturn
  split
  · exact List.subset_cons_self _ _
  · exact List.Subset.refl _

theorem not_mem_of_mem_linesFrom (cs : List Char) : ∀ line, '\n' ∉ line →
    ∀ l ∈ linesFrom line cs, '\n' ∉ l := by
  intro line
  fun_induction linesFrom line cs with
  | case1 line => simp
  | case2 line hne => simp +contextual
  | case3 line cs ih =>
      intro hline l hl
      rcases List.mem_cons.mp hl with rfl | hl
      · exact fun hmem => hline (dropReturn_subset line (List.mem_reverse.mp hmem))
      · exact ih (by simp) l hl
  | case4 line c cs hc ih =>
      intro hline
      exact ih (by simpa [hline] using Ne.symm hc)

/-- No line of a text holds a line feed. -/
theorem not_mem_of_mem_lines {text line : String} (h : line ∈ lines text) :
    '\n' ∉ line.toList := by
  obtain ⟨cs, hcs, rfl⟩ := List.mem_map.mp h
  rw [String.toList_ofList]
  exact not_mem_of_mem_linesFrom _ [] (by simp) cs hcs

/-! ### Writing lines -/

/-- The text of lines that are each ended by a line feed. -/
def unlines (lines : List String) : String := String.join (lines.map (· ++ "\n"))

@[simp] theorem unlines_nil : unlines [] = "" := rfl

@[simp] theorem unlines_cons (line : String) (lines : List String) :
    unlines (line :: lines) = line ++ "\n" ++ unlines lines := by
  simp [unlines]

@[simp] theorem unlines_append (lines lines' : List String) :
    unlines (lines ++ lines') = unlines lines ++ unlines lines' := by
  simp [unlines]

/-- The characters of lines are put together from those of each line. -/
theorem toList_unlines_cons {line : String} {lines : List String} {cs rest : List Char}
    (hline : line = String.ofList cs) (hlines : (unlines lines).toList = rest) :
    (unlines (line :: lines)).toList = cs ++ '\n' :: rest := by
  simp [hline, hlines]

/-- A text that goes on behind some lines is cut at the end of each of them. -/
theorem segments_unlines_append {lines : List String} (h : ∀ line ∈ lines, '\n' ∉ line.toList)
    (rest : String) : segments "\n" (unlines lines ++ rest) = lines ++ segments "\n" rest := by
  induction lines with
  | nil => simp
  | cons line lines ih =>
      obtain ⟨hline, hlines⟩ := List.forall_mem_cons.mp h
      rw [unlines_cons, String.append_assoc, segments_append rfl hline, ih hlines,
        List.cons_append]

/-! ### Telling pieces apart -/

/-- Lists are told apart from what follows them where a property stops to hold. -/
theorem append_cons_inj_of_forall {α : Type} {p : α → Prop} {x y : α} {s t : List α}
    (hx : ¬ p x) (hy : ¬ p y) : ∀ {xs ys : List α}, (∀ a ∈ xs, p a) → (∀ a ∈ ys, p a) →
      xs ++ x :: s = ys ++ y :: t → xs = ys ∧ x = y ∧ s = t
  | [], [], _, _, h => ⟨rfl, List.cons.inj h⟩
  | [], b :: _, _, hys, h => absurd (hys b (by simp)) ((List.cons.inj h).1 ▸ hx)
  | a :: _, [], hxs, _, h => absurd (hxs a (by simp)) ((List.cons.inj h).1 ▸ hy)
  | a :: xs, b :: ys, hxs, hys, h => by
      obtain ⟨rfl, htail⟩ := List.cons.inj h
      obtain ⟨rfl, hrest⟩ := append_cons_inj_of_forall hx hy
        (fun c hc => hxs c (List.mem_cons_of_mem _ hc))
        (fun c hc => hys c (List.mem_cons_of_mem _ hc)) htail
      exact ⟨rfl, hrest⟩

/-- Texts of which neither can be the beginning of the other do not start alike. -/
theorem append_ne_append {front front' : String} (h : ¬ front.toList <+: front'.toList)
    (h' : ¬ front'.toList <+: front.toList) (rest rest' : String) :
    front ++ rest ≠ front' ++ rest' := by
  intro heq
  have hchars : front.toList ++ rest.toList = front'.toList ++ rest'.toList := by
    rw [← String.toList_append, heq, String.toList_append]
  rcases List.prefix_or_prefix_of_prefix ⟨_, hchars⟩ (List.prefix_append _ _) with hfront | hfront
  · exact h hfront
  · exact h' hfront

section Pieces

variable {sep a a' b b' : String} {d : Char} (hsep : sep.toList = [d])
include hsep

/-- What stands before the first of a character, and what stands after it. -/
theorem append_inj_first (ha : d ∉ a.toList) (ha' : d ∉ a'.toList)
    (h : a ++ sep ++ b = a' ++ sep ++ b') : a = a' ∧ b = b' := by
  simp only [← String.toList_inj, String.toList_append, hsep, List.append_assoc,
    List.singleton_append] at h ⊢
  obtain ⟨hfront, -, hback⟩ := append_cons_inj_of_forall (p := (· ≠ d)) (by simp) (by simp)
    (fun c hc heq => ha (heq ▸ hc)) (fun c hc heq => ha' (heq ▸ hc)) h
  exact ⟨hfront, hback⟩

/-- What stands before the last of a character, and what stands after it. -/
theorem append_inj_last (hb : d ∉ b.toList) (hb' : d ∉ b'.toList)
    (h : a ++ sep ++ b = a' ++ sep ++ b') : a = a' ∧ b = b' := by
  simp only [← String.toList_inj, String.toList_append, hsep, List.append_assoc,
    List.singleton_append] at h ⊢
  have hreverse := congrArg List.reverse h
  simp only [List.reverse_append, List.reverse_cons, List.append_assoc,
    List.singleton_append] at hreverse
  obtain ⟨hback, -, hfront⟩ := append_cons_inj_of_forall (p := (· ≠ d)) (by simp) (by simp)
    (fun c hc heq => hb (heq ▸ List.mem_reverse.mp hc))
    (fun c hc heq => hb' (heq ▸ List.mem_reverse.mp hc)) hreverse
  exact ⟨List.reverse_inj.mp hfront, List.reverse_inj.mp hback⟩

end Pieces

/-- The lines at the front of a text, up to the first line that is not of their kind. -/
theorem unlines_append_inj {p : String → Prop} {lines lines' : List String}
    {line line' rest rest' : String}
    (hlines : ∀ l ∈ lines, p l ∧ '\n' ∉ l.toList) (hline : ¬ p line ∧ '\n' ∉ line.toList)
    (hlines' : ∀ l ∈ lines', p l ∧ '\n' ∉ l.toList) (hline' : ¬ p line' ∧ '\n' ∉ line'.toList)
    (h : unlines lines ++ (line ++ "\n" ++ rest) = unlines lines' ++ (line' ++ "\n" ++ rest')) :
    lines = lines' ∧ line = line' ∧ rest = rest' := by
  have hcut := congrArg (segments "\n") h
  rw [segments_unlines_append fun l hl => (hlines l hl).2,
    segments_unlines_append fun l hl => (hlines' l hl).2, segments_append rfl hline.2,
    segments_append rfl hline'.2] at hcut
  obtain ⟨hfront, hnext, hback⟩ := append_cons_inj_of_forall hline.1 hline'.1
    (fun l hl => (hlines l hl).1) (fun l hl => (hlines' l hl).1) hcut
  exact ⟨hfront, hnext, (segments_inj (by decide)).mp hback⟩

end BuilderGen.Text
