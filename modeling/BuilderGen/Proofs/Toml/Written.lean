import BuilderGen.Toml.Written

/-!
# BuilderGen.Proofs.Toml.Written

**What is written is read back.** Whichever of its forms a text is written in, the lexer reads
one quoted text there and goes on behind it (`lexFrom_writtenChars`).
-/

namespace BuilderGen.Toml

/-! ### Characters with escapes -/

/-- Characters that are written by number are found by it. -/
theorem escapedByNumber?_upperHexDigit {c : Char} (h : c.toNat < 0x20 ∨ c.toNat = 0x7F) :
    escapedByNumber? ['0', '0', upperHexDigit (c.toNat / 16), upperHexDigit (c.toNat % 16)] =
      some c := by
  have hall : ∀ n < 0x80, escapedByNumber?
      ['0', '0', upperHexDigit (n / 16), upperHexDigit (n % 16)] = some (Char.ofNat n) := by
    decide +kernel
  rw [hall c.toNat (by omega), Char.ofNat_toNat]

/-- Of the control characters, only tabs and line feeds are no codes. -/
theorem isForbiddenControl_of_not_isCode {c : Char} (hcode : isCode c = false) (hbreak : c ≠ '\n') :
    isForbiddenControl c = false := by
  simp_all [isForbiddenControl, isCode]

/-- The mode within a basic text. -/
def basicMode (multiline : Bool) (read : List Char) : Mode :=
  if multiline then .multiBasic read false else .basic read

/-- A character that means nothing else is read as it is. -/
theorem lexFrom_basicMode_cons {c : Char} (hquote : c ≠ '"') (hslash : c ≠ '\\')
    (hcontrol : isForbiddenControl c = false) (multiline : Bool) (read cs : List Char) :
    lexFrom (basicMode multiline read) (c :: cs) = lexFrom (basicMode multiline (c :: read)) cs := by
  cases multiline with
  | false =>
      change lexFrom (.basic read) (c :: cs) = _
      rw [lexFrom]
      · simp [hslash, hcontrol, basicMode]
      all_goals simp_all
  | true =>
      have hreturn : c ≠ '\r' := by
        rintro rfl
        cases hcontrol
      change lexFrom (.multiBasic read false) (c :: cs) = _
      rw [lexFrom]
      · simp [hslash, hcontrol, basicMode]
      all_goals simp_all

/-- A character other than a quote is read back. -/
theorem lexFrom_escapedPlain {c : Char} (hquote : c ≠ '"') (multiline : Bool) (read cs : List Char) :
    lexFrom (basicMode multiline read) (escapedPlain multiline c ++ cs) =
      lexFrom (basicMode multiline (c :: read)) cs := by
  unfold escapedPlain
  split
  next => cases multiline <;> rfl
  next => cases multiline <;> rfl
  next => cases multiline <;> rfl
  next => cases multiline <;> rfl
  next => cases multiline <;> rfl
  next => cases multiline <;> rfl
  next c' hbackspace htab hfeed hpage hreturn hslash =>
    split
    next hcode =>
      have hread := escapedByNumber?_upperHexDigit (c := c) (by simpa using hcode)
      cases multiline with
      | false =>
          change (escapedByNumber? _).bind _ = _
          rw [hread]
          rfl
      | true =>
          change (escapedByNumber? _).bind _ = _
          rw [hread]
          rfl
    next hcode =>
      refine lexFrom_basicMode_cons hquote hslash ?_ multiline read cs
      simp_all [isForbiddenControl]

/-! ### Between three quotes -/

/-- The mode within a text between three quotes `q`. -/
def tripleMode (q : Char) (read : List Char) : Mode :=
  if q = '"' then .multiBasic read false else .multiLiteral read

/-- Up to two quotes may stand before the closing ones. -/
theorem lexFrom_tripleMode_close {q : Char} (hq : q = '"' ∨ q = '\'') {k : Nat} (hk : k ≤ 2)
    (read : List Char) {rest : List Char} (hrest : rest.head? ≠ some q) :
    lexFrom (tripleMode q read) (List.replicate k q ++ q :: q :: q :: rest) =
      (.quoted (textRead (List.replicate k q ++ read)) true :: ·) <$> lexFrom .plain rest := by
  have hhead : ∀ cs, rest ≠ q :: cs := fun cs heq => hrest (by rw [heq]; rfl)
  have hcases : k = 0 ∨ k = 1 ∨ k = 2 := by omega
  rcases hq with rfl | rfl
  · rcases hcases with rfl | rfl | rfl
    · change lexFrom (.multiBasic read false) ('"' :: '"' :: '"' :: rest) = _
      rw [lexFrom]
      · rfl
      · exact fun cs heq => hhead _ heq
      · exact fun cs heq => hhead _ heq
    · change lexFrom (.multiBasic read false) ('"' :: '"' :: '"' :: '"' :: rest) = _
      rw [lexFrom]
      · rfl
      · exact fun cs heq => hhead _ heq
    · rfl
  · rcases hcases with rfl | rfl | rfl
    · change lexFrom (.multiLiteral read) ('\'' :: '\'' :: '\'' :: rest) = _
      rw [lexFrom]
      · rfl
      · exact fun cs heq => hhead _ heq
      · exact fun cs heq => hhead _ heq
    · change lexFrom (.multiLiteral read) ('\'' :: '\'' :: '\'' :: '\'' :: rest) = _
      rw [lexFrom]
      · rfl
      · exact fun cs heq => hhead _ heq
    · rfl

/-- A quote that is not the first of three is read as it is. -/
theorem lexFrom_tripleMode_quote {q : Char} (hq : q = '"' ∨ q = '\'') (read : List Char)
    {cs : List Char} (h : ∀ ds, cs ≠ q :: q :: ds) :
    lexFrom (tripleMode q read) (q :: cs) = lexFrom (tripleMode q (q :: read)) cs := by
  rcases hq with rfl | rfl
  · change lexFrom (.multiBasic read false) ('"' :: cs) = _
    rw [lexFrom]
    · rfl
    all_goals simp_all
  · change lexFrom (.multiLiteral read) ('\'' :: cs) = _
    rw [lexFrom]
    · rfl
    all_goals simp_all

/-- Characters `w` show a text between three quotes `q`, where `run` quotes lie directly before:
no more than two of them stand together, and what else is written is read back. -/
inductive Shows (q : Char) : (run : Nat) → (w text : List Char) → Prop
  | nil {run : Nat} : Shows q run [] []
  | quote {run : Nat} {w text : List Char} :
      run < 2 → Shows q (run + 1) w text → Shows q run (q :: w) (q :: text)
  | other {run : Nat} {c d : Char} {v w text : List Char} : d ≠ q →
      (∀ read rest, lexFrom (tripleMode q read) (d :: v ++ rest) =
        lexFrom (tripleMode q (c :: read)) rest) →
      Shows q 0 w text → Shows q run (d :: v ++ w) (c :: text)

/-- What shows a text is read as that text up to the closing quotes. -/
theorem Shows.lexFrom_append {q : Char} (hq : q = '"' ∨ q = '\'') {rest : List Char}
    (hrest : rest.head? ≠ some q) {run : Nat} {w text : List Char} (h : Shows q run w text) :
    ∀ read, lexFrom (tripleMode q read) (w ++ q :: q :: q :: rest) =
      (.quoted (textRead (text.reverse ++ read)) true :: ·) <$> lexFrom .plain rest := by
  induction h with
  | nil => exact fun read => lexFrom_tripleMode_close hq (Nat.zero_le 2) read hrest
  | @other run c d v w text hd hread hshows ih =>
      intro read
      rw [List.append_assoc, hread, ih]
      simp
  | @quote run w text hrun hshows ih =>
      intro read
      -- unless only quotes are left, this one is not the first of three
      have hstep : (∀ ds, w ++ q :: q :: q :: rest ≠ q :: q :: ds) →
          lexFrom (tripleMode q read) (q :: w ++ q :: q :: q :: rest) =
            (.quoted (textRead ((q :: text).reverse ++ read)) true :: ·) <$> lexFrom .plain rest := by
        intro hne
        rw [List.cons_append, lexFrom_tripleMode_quote hq read hne, ih]
        simp
      cases hshows with
      | nil => exact lexFrom_tripleMode_close hq (k := 1) (by omega) read hrest
      | other hd => exact hstep (by simp [hd])
      | quote hrun' hshows' =>
          cases hshows' with
          | nil => exact lexFrom_tripleMode_close hq (k := 2) (by omega) read hrest
          | other hd => exact hstep (by simp [hd])
          | quote hrun'' => omega

/-- What is written for a character starts with neither a quote nor a line break, unless it is
one itself. -/
theorem escapedPlain_eq_cons {c : Char} (hquote : c ≠ '"') (multiline : Bool) :
    ∃ d v, escapedPlain multiline c = d :: v ∧ d ≠ '"' ∧ d ≠ '\r' ∧ (c ≠ '\n' → d ≠ '\n') := by
  unfold escapedPlain
  split
  case h_3 => cases multiline <;> exact ⟨_, _, rfl, by decide, by decide, fun h => absurd rfl h⟩
  case h_7 hreturn _ =>
    split
    · exact ⟨_, _, rfl, by decide, by decide, fun _ => by decide⟩
    · exact ⟨_, _, rfl, hquote, hreturn, id⟩
  all_goals exact ⟨_, _, rfl, by decide, by decide, fun _ => by decide⟩

/-- With escapes, every text is shown between double quotes. -/
theorem shows_escapedText (cs : List Char) : ∀ run, Shows '"' run (escapedText true run cs) cs := by
  induction cs with
  | nil => exact fun run => .nil
  | cons c cs ih =>
      intro run
      rw [escapedText]
      split
      next hc =>
        subst hc
        by_cases hrun : run < 2
        · rw [if_pos rfl, if_pos hrun]
          exact .quote hrun (ih _)
        · rw [if_pos rfl, if_neg hrun]
          exact .other (v := ['"']) (by decide) (fun _ _ => rfl) (ih 0)
      next hc =>
        obtain ⟨d, v, heq, hd, -⟩ := escapedPlain_eq_cons hc true
        have hread := lexFrom_escapedPlain hc true
        rw [heq] at hread ⊢
        exact .other hd hread (ih 0)

theorem le_longestRun (q : Char) (cs : List Char) : ∀ run, run ≤ longestRun q run cs := by
  induction cs with
  | nil => exact fun run => Nat.le_refl run
  | cons c cs ih =>
      intro run
      rw [longestRun]
      split
      · exact Nat.le_of_succ_le (ih (run + 1))
      · exact Nat.le_max_left _ _

/-- Without escapes, a text is shown between single quotes if it has no three of them in a row. -/
theorem shows_of_longestRun {cs : List Char} (hcodes : ∀ c ∈ cs, isCode c = false) :
    ∀ {run}, longestRun '\'' run cs < 3 → Shows '\'' run cs cs := by
  induction cs with
  | nil => exact fun _ => .nil
  | cons c cs ih =>
      intro run hrun
      obtain ⟨hc, hcs⟩ := List.forall_mem_cons.mp hcodes
      rw [longestRun] at hrun
      split at hrun
      next heq =>
        subst heq
        have hle := le_longestRun '\'' cs (run + 1)
        exact .quote (by omega) (ih hcs hrun)
      next hne =>
        refine .other (v := []) hne (fun read rest => ?_) (ih hcs (by omega))
        have hreturn : c ≠ '\r' := by
          rintro rfl
          cases hc
        change lexFrom (.multiLiteral read) (c :: rest) = _
        rw [lexFrom]
        · rw [if_neg]
          · rfl
          · simp_all [isForbiddenControl, isCode]
        all_goals simp_all

/-! ### Between single quotes -/

/-- With escapes, every text is read back between two double quotes. -/
theorem lexFrom_basic_escapedText (rest cs : List Char) : ∀ read,
    lexFrom (.basic read) (escapedText false 0 cs ++ '"' :: rest) =
      (.quoted (textRead (cs.reverse ++ read)) false :: ·) <$> lexFrom .plain rest := by
  induction cs with
  | nil => exact fun read => rfl
  | cons c cs ih =>
      intro read
      have hsplit : (c :: cs).reverse ++ read = cs.reverse ++ c :: read := by simp
      rw [escapedText, hsplit]
      split
      next hc =>
        subst hc
        exact ih _
      next hc =>
        rw [List.append_assoc]
        exact (lexFrom_escapedPlain hc false read _).trans (ih _)

/-- Without escapes, a text is read back between two single quotes if it has none. -/
theorem lexFrom_literal (rest : List Char) {cs : List Char} (hcodes : ∀ c ∈ cs, isCode c = false)
    (hquote : '\'' ∉ cs) (hbreak : '\n' ∉ cs) : ∀ read,
    lexFrom (.literal read) (cs ++ '\'' :: rest) =
      (.quoted (textRead (cs.reverse ++ read)) false :: ·) <$> lexFrom .plain rest := by
  induction cs with
  | nil => exact fun read => rfl
  | cons c cs ih =>
      intro read
      have hsplit : (c :: cs).reverse ++ read = cs.reverse ++ c :: read := by simp
      obtain ⟨hc, hcs⟩ := List.forall_mem_cons.mp hcodes
      rw [List.mem_cons, not_or] at hquote hbreak
      have hcontrol := isForbiddenControl_of_not_isCode hc (Ne.symm hbreak.1)
      rw [List.cons_append, hsplit, ← ih hcs hquote.2 hbreak.2, lexFrom]
      · rw [hcontrol]
        rfl
      · exact fun heq => hquote.1 heq.symm

/-! ### Quoted texts -/

theorem lexFrom_plain_double {cs : List Char} (h : ∀ ds, cs ≠ '"' :: '"' :: ds) :
    lexFrom .plain ('"' :: cs) = lexFrom (.basic []) cs := by
  rw [lexFrom] <;> simp_all

theorem lexFrom_plain_single {cs : List Char} (h : ∀ ds, cs ≠ '\'' :: '\'' :: ds) :
    lexFrom .plain ('\'' :: cs) = lexFrom (.literal []) cs := by
  rw [lexFrom] <;> simp_all

/-- A line break right after three opening quotes is dropped. -/
theorem lexFrom_plain_triple {q : Char} (hq : q = '"' ∨ q = '\'') {text w : List Char}
    (h : '\n' ∉ text → w.head? ≠ some '\n' ∧ w.head? ≠ some '\r') :
    lexFrom .plain (q :: q :: q :: (openingBreak text ++ w)) = lexFrom (tripleMode q []) w := by
  by_cases hbreak : '\n' ∈ text
  · rw [openingBreak, if_pos (List.contains_iff_mem.mpr hbreak)]
    rcases hq with rfl | rfl <;> rfl
  · obtain ⟨hfeed, hreturn⟩ := h hbreak
    rw [openingBreak, if_neg (mt List.contains_iff_mem.mp hbreak), List.nil_append]
    rcases hq with rfl | rfl
    · rw [lexFrom]
      · rfl
      all_goals
        rintro cs rfl
        first | exact hreturn rfl | exact hfeed rfl
    · rw [lexFrom]
      · rfl
      all_goals
        rintro cs rfl
        first | exact hreturn rfl | exact hfeed rfl

section Forms

variable {cs rest : List Char}

theorem lexFrom_basicForm (hrest : rest.head? ≠ some '"') :
    lexFrom .plain (basicForm cs ++ rest) =
      (.quoted (String.ofList cs) false :: ·) <$> lexFrom .plain rest := by
  have hopening : ∀ ds, escapedText false 0 cs ++ '"' :: rest ≠ '"' :: '"' :: ds := by
    intro ds heq
    cases cs with
    | nil =>
        rw [escapedText, List.nil_append, List.cons.injEq] at heq
        exact hrest (by rw [heq.2]; rfl)
    | cons c cs =>
        rw [escapedText] at heq
        split at heq
        · cases heq
        next hc =>
          obtain ⟨d, v, hwritten, hd, -⟩ := escapedPlain_eq_cons hc false
          rw [hwritten] at heq
          exact hd (List.cons.inj heq).1
  have hform : basicForm cs ++ rest = '"' :: (escapedText false 0 cs ++ '"' :: rest) := by
    simp [basicForm]
  rw [hform, lexFrom_plain_double hopening, lexFrom_basic_escapedText]
  simp [textRead]

theorem lexFrom_literalForm (h : isLiteral cs = true) (hrest : rest.head? ≠ some '\'') :
    lexFrom .plain (literalForm cs ++ rest) =
      (.quoted (String.ofList cs) false :: ·) <$> lexFrom .plain rest := by
  have hliteral : ((∀ c ∈ cs, isCode c = false) ∧ '\'' ∉ cs) ∧ '\n' ∉ cs := by
    simpa [isLiteral] using h
  obtain ⟨⟨hcodes, hquote⟩, hbreak⟩ := hliteral
  have hopening : ∀ ds, cs ++ '\'' :: rest ≠ '\'' :: '\'' :: ds := by
    intro ds heq
    cases cs with
    | nil => exact hrest (by rw [(List.cons.inj heq).2]; rfl)
    | cons c cs => exact hquote (by rw [(List.cons.inj heq).1]; exact List.mem_cons_self)
  have hform : literalForm cs ++ rest = '\'' :: (cs ++ '\'' :: rest) := by simp [literalForm]
  rw [hform, lexFrom_plain_single hopening, lexFrom_literal rest hcodes hquote hbreak]
  simp [textRead]

theorem lexFrom_multiBasicForm (hrest : rest.head? ≠ some '"') :
    lexFrom .plain (multiBasicForm cs ++ rest) =
      (.quoted (String.ofList cs) true :: ·) <$> lexFrom .plain rest := by
  have hopening : '\n' ∉ cs →
      (escapedText true 0 cs ++ '"' :: '"' :: '"' :: rest).head? ≠ some '\n' ∧
        (escapedText true 0 cs ++ '"' :: '"' :: '"' :: rest).head? ≠ some '\r' := by
    intro hbreak
    cases cs with
    | nil => exact ⟨by simp [escapedText], by simp [escapedText]⟩
    | cons c cs =>
        rw [List.mem_cons, not_or] at hbreak
        rw [escapedText]
        split
        · exact ⟨by simp, by simp⟩
        next hc =>
          obtain ⟨d, v, hwritten, -, hreturn, hfeed⟩ := escapedPlain_eq_cons hc true
          rw [hwritten]
          exact ⟨by simp [hfeed (Ne.symm hbreak.1)], by simp [hreturn]⟩
  have hform : multiBasicForm cs ++ rest = '"' :: '"' :: '"' ::
      (openingBreak cs ++ (escapedText true 0 cs ++ '"' :: '"' :: '"' :: rest)) := by
    simp [multiBasicForm]
  rw [hform, lexFrom_plain_triple (Or.inl rfl) hopening,
    (shows_escapedText cs 0).lexFrom_append (Or.inl rfl) hrest]
  simp [textRead]

theorem lexFrom_multiLiteralForm (h : isMultiLiteral cs = true) (hrest : rest.head? ≠ some '\'') :
    lexFrom .plain (multiLiteralForm cs ++ rest) =
      (.quoted (String.ofList cs) true :: ·) <$> lexFrom .plain rest := by
  have hliteral : (∀ c ∈ cs, isCode c = false) ∧ longestRun '\'' 0 cs < 3 := by
    simpa [isMultiLiteral] using h
  obtain ⟨hcodes, hrun⟩ := hliteral
  have hopening : '\n' ∉ cs → (cs ++ '\'' :: '\'' :: '\'' :: rest).head? ≠ some '\n' ∧
      (cs ++ '\'' :: '\'' :: '\'' :: rest).head? ≠ some '\r' := by
    intro hbreak
    cases cs with
    | nil => exact ⟨by simp, by simp⟩
    | cons c cs =>
        rw [List.mem_cons, not_or] at hbreak
        have hreturn : c ≠ '\r' := by
          rintro rfl
          cases hcodes '\r' List.mem_cons_self
        exact ⟨by simp [Ne.symm hbreak.1], by simp [hreturn]⟩
  have hform : multiLiteralForm cs ++ rest = '\'' :: '\'' :: '\'' ::
      (openingBreak cs ++ (cs ++ '\'' :: '\'' :: '\'' :: rest)) := by
    simp [multiLiteralForm]
  rw [hform, lexFrom_plain_triple (Or.inr rfl) hopening,
    (shows_of_longestRun hcodes hrun).lexFrom_append (Or.inr rfl) hrest]
  simp [textRead]

end Forms

/-- **A text that is written is read back**, character for character and as one token, and what
stands on the next line is read like before. -/
theorem lexFrom_writtenChars (cs : List Char) : ∃ multiline, ∀ rest,
    lexFrom .plain (writtenChars cs ++ '\n' :: rest) =
      (.quoted (String.ofList cs) multiline :: ·) <$> lexFrom .plain ('\n' :: rest) := by
  have hdouble : ∀ rest, ('\n' :: rest).head? ≠ some '"' := fun rest => by simp
  have hsingle : ∀ rest, ('\n' :: rest).head? ≠ some '\'' := fun rest => by simp
  unfold writtenChars
  split
  · exact ⟨_, fun rest => lexFrom_basicForm (hdouble rest)⟩
  split
  next h => exact ⟨_, fun rest => lexFrom_literalForm h (hsingle rest)⟩
  split
  · exact ⟨_, fun rest => lexFrom_multiBasicForm (hdouble rest)⟩
  split
  next h => exact ⟨_, fun rest => lexFrom_multiLiteralForm h (hsingle rest)⟩
  split
  · exact ⟨_, fun rest => lexFrom_multiBasicForm (hdouble rest)⟩
  · exact ⟨_, fun rest => lexFrom_basicForm (hdouble rest)⟩

end BuilderGen.Toml
