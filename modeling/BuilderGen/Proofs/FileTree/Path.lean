import BuilderGen.FileTree.Path
import BuilderGen.Proofs.Text.Segments
import Mathlib.Data.List.Induction
import Mathlib.Tactic.Conv

/-!
# BuilderGen.Proofs.FileTree.Path

**The moves of a path**: its steps without those that lead nowhere. Joining two paths
puts their moves one after another (`moves_join`), and the directory of a path has the
moves before its name (`moves_directoryOf`). Empty parts, single dots and slashes at
the end are treated in many ways on the way there, but none of them is a move.
-/

namespace BuilderGen.Path

open Text (segments joinWith)

/-! ### Parts -/

/-- A slash ends what stands before it. -/
theorem parts_append (a b : String) : parts (a ++ "/" ++ b) = parts a ++ parts b :=
  Text.segments_append_char rfl a b

theorem parts_slash (b : String) : parts ("/" ++ b) = "" :: parts b :=
  parts_append "" b

theorem parts_ne_nil (path : String) : parts path ≠ [] := Text.segments_ne_nil _ _

theorem not_mem_of_mem_parts {path part : String} (h : part ∈ parts path) :
    '/' ∉ part.toList :=
  Text.not_mem_of_mem_segments rfl h

theorem parts_joinWith {texts : List String} (hne : texts ≠ [])
    (h : ∀ text ∈ texts, '/' ∉ text.toList) : parts (joinWith "/" texts) = texts :=
  Text.segments_joinWith rfl hne h

theorem joinWith_parts (path : String) : joinWith "/" (parts path) = path :=
  Text.joinWith_segments (by decide) path

/-- A path is absolute when its first part is empty and others follow. -/
theorem isAbsolute_iff {path : String} :
    isAbsolute path = true ↔ ∃ part rest, parts path = "" :: part :: rest := by
  refine ⟨fun h => ?_, fun h => ?_⟩
  · rw [isAbsolute, beq_iff_eq, List.head?_eq_some_iff] at h
    obtain ⟨cs, hcs⟩ := h
    have hpath : path = "/" ++ String.ofList cs := by
      rw [← String.toList_inj, hcs]
      simp
    obtain ⟨part, rest, hrest⟩ := List.exists_cons_of_ne_nil (parts_ne_nil (String.ofList cs))
    exact ⟨part, rest, by rw [hpath, parts_slash, hrest]⟩
  · obtain ⟨part, rest, hparts⟩ := h
    rw [← joinWith_parts path, hparts, Text.joinWith_cons (by simp)]
    simp [isAbsolute]

/-! ### Idle parts -/

theorem dropIdleEnd_append_singleton (parts : List String) (part : String) :
    dropIdleEnd (parts ++ [part]) =
      if isIdle part then dropIdleEnd parts else parts ++ [part] := by
  by_cases h : isIdle part = true
  · simp [dropIdleEnd, h]
  · simp [dropIdleEnd, h]

theorem dropIdleEnd_isPrefix (parts : List String) : dropIdleEnd parts <+: parts := by
  have hsuffix := List.dropWhile_suffix (l := parts.reverse) isIdle
  rwa [← List.reverse_prefix, List.reverse_reverse] at hsuffix

/-! ### Moves -/

/-- The steps of pieces that lead somewhere. -/
def movesOf (pieces : List Name) : List Step := (pieces.map step).filter (· ≠ .stay)

/-- The steps of a path that lead somewhere. -/
def moves (path : String) : List Step := movesOf (pieces path)

theorem movesOf_append (front back : List Name) :
    movesOf (front ++ back) = movesOf front ++ movesOf back := by
  simp [movesOf]

/-- The steps of parts that lead somewhere. -/
def movesOfParts (parts : List String) : List Step := movesOf (parts.map .text)

theorem moves_eq (path : String) : moves path = movesOfParts (parts path) := rfl

theorem movesOfParts_append (front back : List String) :
    movesOfParts (front ++ back) = movesOfParts front ++ movesOfParts back := by
  rw [movesOfParts, List.map_append, movesOf_append]
  rfl

theorem movesOfParts_idle {part : String} (h : isIdle part = true) : movesOfParts [part] = [] := by
  simp [movesOfParts, movesOf, step, h]

theorem movesOfParts_cons_idle {part : String} (h : isIdle part = true) (rest : List String) :
    movesOfParts (part :: rest) = movesOfParts rest := by
  rw [← List.singleton_append, movesOfParts_append, movesOfParts_idle h, List.nil_append]

theorem movesOfParts_dropIdleEnd (parts : List String) :
    movesOfParts (dropIdleEnd parts) = movesOfParts parts := by
  induction parts using List.reverseRecOn with
  | nil => rfl
  | append_singleton parts part ih =>
      rw [dropIdleEnd_append_singleton, movesOfParts_append]
      by_cases h : isIdle part = true
      · rw [if_pos h, ih, movesOfParts_idle h, List.append_nil]
      · rw [if_neg h, movesOfParts_append]

theorem moves_joinWith {texts : List String} (h : ∀ text ∈ texts, '/' ∉ text.toList) :
    moves (joinWith "/" texts) = movesOfParts texts := by
  by_cases hnil : texts = []
  · rw [hnil]
    rfl
  · rw [moves_eq, parts_joinWith hnil h]

/-! ### The directory of a path -/

theorem directoryOf_ne_empty (path : String) : directoryOf path ≠ "" := by
  rw [directoryOf]
  split
  next parent _ =>
    split
    next => decide
    next h => simpa using h
  next => decide

/-- Before a name that is no idle part, the parent has the parts up to the last one
that is not idle either. -/
theorem parent?_of_splitHead {path head name : String} {front : List String}
    (h : splitHead path = (head, front ++ [name])) (hname : isIdle name = false) :
    parent? path = some (head ++ joinWith "/" (dropIdleEnd front)) := by
  have hkeep : dropIdleEnd (front ++ [name]) = front ++ [name] := by
    rw [dropIdleEnd_append_singleton, hname]
    rfl
  obtain ⟨part, rest, hcons⟩ := List.exists_cons_of_ne_nil
    (show front ++ [name] ≠ [] by simp)
  simp only [parent?, h, hkeep]
  rw [hcons]
  simp only [← hcons, List.dropLast_concat]

/-- The moves of a directory are those of the parent, also where a dot stands for it. -/
theorem moves_directoryOf_of_parent? {path parent : String} (h : parent? path = some parent) :
    moves (directoryOf path) = moves parent ∧
      isAbsolute (directoryOf path) = isAbsolute parent := by
  rw [directoryOf, h]
  by_cases hempty : parent = ""
  · rw [hempty]
    exact ⟨rfl, rfl⟩
  · simp [hempty]

/-- The three ways a path starts, and the rest. -/
theorem splitHead_cases (path : String) :
    (∃ text, path = "/" ++ text ∧ splitHead path = ("/", parts text)) ∨
    (path = "." ∧ splitHead path = (".", [])) ∨
    (∃ text, path = "." ++ "/" ++ text ∧ splitHead path = (".", "" :: parts text)) ∨
    (isAbsolute path = false ∧ splitHead path = ("", parts path)) := by
  unfold splitHead
  split
  next rest h =>
      refine Or.inl ⟨String.ofList rest, ?_, rfl⟩
      rw [← String.toList_inj, h]
      simp
  next h => exact Or.inr (Or.inl ⟨by rw [← String.toList_inj, h]; rfl, rfl⟩)
  next rest h =>
      refine Or.inr (Or.inr (Or.inl ⟨String.ofList rest, ?_, rfl⟩))
      rw [← String.toList_inj, h]
      simp
  next hslash _ _ =>
      refine Or.inr (Or.inr (Or.inr ⟨?_, rfl⟩))
      rw [isAbsolute, beq_eq_false_iff_ne, ne_eq, List.head?_eq_some_iff, not_exists]
      exact hslash

/-- Pieces that end with a name, and of which the first is known. -/
theorem exists_of_cons_parts {first name text : String} {front : List String}
    (h : first :: parts text = front ++ [name]) :
    ∃ rest, front = first :: rest ∧ parts text = rest ++ [name] := by
  cases front with
  | nil =>
      rw [List.nil_append, List.cons.injEq] at h
      exact absurd h.2 (parts_ne_nil text)
  | cons part rest =>
      rw [List.cons_append, List.cons.injEq] at h
      exact ⟨rest, by rw [h.1], h.2⟩

/-- A dot in front of a slash is no move. -/
theorem moves_dot_append {rest : List String} (h : ∀ part ∈ rest, '/' ∉ part.toList) :
    moves ("." ++ joinWith "/" ("" :: rest)) = movesOfParts rest := by
  by_cases hnil : rest = []
  · rw [hnil]
    rfl
  · rw [Text.joinWith_cons hnil, String.empty_append, ← String.append_assoc, moves_eq, parts_append,
      parts_joinWith hnil h]
    exact movesOfParts_cons_idle (by decide) rest

/-- The directory of a path that ends with a name has the moves before the name. -/
theorem moves_directoryOf_of_parts {path : String} {front : List String} {name : String}
    (hparts : parts path = front ++ [name]) (hname : isIdle name = false) :
    moves (directoryOf path) = movesOfParts front ∧
      isAbsolute (directoryOf path) = isAbsolute path := by
  have hslash : ∀ part ∈ front, '/' ∉ part.toList := fun part hpart =>
    not_mem_of_mem_parts (by rw [hparts]; simp [hpart])
  rcases splitHead_cases path with
    ⟨text, rfl, hhead⟩ | ⟨rfl, hhead⟩ | ⟨text, rfl, hhead⟩ | ⟨habs, hhead⟩
  · -- a slash stays in front
    rw [parts_slash] at hparts
    obtain ⟨rest, rfl, hrest⟩ := exists_of_cons_parts hparts
    rw [hrest] at hhead
    obtain ⟨hmoves, habs⟩ := moves_directoryOf_of_parent? (parent?_of_splitHead hhead hname)
    refine ⟨?_, by rw [habs]; simp [isAbsolute]⟩
    rw [hmoves, moves_eq, parts_slash, movesOfParts_cons_idle (by decide), movesOfParts_cons_idle (by decide),
      ← moves_eq, moves_joinWith fun part hpart => hslash part ?_, movesOfParts_dropIdleEnd]
    exact List.mem_cons_of_mem _ ((dropIdleEnd_isPrefix rest).mem hpart)
  · -- a dot alone is no name
    obtain ⟨-, hdot⟩ := List.append_inj' (show [] ++ ["."] = front ++ [name] from hparts) rfl
    rw [← (List.cons.inj hdot).1] at hname
    cases hname
  · -- a dot stays in front, and the slash after it unless nothing follows
    rw [parts_append] at hparts
    obtain ⟨rest, rfl, hrest⟩ := exists_of_cons_parts hparts
    rw [hrest, ← List.cons_append] at hhead
    obtain ⟨hmoves, habs⟩ := moves_directoryOf_of_parent? (parent?_of_splitHead hhead hname)
    refine ⟨?_, by rw [habs]; simp [isAbsolute]⟩
    have hkept := movesOfParts_dropIdleEnd ("" :: rest)
    rw [movesOfParts_cons_idle (by decide) rest] at hkept
    rw [hmoves, movesOfParts_cons_idle (by decide), ← hkept]
    rcases List.prefix_cons_iff.mp (dropIdleEnd_isPrefix ("" :: rest)) with h | ⟨some, h, hkept⟩
    · rw [h]
      rfl
    · rw [h, movesOfParts_cons_idle (by decide)]
      exact moves_dot_append fun part hpart =>
        hslash part (List.mem_cons_of_mem _ (hkept.mem hpart))
  · -- the parts are those of the path
    rw [hparts] at hhead
    obtain ⟨hmoves, habs'⟩ := moves_directoryOf_of_parent? (parent?_of_splitHead hhead hname)
    have hkept := dropIdleEnd_isPrefix front
    rw [String.empty_append] at hmoves habs'
    rw [moves_joinWith fun part hpart => hslash part (hkept.mem hpart),
      movesOfParts_dropIdleEnd] at hmoves
    refine ⟨hmoves, ?_⟩
    rw [habs', habs, Bool.eq_false_iff, ne_eq, isAbsolute_iff]
    -- if the parent started with a slash, so would the path
    intro h
    obtain ⟨part, rest, h⟩ := h
    by_cases hnil : dropIdleEnd front = []
    · rw [hnil] at h
      cases h
    · rw [parts_joinWith hnil fun part hpart => hslash part (hkept.mem hpart)] at h
      rw [h] at hkept
      obtain ⟨more, rfl⟩ := hkept
      rw [Bool.eq_false_iff, ne_eq, isAbsolute_iff] at habs
      exact habs ⟨part, rest ++ more ++ [name], by simpa using hparts⟩

/-! ### Pieces -/

/-- No slash is in a name. -/
def NoSlash : Name → Prop
  | .text part => '/' ∉ part.toList
  | .raw bytes _ => 0x2F ∉ bytes

/-- A piece that names an entry. -/
def IsName : Name → Prop
  | .text part => isIdle part = false ∧ part ≠ ".."
  | .raw .. => True

theorem IsName.step {piece : Name} (h : IsName piece) : Path.step piece = .into piece := by
  cases piece with
  | text part => rw [Path.step, h.1, if_neg (by simp), if_neg h.2]
  | raw bytes hraw => rfl

theorem eq_of_step_eq_into {piece name : Name} (h : step piece = .into name) :
    piece = name ∧ IsName name := by
  cases piece with
  | raw bytes hraw =>
      obtain rfl := Step.into.inj h
      exact ⟨rfl, trivial⟩
  | text part =>
      rw [step] at h
      split at h
      next => cases h
      next hidle =>
        split at h
        next => cases h
        next hup =>
          obtain rfl := Step.into.inj h
          exact ⟨rfl, by simpa using hidle, hup⟩

theorem step_eq_into_iff {piece : Name} : step piece = .into piece ↔ IsName piece :=
  ⟨fun h => (eq_of_step_eq_into h).2, IsName.step⟩

theorem pieces_ne_nil (path : String) : pieces path ≠ [] := by
  simpa [pieces] using parts_ne_nil path

/-- A path is told by its pieces. -/
theorem pieces_inj {path path' : String} : pieces path = pieces path' ↔ path = path' := by
  refine ⟨fun h => ?_, congrArg pieces⟩
  have hparts : parts path = parts path' :=
    (List.map_inj_right fun _ _ => Name.text.inj).mp h
  rw [← joinWith_parts path, hparts, joinWith_parts]

theorem noSlash_of_mem_pieces {path : String} {piece : Name} (h : piece ∈ pieces path) :
    NoSlash piece := by
  obtain ⟨part, hpart, rfl⟩ := List.mem_map.mp h
  exact not_mem_of_mem_parts hpart

/-- Pieces that end with one are those of parts. -/
theorem exists_parts_of_pieces {path : String} {front : List Name} {name : Name}
    (h : pieces path = front ++ [name]) :
    ∃ before part, parts path = before ++ [part] ∧ front = before.map .text ∧
      name = .text part := by
  obtain ⟨before, last, hparts, rfl, hlast⟩ := List.map_eq_append_iff.mp h
  obtain ⟨part, hlast', rfl⟩ := List.map_eq_singleton_iff.mp hlast
  exact ⟨before, part, by rw [hparts, hlast'], rfl, rfl⟩

/-- Names are moves. -/
theorem movesOf_names {names : List Name} (h : ∀ name ∈ names, IsName name) :
    movesOf names = names.map .into := by
  have hsteps : names.map Path.step = names.map .into :=
    List.map_congr_left fun name hname => (h name hname).step
  rw [movesOf, hsteps, List.filter_eq_self]
  simp

/-- The directory of a path that ends with a name has the moves before the name. -/
theorem moves_directoryOf {path : String} {front : List Name} {name : Name}
    (hpieces : pieces path = front ++ [name]) (hname : IsName name) :
    moves (directoryOf path) = movesOf front ∧
      isAbsolute (directoryOf path) = isAbsolute path := by
  obtain ⟨before, part, hparts, rfl, rfl⟩ := exists_parts_of_pieces hpieces
  exact moves_directoryOf_of_parts hparts hname.1

end BuilderGen.Path

/-! ### Texts as paths -/

namespace BuilderGen.RawPath

open Text (joinWith)

theorem bytesBetween_cons {names : List Name} (h : names ≠ []) (name : Name) :
    bytesBetween (name :: names) = name.byteCount + 1 + bytesBetween names := by
  cases names with
  | nil => exact absurd rfl h
  | cons next rest => rfl

theorem bytesBetween_map_text (parts : List String) :
    bytesBetween (parts.map .text) = Text.byteCount (joinWith "/" parts).toList := by
  induction parts with
  | nil => rfl
  | cons part rest ih =>
      by_cases hnil : rest = []
      · rw [hnil]
        rfl
      · rw [List.map_cons, bytesBetween_cons (by simpa using hnil), ih, Text.joinWith_cons hnil,
          String.toList_append, String.toList_append, Text.byteCount_append, Text.byteCount_append]
        rfl

@[simp] theorem byteCount_ofText (path : String) :
    (ofText path).byteCount = Text.byteCount path.toList := by
  rw [byteCount, ofText, Path.pieces, bytesBetween_map_text, Path.joinWith_parts]

@[simp] theorem steps_ofText (path : String) : (ofText path).steps = Path.steps path := rfl

/-- The steps of a path that lead somewhere. -/
def moves (path : RawPath) : List Path.Step := Path.movesOf path.pieces

@[simp] theorem moves_ofText (path : String) : (ofText path).moves = Path.moves path := rfl

@[simp] theorem isAbsolute_ofText (path : String) :
    (ofText path).isAbsolute = Path.isAbsolute path := by
  rw [Bool.eq_iff_iff, Path.isAbsolute_iff, isAbsolute, ofText, Path.pieces]
  rcases Path.parts path with _ | ⟨part, _ | ⟨next, rest⟩⟩ <;> simp

theorem any_hasNull_pieces (path : String) :
    (Path.pieces path).any Name.hasNull = path.toList.contains '\x00' := by
  have hmem : ∀ parts : List String,
      ((parts.map Name.text).any Name.hasNull = true ↔
        '\x00' ∈ (joinWith "/" parts).toList) := by
    intro parts
    induction parts with
    | nil => simp
    | cons part rest ih =>
        cases rest with
        | nil => simp [Name.hasNull]
        | cons next rest =>
            rw [List.map_cons, List.any_cons, Bool.or_eq_true, ih, Text.joinWith_cons_cons]
            simp [Name.hasNull]
  rw [Bool.eq_iff_iff, Path.pieces, hmem, Path.joinWith_parts, List.contains_iff_mem]

theorem byteCount_ofText_eq_zero_iff {path : String} :
    (ofText path).byteCount = 0 ↔ path = "" := by
  rw [byteCount_ofText, ← String.toList_eq_nil_iff]
  cases path.toList with
  | nil => simp
  | cons c cs =>
      have hc := c.utf8Size_pos
      simp only [Text.byteCount_cons, reduceCtorEq, iff_false]
      omega

@[simp] theorem isUsable_ofText (path : String) :
    (ofText path).isUsable = Path.isUsable path := by
  have hempty : ((ofText path).byteCount != 0) = !path.isEmpty := by
    rw [Bool.eq_iff_iff, bne_iff_ne, ne_eq, byteCount_ofText_eq_zero_iff]
    simp
  rw [isUsable, Path.isUsable, hempty, byteCount_ofText, ofText, any_hasNull_pieces]

/-! ### Joining paths -/

theorem bytesBetween_append {front back : List Name} (hfront : front ≠ []) (hback : back ≠ []) :
    bytesBetween (front ++ back) = bytesBetween front + 1 + bytesBetween back := by
  induction front with
  | nil => exact absurd rfl hfront
  | cons name rest ih =>
      by_cases hnil : rest = []
      · rw [hnil, List.singleton_append, bytesBetween_cons hback]
        rfl
      · rw [List.cons_append, bytesBetween_cons (by simp [hnil]), ih hnil,
          bytesBetween_cons hnil]
        omega

variable {base path : RawPath}

/-- A joined path has the pieces of what was joined at its end, and those of its base before
them, without the empty one behind a slash. -/
theorem exists_pieces_join (base : RawPath) (h : path.isAbsolute = false) :
    ∃ front, (base.join path).pieces = front ++ path.pieces ∧
      (base.pieces = front ∧ front.getLast? ≠ some (.text "") ∨
        base.pieces = front ++ [.text ""]) := by
  rw [join, h, if_neg Bool.false_ne_true]
  split
  next hlast =>
    obtain ⟨front, hfront⟩ := List.getLast?_eq_some_iff.mp hlast
    exact ⟨front, by simp [hfront], Or.inr hfront⟩
  next hlast => exact ⟨base.pieces, rfl, Or.inl ⟨rfl, hlast⟩⟩

/-- What was joined comes after the moves of the base. -/
theorem exists_moves_join (base : RawPath) (h : path.isAbsolute = false) :
    ∃ front, (base.join path).pieces = front ++ path.pieces ∧ Path.movesOf front = base.moves := by
  obtain ⟨front, hpieces, ⟨hbase, -⟩ | hbase⟩ := exists_pieces_join base h
  · exact ⟨front, hpieces, by rw [moves, hbase]⟩
  · refine ⟨front, hpieces, ?_⟩
    rw [moves, hbase, Path.movesOf_append, show Path.movesOf [.text ""] = [] from rfl,
      List.append_nil]

theorem isAbsolute_iff :
    path.isAbsolute = true ↔ ∃ piece rest, path.pieces = .text "" :: piece :: rest := by
  rw [isAbsolute]
  rcases path.pieces with _ | ⟨⟨_⟩ | _, _ | _⟩ <;> simp

theorem isAbsolute_of_isName {names : List Name} (h : ∀ name ∈ names, Path.IsName name) :
    (⟨names⟩ : RawPath).isAbsolute = false := by
  rw [Bool.eq_false_iff, ne_eq, isAbsolute_iff]
  intro habs
  obtain ⟨piece, rest, hnames⟩ := habs
  simp only at hnames
  have hempty := (h (.text "") (by simp [hnames])).1
  cases hempty

/-- A relative path does not change where a path starts. -/
theorem isAbsolute_join (base : RawPath) (h : path.isAbsolute = false) (hne : path.pieces ≠ []) :
    (base.join path).isAbsolute = base.isAbsolute := by
  obtain ⟨front, hpieces, hfront⟩ := exists_pieces_join base h
  obtain ⟨last, others, hcons⟩ := List.exists_cons_of_ne_nil hne
  rw [Bool.eq_iff_iff, isAbsolute_iff, isAbsolute_iff, hpieces]
  rcases front with _ | ⟨first, _ | ⟨second, rest⟩⟩
  · -- nothing stands before the path
    rw [List.nil_append, ← isAbsolute_iff, h]
    rcases hfront with ⟨hfront, -⟩ | hfront <;> simp [hfront]
  · rcases hfront with ⟨hfront, hlast⟩ | hfront
    · have hfirst : first ≠ .text "" := by simpa using hlast
      simp [hfront, hfirst]
    · simp [hfront, hcons]
  · rcases hfront with ⟨hfront, -⟩ | hfront <;> simp [hfront]

theorem isUsable_iff : path.isUsable = true ↔
    path.byteCount ≠ 0 ∧ (∀ name ∈ path.pieces, name.hasNull = false) ∧ path.byteCount < 4096 := by
  simp [isUsable, and_assoc]

theorem byteCount_le_join (base : RawPath) (h : path.isAbsolute = false) (hne : path.pieces ≠ []) :
    base.byteCount ≤ (base.join path).byteCount ∧ path.byteCount ≤ (base.join path).byteCount := by
  obtain ⟨front, hpieces, hbase⟩ := exists_pieces_join base h
  rw [byteCount, byteCount, byteCount, hpieces]
  by_cases hnil : front = []
  · subst hnil
    refine ⟨?_, Nat.le_refl _⟩
    rcases hbase with ⟨hbase, -⟩ | hbase <;> rw [hbase] <;> exact Nat.zero_le _
  · rw [bytesBetween_append hnil hne]
    refine ⟨?_, by omega⟩
    rcases hbase with ⟨hbase, -⟩ | hbase
    · rw [hbase]
      omega
    · rw [hbase, bytesBetween_append hnil (by simp), show bytesBetween [.text ""] = 0 from rfl]
      omega

/-- What a path was joined from can be used if the path can, unless it is empty. -/
theorem isUsable_of_join (h : path.isAbsolute = false) (hne : path.pieces ≠ [])
    (husable : (base.join path).isUsable = true) :
    (base.byteCount ≠ 0 → base.isUsable = true) ∧
      (path.byteCount ≠ 0 → path.isUsable = true) := by
  obtain ⟨hleft, hright⟩ := byteCount_le_join base h hne
  obtain ⟨front, hpieces, hbase⟩ := exists_pieces_join base h
  rw [isUsable_iff, hpieces] at husable
  obtain ⟨-, hnull, hcount⟩ := husable
  refine ⟨fun hzero => isUsable_iff.mpr ⟨hzero, fun name hname => ?_, by omega⟩,
    fun hzero => isUsable_iff.mpr ⟨hzero, fun name hname => ?_, by omega⟩⟩
  · have hmem : name ∈ front ∨ name = .text "" := by
      rcases hbase with ⟨hbase, -⟩ | hbase <;> rw [hbase] at hname
      · exact Or.inl hname
      · simpa using hname
    rcases hmem with hmem | rfl
    · exact hnull name (List.mem_append_left _ hmem)
    · rfl
  · exact hnull name (List.mem_append_right _ hname)

/-! ### Joining texts -/

/-- The last piece of a text is empty if the text is, or ends with a slash. -/
theorem getLast?_pieces_eq_iff {base : String} :
    (Path.pieces base).getLast? = some (.text "") ↔
      base = "" ∨ base.toList.getLast? = some '/' := by
  refine ⟨fun h => ?_, fun h => ?_⟩
  · obtain ⟨front, hfront⟩ := List.getLast?_eq_some_iff.mp h
    obtain ⟨before, part, hparts, -, hempty⟩ := Path.exists_parts_of_pieces hfront
    obtain rfl := Name.text.inj hempty
    by_cases hnil : before = []
    · refine Or.inl ?_
      rw [← Path.joinWith_parts base, hparts, hnil]
      rfl
    · have hslash : Path.parts (joinWith "/" before ++ "/" ++ "") = before ++ [""] := by
        rw [Path.parts_append, Path.parts_joinWith hnil fun part hpart =>
          Path.not_mem_of_mem_parts (hparts ▸ List.mem_append_left _ hpart)]
        rfl
      refine Or.inr ?_
      rw [← Path.joinWith_parts base, hparts, ← hslash, Path.joinWith_parts]
      simp
  · rcases h with rfl | hslash
    · rfl
    · obtain ⟨cs, hcs⟩ := List.getLast?_eq_some_iff.mp hslash
      have hbase : base = String.ofList cs ++ "/" ++ "" := by
        rw [← String.toList_inj, hcs]
        simp
      rw [hbase, Path.pieces, Path.parts_append]
      simp [show Path.parts "" = [""] from rfl]

/-- Texts are joined as paths are. -/
theorem ofText_join (base path : String) :
    ofText (Path.join base path) = (ofText base).join (ofText path) := by
  have hpieces : ∀ front back : String,
      (ofText (front ++ "/" ++ back)).pieces = (ofText front).pieces ++ (ofText back).pieces := by
    intro front back
    rw [ofText, Path.pieces, Path.parts_append, List.map_append]
    rfl
  rw [join, isAbsolute_ofText, Path.join]
  by_cases habs : Path.isAbsolute path = true
  · simp [habs]
  by_cases hempty : base = ""
  · rw [hempty, if_pos (by simp), if_neg habs]
    rfl
  by_cases hslash : base.toList.getLast? = some '/'
  · -- the piece behind the slash is empty
    have hlast : (ofText base).pieces.getLast? = some (.text "") :=
      getLast?_pieces_eq_iff.mpr (Or.inr hslash)
    obtain ⟨cs, hcs⟩ := List.getLast?_eq_some_iff.mp hslash
    have hbase : base = String.ofList cs ++ "/" := by
      rw [← String.toList_inj, hcs]
      simp
    have hfront : (ofText base).pieces = (ofText (String.ofList cs)).pieces ++ [.text ""] := by
      rw [hbase, ← String.append_empty (s := String.ofList cs ++ "/"), hpieces]
      rfl
    rw [if_neg (by simp [habs, hempty]), if_pos (by simpa using hslash), if_neg habs, if_pos hlast,
      hfront, List.dropLast_concat, ← hpieces, ← hbase]
  · have hlast : ¬ (ofText base).pieces.getLast? = some (.text "") := fun h =>
      (getLast?_pieces_eq_iff.mp h).elim hempty hslash
    rw [if_neg (by simp [habs, hempty]), if_neg (by simpa using hslash), if_neg habs, if_neg hlast,
      ← hpieces]

/-- Texts are joined by the names between their slashes. -/
theorem join_pieces (base path : String) :
    (ofText base).join ⟨Path.pieces path⟩ = Path.join base path := (ofText_join base path).symm

end BuilderGen.RawPath

namespace BuilderGen.Path

/-- A path of names is relative. -/
theorem isAbsolute_of_isName {path : String} (h : ∀ piece ∈ pieces path, IsName piece) :
    isAbsolute path = false := by
  rw [← RawPath.isAbsolute_ofText]
  exact RawPath.isAbsolute_of_isName h

/-- A joined path ends with the pieces of what was joined, after the moves of its base. -/
theorem pieces_join (base : String) {path : String} (h : isAbsolute path = false) :
    ∃ front, pieces (join base path) = front ++ pieces path ∧ movesOf front = moves base := by
  have hrelative : (path : RawPath).isAbsolute = false := by rwa [RawPath.isAbsolute_ofText]
  have hjoin := RawPath.exists_moves_join base hrelative
  rwa [← RawPath.ofText_join] at hjoin

/-- A relative path does not change where a path starts. -/
theorem isAbsolute_join (base : String) {path : String} (h : isAbsolute path = false) :
    isAbsolute (join base path) = isAbsolute base := by
  have hrelative : (path : RawPath).isAbsolute = false := by rwa [RawPath.isAbsolute_ofText]
  rw [← RawPath.isAbsolute_ofText, RawPath.ofText_join,
    RawPath.isAbsolute_join base hrelative (pieces_ne_nil path), RawPath.isAbsolute_ofText]

/-- What a path was joined to can be used if the path can, unless it is empty. -/
theorem isUsable_of_join {base path : String} (hne : base ≠ "") (h : isAbsolute path = false)
    (husable : isUsable (join base path) = true) : isUsable base = true := by
  have hrelative : (path : RawPath).isAbsolute = false := by rwa [RawPath.isAbsolute_ofText]
  rw [← RawPath.isUsable_ofText, RawPath.ofText_join] at husable
  rw [← RawPath.isUsable_ofText]
  refine (RawPath.isUsable_of_join hrelative (pieces_ne_nil path) husable).1 ?_
  rw [ne_eq, RawPath.byteCount_ofText_eq_zero_iff]
  exact hne

end BuilderGen.Path
