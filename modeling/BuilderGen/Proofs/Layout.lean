import BuilderGen.Layout
import BuilderGen.Proofs.Text.Lines

/-!
# BuilderGen.Proofs.Layout

**What laying out adds to a page.** A page is changed by pushes only: a `Row` is what one
push adds, an empty line or a line at a depth. The rows of a fragment are read off its
structure (`Fragment.rows`), and laying it out pushes exactly these (`Page.apply_eq`), since
the dedent behind a body undoes the indent before it and is never cut off at the margin.

From there on nothing depends on the page but through its unit and its depth. What is
laid out keeps the text that was there, returns to the depth it started from, and moves to
the right as a whole when it is laid out one level deeper (`Fragment.rows_succ`).
-/

namespace BuilderGen

/-! ### Rows -/

/-- What one push adds to a page: an empty line, or a line at a depth. -/
inductive Row
  | blank
  | line (depth : Nat) (text : String)
  deriving DecidableEq, Repr

namespace Row

/-- The row as it is written, without the line feed that ends it. Only lines are indented. -/
def shown (unit : String) : Row → String
  | blank => ""
  | line depth text => Page.indentation unit depth ++ text

/-- The row one level deeper. -/
def deeper : Row → Row
  | blank => blank
  | line depth text => line (depth + 1) text

theorem shown_deeper_blank (unit : String) : (deeper blank).shown unit = blank.shown unit := rfl

/-- One level deeper, a line has one more unit in front of it. -/
theorem shown_deeper_line (unit : String) (depth : Nat) (text : String) :
    (deeper (line depth text)).shown unit = unit ++ (line depth text).shown unit := by
  simp only [deeper, shown, Page.indentation, String.append_assoc]

/-- The text of rows. -/
def written (unit : String) (rows : List Row) : String := Text.unlines (rows.map (shown unit))

@[simp] theorem written_nil (unit : String) : written unit [] = "" := rfl

@[simp] theorem written_append (unit : String) (rows rows' : List Row) :
    written unit (rows ++ rows') = written unit rows ++ written unit rows' := by
  simp [written]

theorem written_cons (unit : String) (row : Row) (rows : List Row) :
    written unit (row :: rows) = row.shown unit ++ "\n" ++ written unit rows := by
  simp [written]

end Row

/-- Lines at one depth. -/
def Row.ofLines (depth : Nat) (lines : List String) : List Row := lines.map (Row.line depth)

namespace Fragment

mutual

/-- The rows of a fragment that is laid out at a depth. -/
def rows (depth : Nat) : Fragment → List Row
  | .line text => [.line depth text]
  | .blank => [.blank]
  | .braced opening body =>
      .line depth opening :: rowsAll (depth + 1) body ++ [.line depth "\x7d"]
  | .blockDoc lines => Row.ofLines depth ("/**" :: lines.map Page.blockDocLine ++ [" */"])
  | .lineDoc text => Row.ofLines depth ((Text.lines text).map Page.lineDocLine)

/-- The rows of fragments that are laid out one after another. -/
def rowsAll (depth : Nat) : List Fragment → List Row
  | [] => []
  | fragment :: rest => fragment.rows depth ++ rowsAll depth rest

end

theorem rowsAll_eq_flatMap (depth : Nat) (fragments : List Fragment) :
    rowsAll depth fragments = fragments.flatMap (rows depth) := by
  induction fragments with
  | nil => simp [rowsAll]
  | cons fragment rest ih => simp [rowsAll, ih]

mutual

/-- One level deeper, a fragment has the same rows one level deeper. -/
theorem rows_succ (depth : Nat) :
    ∀ fragment : Fragment, fragment.rows (depth + 1) = (fragment.rows depth).map Row.deeper
  | .line text => by simp [rows, Row.deeper]
  | .blank => by simp [rows, Row.deeper]
  | .braced opening body => by simp [rows, Row.deeper, rowsAll_succ (depth + 1) body]
  | .blockDoc lines => by simp [rows, Row.ofLines, Row.deeper]
  | .lineDoc text => by simp [rows, Row.ofLines, Row.deeper]

theorem rowsAll_succ (depth : Nat) :
    ∀ fragments, rowsAll (depth + 1) fragments = (rowsAll depth fragments).map Row.deeper
  | [] => by simp [rowsAll]
  | fragment :: rest => by simp [rowsAll, rows_succ depth fragment, rowsAll_succ depth rest]

end

end Fragment

/-! ### Pushing rows -/

namespace Page

/-- Pushes a row, a line at its own depth. -/
def push (page : Page) : Row → Page
  | .blank => page.pushBlank
  | .line depth text => { ({ page with depth } : Page).pushLine text with depth := page.depth }

/-- Pushes rows one after another. -/
def pushRows (page : Page) (rows : List Row) : Page := rows.foldl push page

@[simp] theorem pushRows_nil (page : Page) : page.pushRows [] = page := rfl

theorem pushRows_cons (page : Page) (row : Row) (rows : List Row) :
    page.pushRows (row :: rows) = (page.push row).pushRows rows := rfl

@[simp] theorem pushRows_pushRows (page : Page) (rows rows' : List Row) :
    (page.pushRows rows).pushRows rows' = page.pushRows (rows ++ rows') :=
  List.foldl_append.symm

theorem push_eq (page : Page) (row : Row) :
    page.push row = { page with text := page.text ++ (row.shown page.unit ++ "\n") } := by
  cases row with
  | blank => simp [push, pushBlank, Row.shown]
  | line depth text => simp [push, pushLine, Row.shown]

/-- Pushing rows only adds their text. -/
theorem pushRows_eq (rows : List Row) : ∀ page : Page,
    page.pushRows rows = { page with text := page.text ++ Row.written page.unit rows } := by
  induction rows with
  | nil => intro page; simp
  | cons row rows ih =>
      intro page
      rw [pushRows_cons, ih, push_eq, Row.written_cons]
      simp only [String.append_assoc]

@[simp] theorem depth_pushRows (page : Page) (rows : List Row) :
    (page.pushRows rows).depth = page.depth := by
  rw [pushRows_eq]

theorem pushBlank_eq (page : Page) : page.pushBlank = page.pushRows [.blank] := rfl

theorem pushLine_eq (page : Page) (line : String) :
    page.pushLine line = page.pushRows [.line page.depth line] := rfl

theorem pushLines_eq (lines : List String) : ∀ page : Page,
    page.pushLines lines = page.pushRows (Row.ofLines page.depth lines) := by
  induction lines with
  | nil => exact fun page => rfl
  | cons line lines ih => exact fun page => ih (page.pushLine line)

/-- What is pushed a level deeper is pushed at this level, once the page is back. -/
theorem dedent_pushRows_indent (page : Page) (rows : List Row) :
    (page.indent.pushRows rows).dedent = page.pushRows rows := by
  simp [indent, dedent, pushRows_eq]

mutual

/-- **Laying out a fragment pushes its rows.** -/
theorem apply_eq (page : Page) : ∀ fragment : Fragment,
    page.apply fragment = page.pushRows (fragment.rows page.depth)
  | .line text => by rw [apply, pushLine_eq, Fragment.rows]
  | .blank => by rw [apply, pushBlank_eq, Fragment.rows]
  | .braced opening body => by
      have hbody : (page.pushLine opening).indent.emit body =
          (page.pushLine opening).indent.pushRows (Fragment.rowsAll (page.depth + 1) body) :=
        emit_eq_rowsAll _ body
      rw [apply, hbody, dedent_pushRows_indent, pushLine_eq, pushLine_eq]
      simp only [pushRows_pushRows, depth_pushRows, Fragment.rows, List.cons_append,
        List.nil_append]
  | .blockDoc lines => by
      rw [apply, pushBlockDoc, pushLine_eq, pushLines_eq, pushLine_eq]
      simp [Fragment.rows, Row.ofLines]
  | .lineDoc text => by rw [apply, pushLineDoc, pushLines_eq, Fragment.rows]

theorem emit_eq_rowsAll (page : Page) : ∀ fragments : List Fragment,
    page.emit fragments = page.pushRows (Fragment.rowsAll page.depth fragments)
  | [] => by rw [emit_nil, Fragment.rowsAll, pushRows_nil]
  | fragment :: rest => by
      rw [emit_cons, emit_eq_rowsAll _ rest, apply_eq page fragment, pushRows_pushRows,
        depth_pushRows, Fragment.rowsAll]

end

/-- Laying out fragments one after another pushes their rows one after another. -/
theorem emit_eq (page : Page) (fragments : List Fragment) :
    page.emit fragments = page.pushRows (fragments.flatMap (Fragment.rows page.depth)) := by
  rw [emit_eq_rowsAll, Fragment.rowsAll_eq_flatMap]

end Page

/-! ### The layout of fragments -/

namespace Fragment

/-- The text that a fragment adds to a page of this unit and this depth. -/
def laidOut (unit : String) (depth : Nat) (fragment : Fragment) : String :=
  (({ unit, depth } : Page).apply fragment).text

theorem laidOut_eq_written (unit : String) (depth : Nat) (fragment : Fragment) :
    fragment.laidOut unit depth = Row.written unit (fragment.rows depth) := by
  simp [laidOut, Page.apply_eq, Page.pushRows_eq]

theorem join_laidOut (unit : String) (depth : Nat) (fragments : List Fragment) :
    String.join (fragments.map (laidOut unit depth)) =
      Row.written unit (fragments.flatMap (rows depth)) := by
  induction fragments with
  | nil => rfl
  | cons fragment rest ih => simp [ih, laidOut_eq_written]

/-- The text of fragments is that of their rows at the margin. -/
theorem render_eq_written (fragments : List Fragment) :
    render fragments = Row.written Page.fourSpaces (fragments.flatMap (rows 0)) := by
  rw [render, Page.emit_eq, Page.pushRows_eq]
  exact String.empty_append

theorem render_eq_join (fragments : List Fragment) :
    render fragments = String.join (fragments.map (laidOut Page.fourSpaces 0)) := by
  rw [render_eq_written, join_laidOut]

/-! The lines of source files, one fragment at a time. -/

/-- The lines of fragments in a source file, laid out at a depth. -/
def linesAt (depth : Nat) (fragments : List Fragment) : List String :=
  (fragments.flatMap (rows depth)).map (Row.shown Page.fourSpaces)

theorem render_eq_unlines (fragments : List Fragment) :
    render fragments = Text.unlines (linesAt 0 fragments) :=
  render_eq_written fragments

section LinesAt

variable (depth : Nat) (fragments : List Fragment)

@[simp] theorem linesAt_nil : linesAt depth [] = [] := rfl

@[simp] theorem linesAt_append (fragments' : List Fragment) :
    linesAt depth (fragments ++ fragments') =
      linesAt depth fragments ++ linesAt depth fragments' := by
  simp [linesAt]

@[simp] theorem linesAt_line (text : String) : linesAt depth (.line text :: fragments) =
    (Page.indentation Page.fourSpaces depth ++ text) :: linesAt depth fragments := rfl

@[simp] theorem linesAt_blank :
    linesAt depth (.blank :: fragments) = "" :: linesAt depth fragments := rfl

@[simp] theorem linesAt_braced (opening : String) (body : List Fragment) :
    linesAt depth (.braced opening body :: fragments) =
      (Page.indentation Page.fourSpaces depth ++ opening) :: (linesAt (depth + 1) body ++
        (Page.indentation Page.fourSpaces depth ++ "\x7d") :: linesAt depth fragments) := by
  simp [linesAt, rows, rowsAll_eq_flatMap, Row.shown]

@[simp] theorem linesAt_blockDoc (lines : List String) :
    linesAt depth (.blockDoc lines :: fragments) =
      ("/**" :: lines.map Page.blockDocLine ++ [" */"]).map
        (Page.indentation Page.fourSpaces depth ++ ·) ++ linesAt depth fragments := by
  simp [linesAt, rows, Row.ofLines, Row.shown]

@[simp] theorem linesAt_lineDoc (text : String) :
    linesAt depth (.lineDoc text :: fragments) =
      (Text.lines text).map (Page.indentation Page.fourSpaces depth ++ Page.lineDocLine ·) ++
        linesAt depth fragments := by
  simp [linesAt, rows, Row.ofLines, Row.shown]

@[simp] theorem linesAt_map_line {α : Type} (f : α → String) (xs : List α) :
    linesAt depth (xs.map fun x => line (f x)) =
      xs.map fun x => Page.indentation Page.fourSpaces depth ++ f x := by
  induction xs with
  | nil => rfl
  | cons x xs ih => simp [ih]

@[simp] theorem linesAt_lines (texts : List String) : linesAt depth (texts.map line) =
    texts.map (Page.indentation Page.fourSpaces depth ++ ·) :=
  linesAt_map_line depth id texts

end LinesAt

/-- The text of a fragment is part of the text of fragments it is among. -/
theorem exists_join_laidOut (unit : String) (depth : Nat) {fragment : Fragment}
    {fragments : List Fragment} (h : fragment ∈ fragments) :
    ∃ front back, String.join (fragments.map (laidOut unit depth)) =
      front ++ fragment.laidOut unit depth ++ back := by
  obtain ⟨before, after, rfl⟩ := List.append_of_mem h
  refine ⟨String.join (before.map (laidOut unit depth)),
    String.join (after.map (laidOut unit depth)), ?_⟩
  rw [List.map_append, List.map_cons, String.join_append, String.join_cons, String.append_assoc]

theorem laidOut_braced (unit : String) (depth : Nat) (opening : String) (body : List Fragment) :
    (braced opening body).laidOut unit depth =
      Page.indentation unit depth ++ opening ++ "\n" ++
        String.join (body.map (laidOut unit (depth + 1))) ++
        (Page.indentation unit depth ++ "\x7d\n") := by
  rw [laidOut_eq_written, join_laidOut, rows, rowsAll_eq_flatMap]
  simp [Row.written_cons, Row.shown, String.append_assoc]

/-- The text of a fragment of a body, a level deeper, is part of the text of the braces. -/
theorem exists_laidOut_braced (unit : String) (depth : Nat) {fragment : Fragment}
    (opening : String) {body : List Fragment} (h : fragment ∈ body) :
    ∃ front back, (braced opening body).laidOut unit depth =
      front ++ fragment.laidOut unit (depth + 1) ++ back := by
  obtain ⟨front, back, hbody⟩ := exists_join_laidOut unit (depth + 1) h
  refine ⟨Page.indentation unit depth ++ opening ++ "\n" ++ front,
    back ++ (Page.indentation unit depth ++ "\x7d\n"), ?_⟩
  rw [laidOut_braced, hbody]
  simp only [String.append_assoc]

/-- A line of a documentation comment starts as one, and is one line. -/
theorem lineDocLine_of_mem {text line : String} (h : line ∈ Text.lines text) :
    "///".toList <+: (Page.lineDocLine line).toList ∧ '\n' ∉ (Page.lineDocLine line).toList := by
  have hline := Text.not_mem_of_mem_lines h
  unfold Page.lineDocLine
  split
  · exact ⟨List.prefix_refl _, by decide⟩
  · refine ⟨?_, by simp [hline]⟩
    rw [String.toList_append]
    exact List.IsPrefix.trans ⟨[' '], rfl⟩ (List.prefix_append _ _)

/-- No row of a documentation comment leaves the comment. -/
theorem commented_of_mem_rows_lineDoc {depth : Nat} {text : String} {row : Row}
    (h : row ∈ (lineDoc text).rows depth) : ∃ pushed, row = .line depth pushed ∧
      "///".toList <+: pushed.toList ∧ '\n' ∉ pushed.toList := by
  rw [rows, Row.ofLines, List.map_map] at h
  obtain ⟨line, hline, rfl⟩ := List.mem_map.mp h
  exact ⟨_, rfl, lineDocLine_of_mem hline⟩

end Fragment

/-- **Layout is compositional and restores its depth.** Laying out a fragment adds to the text
of a page what only depends on its unit, its depth and the fragment, and changes nothing
else; laying out several adds what each of them does. A braced fragment is its opening line,
its body one level deeper, and its closing brace. What is pushed are the rows of the fragment,
and one level deeper these are the same lines with one more unit in front of each, while blank
rows stay blank. A documentation comment pushes each line of its text behind `///`, and none
of what it pushes leaves the comment. A documentation block pushes its entries behind ` *`,
between the lines that open and close it. -/
theorem Page.layout_compositional (page : Page) (fragment : Fragment) (fragments : List Fragment)
    (opening doc : String) (entries : List String) :
    page.apply fragment =
      { page with text := page.text ++ fragment.laidOut page.unit page.depth } ∧
    page.emit fragments = { page with
      text := page.text ++ String.join (fragments.map (Fragment.laidOut page.unit page.depth)) } ∧
    (Fragment.braced opening fragments).laidOut page.unit page.depth =
      indentation page.unit page.depth ++ opening ++ "\n" ++
        String.join (fragments.map (Fragment.laidOut page.unit (page.depth + 1))) ++
        (indentation page.unit page.depth ++ "\x7d\n") ∧
    page.apply fragment = page.pushRows (fragment.rows page.depth) ∧
    fragment.laidOut page.unit page.depth =
      Text.unlines ((fragment.rows page.depth).map (Row.shown page.unit)) ∧
    fragment.laidOut page.unit (page.depth + 1) =
      Text.unlines ((fragment.rows page.depth).map fun
        | .blank => ""
        | .line depth text => page.unit ++ (Row.line depth text).shown page.unit) ∧
    (Fragment.lineDoc doc).rows page.depth = (Text.lines doc).map (fun line =>
      .line page.depth (if line = "" then "///" else "/// " ++ line)) ∧
    (∀ row ∈ (Fragment.lineDoc doc).rows page.depth, ∃ pushed, row = .line page.depth pushed ∧
      "///".toList <+: pushed.toList ∧ '\n' ∉ pushed.toList) ∧
    (Fragment.blockDoc entries).rows page.depth =
      .line page.depth "/**" :: entries.map (fun entry =>
        .line page.depth (if entry = "" then " *" else " * " ++ entry)) ++
        [.line page.depth " */"] := by
  refine ⟨?_, ?_, Fragment.laidOut_braced _ _ _ _, page.apply_eq fragment,
    fragment.laidOut_eq_written _ _, ?_, ?_,
    fun row => Fragment.commented_of_mem_rows_lineDoc, ?_⟩
  · rw [apply_eq, pushRows_eq, Fragment.laidOut_eq_written]
  · rw [emit_eq, pushRows_eq, Fragment.join_laidOut]
  · rw [Fragment.laidOut_eq_written, Fragment.rows_succ, Row.written, List.map_map]
    refine congrArg Text.unlines (List.map_congr_left fun row _ => ?_)
    cases row with
    | blank => exact Row.shown_deeper_blank _
    | line depth text => exact Row.shown_deeper_line _ _ _
  · simp [Fragment.rows, Row.ofLines, lineDocLine]
  · simp [Fragment.rows, Row.ofLines, blockDocLine]

end BuilderGen
