import BuilderGen.Emit.BuilderFile
import BuilderGen.Proofs.FileTree.Orphan
import BuilderGen.Proofs.Layout

/-!
# BuilderGen.Proofs.Emit.Marked

**Every builder carries the marker** of generated files: the first line of its text has it,
since whatever is laid out after it only adds to the text.
-/

namespace BuilderGen

/-- A text that is laid out after a first line with the marker carries it. -/
theorem carriesMarker_render (fragments : List Fragment) :
    CarriesMarker (Fragment.render (.line ("// " ++ marker) :: fragments)).toUTF8 := by
  refine ⟨_, rfl, "// " ++ marker, ?_, "// ".toList, [], by decide⟩
  obtain ⟨back, hback⟩ : ∃ back, Fragment.render (.line ("// " ++ marker) :: fragments) =
      "// " ++ marker ++ "\n" ++ back := by
    refine ⟨Row.written Page.fourSpaces (fragments.flatMap (Fragment.rows 0)), ?_⟩
    rw [Fragment.render_eq_written, List.flatMap_cons, Fragment.rows, List.singleton_append,
      Row.written_cons]
    rfl
  have htext : (Fragment.render (.line ("// " ++ marker) :: fragments)).toList =
      ("// " ++ marker).toList ++ '\n' :: back.toList := by
    rw [hback]
    simp
  have hline : '\n' ∉ ("// " ++ marker).toList := by decide
  rw [Text.lines, Text.lineChars, htext, Text.linesFrom_append hline]
  have hkept : (Text.dropReturn (("// " ++ marker).toList.reverse ++ [])).reverse =
      ("// " ++ marker).toList := by decide
  rw [hkept, List.map_cons, String.ofList_toList, markerLines, List.take_succ_cons]
  exact List.mem_cons_self

/-- **The text of a builder** carries the marker, whatever the record. -/
theorem Record.carriesMarker_builderText (language : Language) (stamp : Stamp) (r : Record) :
    CarriesMarker (r.builderText language stamp).toUTF8 := by
  cases language with
  | java => exact carriesMarker_render _
  | rust => exact carriesMarker_render _

end BuilderGen
