import BuilderGen.Proofs.Emit.Behavior
import BuilderGen.Proofs.Emit.Marked

/-!
# BuilderGen.Proofs.Emit.Called

**A declared constructor is called** by the builder of a struct: its only `build` makes the
record by that function, and says so in its text (`Record.CallsFunction`).

A function stands in the text of a file as it is laid out, since a page returns to the place
it was at before (`Page.emit_eq`). In a class, the declared constructor is nowhere
(`Record.builderFile_java_congr`).
-/

namespace BuilderGen

open Text (joinWith)

/-! ### Methods in the text of their file -/

namespace ItemUnit

theorem mem_methodFragments {f : Function} {fs : List Function} (h : f ∈ fs) : ∀ first,
    .braced f.signature (f.body.map .line) ∈ methodFragments first fs := by
  induction fs with
  | nil => cases h
  | cons g gs ih =>
      intro first
      rw [methodFragments, List.mem_append, List.mem_append]
      rcases List.mem_cons.mp h with rfl | h
      · exact Or.inl (Or.inr (by simp [Function.fragments]))
      · exact Or.inr (ih h false)

/-- A method with one line is in the text of its file. -/
theorem exists_render_method {file : File} {i : Implementation} {f : Function} {line : String}
    (hi : .implementation i ∈ file.items) (hf : f ∈ i.methods) (hbody : f.body = [line]) :
    ∃ front back, file.render =
      front ++ ("    " ++ f.signature ++ "\n        " ++ line ++ "\n    \x7d\n") ++ back := by
  have hfragment : .braced ("impl " ++ i.type ++ " \x7b") (methodFragments true i.methods) ∈
      file.fragments := by
    have hitem : .braced ("impl " ++ i.type ++ " \x7b") (methodFragments true i.methods) ∈
        file.items.flatMap fun i => .blank :: i.fragments :=
      List.mem_flatMap.mpr ⟨_, hi, by simp [Item.fragments, Implementation.fragments]⟩
    simp [File.fragments, hitem]
  have hmethod : (Fragment.braced f.signature (f.body.map .line)).laidOut Page.fourSpaces 1 =
      "    " ++ f.signature ++ "\n        " ++ line ++ "\n    \x7d\n" := by
    rw [Fragment.laidOut_braced, hbody, ← String.toList_inj]
    simp [Fragment.laidOut, Page.apply, Page.pushLine, Page.indentation, Page.fourSpaces]
  obtain ⟨front, back, hfile⟩ := Fragment.exists_join_laidOut Page.fourSpaces 0 hfragment
  obtain ⟨front', back', hmethods⟩ :=
    Fragment.exists_laidOut_braced Page.fourSpaces 0 ("impl " ++ i.type ++ " \x7b")
      (mem_methodFragments hf true)
  refine ⟨front ++ front', back' ++ back, ?_⟩
  rw [File.render, Fragment.render_eq_join, hfile, hmethods, hmethod]
  simp only [String.append_assoc]

end ItemUnit

/-! ### Declared constructors -/

namespace Record

/-- The source of a call of a function of the record with all slots, in order. -/
def callOf (r : Record) (function : String) : String :=
  r.name ++ "::" ++ function ++ "(" ++
    joinWith ", " ((r.fieldNames .rust).map ItemUnit.copied) ++ ")"

/-- The source of a `build` that makes this call. -/
def buildCalling (r : Record) (function returns : String) : String :=
  "    pub fn build(&self) -> " ++ returns ++ " \x7b\n        " ++ r.callOf function ++ "\n    \x7d\n"

/-- The builder of a struct makes it by one of its functions, and in no other way. -/
structure CallsFunction (r : Record) (function returns : String) : Prop where
  /-- Read as a program, the builder has one `build`, which calls the function. -/
  makes : ∀ stamp, ∃ p, r.builderProgram? .rust stamp = some p ∧
    p.makers = [.call r.name function (r.fieldNames .rust)]
  /-- The text of the builder has this `build`, with what the function returns. -/
  text : ∀ stamp, ∃ front back,
    r.builderText .rust stamp = front ++ r.buildCalling function returns ++ back

/-- **The declared constructor of a usable record is called.** -/
theorem callsFunction {r : Record} (h : r.IsUsable .rust) {function : String}
    {returns : Option String} (hconstructor : r.constructor = .function function returns) :
    r.CallsFunction function (returns.getD r.name) where
  makes stamp := by
    refine ⟨_, builderProgram?_eq h stamp, ?_⟩
    simp only [makers_program, invocation, hconstructor]
  text stamp := by
    have hbuild : ItemUnit.construction (Blueprint.ofRecord .rust r) =
        (returns.getD r.name, [r.callOf function]) := by
      simp only [ItemUnit.construction, Blueprint.ofRecord, Blueprint.constructionOf, hconstructor,
        callOf, fieldNames]
    have himplementation : .implementation
        (ItemUnit.builderImplementation (Blueprint.ofRecord .rust r)) ∈
          (ItemUnit.builderFile r stamp).items := by
      simp [ItemUnit.builderFile, ItemUnit.File.inModule]
    have hmethod : ItemUnit.buildFunction (Blueprint.ofRecord .rust r) ∈
        (ItemUnit.builderImplementation (Blueprint.ofRecord .rust r)).methods := by
      simp [ItemUnit.builderImplementation]
    obtain ⟨front, back, htext⟩ :=
      ItemUnit.exists_render_method himplementation hmethod (congrArg Prod.snd hbuild)
    have hsignature : (ItemUnit.buildFunction (Blueprint.ofRecord .rust r)).signature =
        "pub fn build(&self) -> " ++ returns.getD r.name ++ " \x7b" := by
      refine String.toList_inj.mp ?_
      simp [ItemUnit.Function.signature, ItemUnit.buildFunction, hbuild,
        ItemUnit.Parameter.declaration]
    refine ⟨front, back, htext.trans (congrArg (fun block => front ++ block ++ back) ?_)⟩
    rw [hsignature]
    unfold buildCalling
    generalize r.callOf function = call
    refine String.toList_inj.mp ?_
    simp

/-- The builder of a class is the same whatever constructor is declared. -/
theorem builderFile_java_congr (r : Record) (constructor : Constructor) (stamp : Stamp) :
    ({ r with constructor } : Record).builderFile .java stamp = r.builderFile .java stamp := by
  rfl

end Record
end BuilderGen
