import BuilderGen.FileTree.Orphan
import BuilderGen.Proofs.FileTree.Below
import Mathlib.Data.List.Nodup

/-!
# BuilderGen.Proofs.FileTree.Search

**Searching for files by their paths.** The path of a file is put together from the path of
the directory and the names on the way down (`RawPath.join_child`). The search finds the files
that are reached by searched directories only (`found_of_mem_filesBelow`), each of them once
(`pairwise_filesBelow`), and misses only what the system takes no path to (`mem_filesBelow`).

What is found is looked at by its name and its content: whether the name ends with the
extension (`Path.hasExtension_iff`), and whether the content carries the marker
(`isGenerated_fromUTF8?_iff`).
-/

namespace BuilderGen

open Text (segments joinWith)

/-! ### Extensions -/

/-- A file name ends with a dot and an extension, and more than dots stands before it. In a
name that is no text, bytes do. -/
def Path.HasExtension : Name → String → Prop
  | .text name, extension =>
    name ≠ ".." ∧ '.' ∉ extension.toList ∧ ∃ stem, stem ≠ "" ∧ name = stem ++ "." ++ extension
  | .raw bytes _, extension =>
    0x2E ∉ Text.utf8Bytes extension ∧
      ∃ stem, stem ≠ [] ∧ bytes = stem ++ 0x2E :: Text.utf8Bytes extension

/-- The extension follows the last dot. -/
theorem Path.extension?_eq_some_iff {name extension : String} :
    extension? name = some extension ↔ HasExtension (.text name) extension := by
  have hdot : ∀ stem last, segments "." (stem ++ "." ++ last) =
      segments "." stem ++ segments "." last := Text.segments_append_char rfl
  have hsingle : ∀ last : String, '.' ∉ last.toList → segments "." last = [last] :=
    fun _ h => Text.segments_of_not_mem rfl h
  have hinj : ∀ {text text' : String}, segments "." text = segments "." text' ↔ text = text' :=
    Text.segments_inj (by decide)
  refine ⟨fun h => ?_, fun h => ?_⟩
  · unfold extension? at h
    split at h
    next last before rest hrev =>
      have hsegments : segments "." name = (rest.reverse ++ [before]) ++ [last] := by
        rw [← List.reverse_inj, hrev]
        simp
      have hpart : ∀ part ∈ segments "." name, '.' ∉ part.toList := fun part hpart =>
        Text.not_mem_of_mem_segments rfl hpart
      rw [hsegments, List.forall_mem_append] at hpart
      have hlast : '.' ∉ last.toList := hpart.2 last (by simp)
      have hfront : segments "." (joinWith "." (rest.reverse ++ [before])) =
          rest.reverse ++ [before] := Text.segments_joinWith rfl (by simp) hpart.1
      split at h
      next => cases h
      next hname =>
        simp only [Bool.or_eq_true, decide_eq_true_eq, Bool.and_eq_true, String.isEmpty_iff,
          List.isEmpty_iff, not_or] at hname
        obtain rfl := Option.some.inj h
        refine ⟨hname.1, hlast, joinWith "." (rest.reverse ++ [before]), fun hempty => hname.2 ?_,
          ?_⟩
        · -- an empty stem would have an empty segment only
          rw [hempty, show segments "." "" = [""] from rfl] at hfront
          obtain ⟨hrest, hbefore⟩ := List.append_inj' (show [] ++ [""] = _ from hfront) rfl
          exact ⟨(List.cons.inj hbefore).1.symm, List.reverse_eq_nil_iff.mp hrest.symm⟩
        · rw [← hinj, hdot, hfront, hsingle _ hlast, hsegments]
    next => cases h
  · obtain ⟨hname, hlast, stem, hstem, rfl⟩ := h
    obtain ⟨front, before, hfront⟩ :=
      (List.eq_nil_or_concat (segments "." stem)).resolve_left (Text.segments_ne_nil "." stem)
    have hsegments : (segments "." (stem ++ "." ++ extension)).reverse =
        extension :: before :: front.reverse := by
      rw [hdot, hsingle _ hlast, hfront]
      simp
    rw [extension?, hsegments]
    refine if_neg ?_
    simp only [Bool.or_eq_true, decide_eq_true_eq, Bool.and_eq_true, String.isEmpty_iff,
      List.isEmpty_iff, List.reverse_eq_nil_iff, not_or]
    refine ⟨hname, fun hempty => hstem ?_⟩
    rw [← hinj, hfront, hempty.1, hempty.2]
    rfl

theorem Path.rawExtension?_eq_some_iff {bytes extension : List UInt8} :
    rawExtension? bytes = some extension ↔
      0x2E ∉ extension ∧ ∃ stem, stem ≠ [] ∧ bytes = stem ++ 0x2E :: extension := by
  have hsplit : bytes = (bytes.reverse.dropWhile (· != 0x2E)).reverse ++
      (bytes.reverse.takeWhile (· != 0x2E)).reverse := by
    rw [← List.reverse_append, List.takeWhile_append_dropWhile, List.reverse_reverse]
  refine ⟨fun h => ?_, fun h => ?_⟩
  · unfold rawExtension? at h
    split at h
    next first second rest hdrop =>
      obtain rfl := Option.some.inj h
      have hfirst := List.head_dropWhile_not (p := (· != 0x2E)) (l := bytes.reverse)
        (by simp [hdrop])
      simp only [hdrop, List.head_cons, bne_eq_false_iff_eq] at hfirst
      refine ⟨fun hmem => ?_, (second :: rest).reverse, by simp, ?_⟩
      · have hother := List.all_eq_true.mp List.all_takeWhile _ (List.mem_reverse.mp hmem)
        simp at hother
      · rw [hdrop, hfirst] at hsplit
        simpa using hsplit
    next => cases h
  · obtain ⟨hdot, stem, hstem, rfl⟩ := h
    have hother : ∀ byte ∈ extension.reverse, (byte != 0x2E) = true := by
      intro byte hbyte
      rw [bne_iff_ne]
      rintro rfl
      exact hdot (List.mem_reverse.mp hbyte)
    have hne : stem.reverse ≠ [] := by simpa using hstem
    obtain ⟨last, front, hrev⟩ := List.exists_cons_of_ne_nil hne
    have hreverse : (stem ++ 0x2E :: extension).reverse =
        extension.reverse ++ 0x2E :: last :: front := by
      simp [hrev]
    rw [rawExtension?, hreverse, List.dropWhile_append_of_pos hother,
      List.takeWhile_append_of_pos hother]
    simp

theorem Path.hasExtension_iff {name : Name} {extension : String} :
    hasExtension extension name = true ↔ HasExtension name extension := by
  cases name with
  | text name => rw [hasExtension, beq_iff_eq, extension?_eq_some_iff]
  | raw bytes h => rw [hasExtension, beq_iff_eq, rawExtension?_eq_some_iff]; rfl

/-! ### The marker -/

theorem Text.hasInfixChars_iff {pattern : List Char} :
    ∀ {cs : List Char}, hasInfixChars pattern cs = true ↔ pattern <:+: cs
  | [] => by simp [hasInfixChars]
  | c :: cs => by
      rw [hasInfixChars, Bool.or_eq_true, List.isPrefixOf_iff_prefix, hasInfixChars_iff,
        List.infix_cons_iff]

/-- Bytes are those of a text with the marker of generated files in one of its first
lines. -/
def CarriesMarker (bytes : ByteArray) : Prop :=
  ∃ text : String, text.toUTF8 = bytes ∧
    ∃ line ∈ (Text.lines text).take markerLines, marker.toList <:+: line.toList

theorem isGenerated_iff {text : String} :
    isGenerated text = true ↔
      ∃ line ∈ (Text.lines text).take markerLines, marker.toList <:+: line.toList := by
  simp only [isGenerated, List.any_eq_true, Text.hasInfixChars_iff, Text.lines, ← List.map_take,
    List.mem_map, exists_exists_and_eq_and, String.toList_ofList]

/-- Bytes that are no text are taken for those of an empty file. -/
theorem isGenerated_fromUTF8?_iff {bytes : ByteArray} :
    isGenerated ((String.fromUTF8? bytes).getD "") = true ↔ CarriesMarker bytes := by
  refine ⟨fun h => ?_, fun h => ?_⟩
  · cases htext : String.fromUTF8? bytes with
    | none =>
        rw [htext] at h
        cases h
    | some text =>
        rw [htext] at h
        refine ⟨text, ?_, isGenerated_iff.mp h⟩
        rw [String.fromUTF8?] at htext
        split at htext
        next => rw [← Option.some.inj htext]; rfl
        next => cases htext
  · obtain ⟨text, rfl, hmarker⟩ := h
    rw [Text.fromUTF8?_toUTF8 text]
    exact isGenerated_iff.mpr hmarker

/-! ### The paths of what is found -/

namespace RawPath

open BuilderGen.Path (IsName NoSlash)

/-- A path is put together name by name. -/
theorem join_child (base : RawPath) {name : Name} {names : List Name} (hname : IsName name)
    (hnames : ∀ piece ∈ names, IsName piece) :
    (base.child name).join ⟨names⟩ = base.join ⟨name :: names⟩ := by
  have hone : (⟨[name]⟩ : RawPath).isAbsolute = false := isAbsolute_of_isName (by simpa using hname)
  have hall : (⟨name :: names⟩ : RawPath).isAbsolute = false :=
    isAbsolute_of_isName (List.forall_mem_cons.mpr ⟨hname, hnames⟩)
  have hpiece : name ≠ .text "" := by
    rintro rfl
    exact absurd hname.1 (by decide)
  rw [child, join, isAbsolute_of_isName hnames, join, hone, join, hall]
  by_cases hlast : base.pieces.getLast? = some (.text "")
  · simp [hlast, hpiece]
  · simp [hlast, hpiece]

/-- Different names make different paths. -/
theorem join_inj (base : RawPath) {names names' : List Name}
    (hnames : ∀ piece ∈ names, IsName piece) (hnames' : ∀ piece ∈ names', IsName piece) :
    base.join ⟨names⟩ = base.join ⟨names'⟩ ↔ names = names' := by
  refine ⟨fun h => ?_, fun h => by rw [h]⟩
  rw [join, isAbsolute_of_isName hnames, join, isAbsolute_of_isName hnames'] at h
  by_cases hlast : base.pieces.getLast? = some (.text "")
  · simpa [hlast] using h
  · simpa [hlast] using h

/-- A piece of a text is a text. -/
theorem exists_text_of_mem_pieces {text : String} {name : Name}
    (h : name ∈ (text : RawPath).pieces) :
    ∃ part : String, name = part := by
  obtain ⟨part, -, rfl⟩ := List.mem_map.mp h
  exact ⟨part, rfl⟩

/-- Names that are texts are the pieces of the path that they are shown as. -/
theorem pieces_shownNames {names : List Name} (hne : names ≠ [])
    (hnames : ∀ name ∈ names, NoSlash name)
    (htexts : ∀ name ∈ names, ∃ part : String, name = part) :
    Path.pieces (shownNames names) = names := by
  obtain ⟨parts, rfl⟩ : ∃ parts : List String, names = parts.map .text := by
    choose! part hpart using htexts
    refine ⟨names.map part, ?_⟩
    rw [List.map_map]
    exact (List.map_id names).symm.trans (List.map_congr_left hpart)
  have hslash : ∀ part ∈ parts, '/' ∉ part.toList := fun part hpart =>
    hnames (.text part) (List.mem_map_of_mem hpart)
  have hshown : (parts.map Name.text).map Name.shown = parts := by
    rw [List.map_map]
    exact List.map_id parts
  rw [shownNames, hshown, Path.pieces, Path.parts_joinWith (by simpa using hne) hslash]

/-- A text is shown as it is. -/
theorem shownNames_pieces (path : String) : shownNames (Path.pieces path) = path := by
  have hshown : (Path.pieces path).map Name.shown = Path.parts path := by
    rw [Path.pieces, List.map_map]
    exact List.map_id _
  rw [shownNames, hshown, Path.joinWith_parts]

end RawPath

namespace FileTree

/-! ### The search -/

/-- A directory that is searched: one that is not hidden and holds no build output. -/
def IsSearched (name : String) : Prop := name ≠ "target" ∧ ¬ ['.'] <+: name.toList

theorem isSkippedDirectory_eq_false_iff {name : String} :
    isSkippedDirectory name = false ↔ IsSearched name := by
  have hhidden : (name.toList.head? == some '.') = false ↔ ¬ ['.'] <+: name.toList := by
    cases name.toList with
    | nil => simp
    | cons c cs => simp [List.cons_prefix_cons, eq_comm (a := c)]
  rw [isSkippedDirectory, Bool.or_eq_false_iff, hhidden, beq_eq_false_iff_ne, IsSearched]

/-- A file that is found below a directory by the names on the way to it. All before the
last are names of directories that are searched. -/
structure Found (t : FileTree) (directory : Location) (names : List Name)
    (bytes : ByteArray) : Prop where
  ne_nil : names ≠ []
  file : t.get? (directory ++ names) = some (.file bytes)
  searched : ∀ before name after, names = before ++ name :: after → after ≠ [] →
    t.get? (directory ++ before ++ [name]) = some .directory ∧ IsSearched name.shown

/-- A file is found directly in a directory, or below one in it that is searched. -/
theorem found_cons_iff {t : FileTree} {directory : Location} {name : Name}
    {names : List Name} {bytes : ByteArray} :
    t.Found directory (name :: names) bytes ↔
      names = [] ∧ t.get? (directory ++ [name]) = some (.file bytes) ∨
      t.get? (directory ++ [name]) = some .directory ∧ IsSearched name.shown ∧
        t.Found (directory ++ [name]) names bytes := by
  refine ⟨fun h => ?_, fun h => ?_⟩
  · by_cases hnil : names = []
    · exact Or.inl ⟨hnil, by simpa [hnil] using h.file⟩
    · obtain ⟨hdir, hsearched⟩ := h.searched [] name names rfl hnil
      rw [List.append_nil] at hdir
      refine Or.inr ⟨hdir, hsearched, hnil, by simpa using h.file, ?_⟩
      intro before name' after heq hafter
      have hbelow := h.searched (name :: before) name' after (by rw [heq, List.cons_append]) hafter
      simpa using hbelow
  · rcases h with ⟨rfl, hfile⟩ | ⟨hdir, hsearched, h⟩
    · refine ⟨by simp, hfile, fun before name' after heq hafter => ?_⟩
      rw [List.singleton_eq_append_iff] at heq
      simp [hafter] at heq
    · refine ⟨by simp, by simpa using h.file, fun before name' after heq hafter => ?_⟩
      cases before with
      | nil =>
          obtain ⟨rfl, -⟩ := List.cons.inj heq
          exact ⟨by simpa using hdir, hsearched⟩
      | cons first before =>
          obtain ⟨rfl, hrest⟩ := List.cons.inj heq
          simpa using h.searched before name' after hrest hafter

/-- What is below a directory has names. -/
theorem Found.isName {t : FileTree} (ht : t.WellFormed) {directory : Location} {names : List Name}
    {bytes : ByteArray} (h : t.Found directory names bytes) :
    ∀ name ∈ names, Path.IsName name :=
  fun _ hname => (ht.isName_of_mem h.file hname).1

section Search

variable {t : FileTree} {path : RawPath} {directory : Location} {names : List Name}
  {fullPath : RawPath} {bytes : ByteArray}

/-- A directory below another one is opened by its name, if the system takes the path. -/
theorem directory?_child (ht : t.WellFormed) (hdir : t.directory? path = some directory)
    {name : Name} (hchild : t.get? (directory ++ [name]) = some .directory) :
    t.directory? (path.child name) =
      if (path.child name).isUsable = true then some (directory ++ [name]) else none := by
  obtain ⟨-, left, hleads⟩ := (directory?_eq_some_iff ht).mp hdir
  rw [directory?, RawPath.child, hleads.find?_join ht (by simp) hchild (by simp)]
  by_cases husable : (path.join ⟨[name]⟩).isUsable = true
  · rw [if_pos husable, if_pos husable]
  · rw [if_neg husable, if_neg husable]

/-- A file below a directory is read by the names on the way to it, if the system takes the
path. -/
theorem readText?_join (ht : t.WellFormed) (hdir : t.directory? path = some directory)
    (h : t.Found directory names bytes) :
    t.readText? (path.join ⟨names⟩) =
      if (path.join ⟨names⟩).isUsable = true then String.fromUTF8? bytes else none := by
  obtain ⟨-, left, hleads⟩ := (directory?_eq_some_iff ht).mp hdir
  rw [readText?, hleads.find?_join ht h.ne_nil h.file (by simp)]
  by_cases husable : (path.join ⟨names⟩).isUsable = true
  · rw [if_pos husable, if_pos husable]
  · rw [if_neg husable, if_neg husable]

/-- The path of a file is longer than the paths of the directories it is in. -/
theorem isUsable_child (hpath : path.isUsable = true) {name : Name} (hne : names ≠ [])
    (hname : Path.IsName name) (hnames : ∀ piece ∈ names, Path.IsName piece)
    (husable : (path.join ⟨name :: names⟩).isUsable = true) :
    (path.child name).isUsable = true := by
  rw [← RawPath.join_child path hname hnames] at husable
  refine (RawPath.isUsable_of_join (RawPath.isAbsolute_of_isName hnames) hne husable).1 ?_
  have hzero := (RawPath.isUsable_iff.mp hpath).1
  have hone : (⟨[name]⟩ : RawPath).isAbsolute = false :=
    RawPath.isAbsolute_of_isName (by simpa using hname)
  obtain ⟨hcount, -⟩ := RawPath.byteCount_le_join path hone (by simp)
  rw [RawPath.child]
  omega

theorem filesBelow_of_eq_none (depth : Nat) (hdir : t.directory? path = none) :
    t.filesBelow depth path = [] := by
  cases depth with
  | zero => rfl
  | succ depth => rw [filesBelow, hdir]

/-- What is found stands below the directory, and its path is made of the names. -/
theorem found_of_mem_filesBelow (ht : t.WellFormed) {depth : Nat} :
    ∀ {path : RawPath} {directory : Location} {names : List Name} {fullPath : RawPath},
      t.directory? path = some directory → (names, fullPath) ∈ t.filesBelow depth path →
        fullPath = path.join ⟨names⟩ ∧ ∃ bytes, t.Found directory names bytes := by
  induction depth with
  | zero => intro path directory names fullPath _ h; cases h
  | succ depth ih =>
      intro path directory names fullPath hdir h
      simp only [filesBelow, hdir, List.mem_flatMap] at h
      obtain ⟨⟨child, entry⟩, hchild, h⟩ := h
      rw [mem_children] at hchild
      cases entry with
      | file content =>
          simp only [List.mem_singleton, Prod.mk.injEq] at h
          obtain ⟨rfl, rfl⟩ := h
          exact ⟨rfl, content, found_cons_iff.mpr (Or.inl ⟨rfl, hchild⟩)⟩
      | link target => cases h
      | directory =>
          by_cases hskip : isSkippedDirectory child.shown = true
          · simp [hskip] at h
          · rw [Bool.not_eq_true] at hskip
            simp only [hskip, Bool.false_eq_true, if_false, List.mem_map, Prod.exists,
              Prod.mk.injEq] at h
            obtain ⟨below, _, h, rfl, rfl⟩ := h
            have hopened := directory?_child ht hdir hchild
            split at hopened
            next =>
              obtain ⟨rfl, bytes, hfound⟩ := ih hopened h
              refine ⟨RawPath.join_child path (ht.name hchild).1 (hfound.isName ht), bytes, ?_⟩
              exact found_cons_iff.mpr
                (Or.inr ⟨hchild, isSkippedDirectory_eq_false_iff.mp hskip, hfound⟩)
            next =>
              rw [filesBelow_of_eq_none depth hopened] at h
              cases h

/-- The search finds what is not too far down, unless the path is too long. -/
theorem mem_filesBelow (ht : t.WellFormed) {depth : Nat} :
    ∀ {path : RawPath} {directory : Location} {names : List Name},
      t.directory? path = some directory → t.Found directory names bytes → names.length ≤ depth →
        (path.join ⟨names⟩).isUsable = true →
          (names, path.join ⟨names⟩) ∈ t.filesBelow depth path := by
  induction depth with
  | zero =>
      intro path directory names _ hfound hlength _
      exact absurd (List.length_eq_zero_iff.mp (Nat.le_zero.mp hlength)) hfound.ne_nil
  | succ depth ih =>
      intro path directory names hdir hfound hlength husable
      simp only [filesBelow, hdir, List.mem_flatMap]
      cases names with
      | nil => exact absurd rfl hfound.ne_nil
      | cons name names =>
          rcases found_cons_iff.mp hfound with ⟨rfl, hfile⟩ | ⟨hchild, hsearched, hbelow⟩
          · exact ⟨_, mem_children.mpr hfile, List.mem_singleton.mpr rfl⟩
          · have hname := (ht.name hchild).1
            have hnames := hbelow.isName ht
            have husable' := ((directory?_eq_some_iff ht).mp hdir).1
            have hopened := directory?_child ht hdir hchild
            rw [if_pos (isUsable_child husable' hbelow.ne_nil hname hnames husable)] at hopened
            rw [← RawPath.join_child path hname hnames] at husable ⊢
            refine ⟨_, mem_children.mpr hchild, ?_⟩
            simp only [isSkippedDirectory_eq_false_iff.mpr hsearched, Bool.false_eq_true, if_false,
              List.mem_map, Prod.exists]
            rw [List.length_cons, Nat.add_le_add_iff_right] at hlength
            exact ⟨names, _, ih hopened hbelow hlength husable, rfl⟩

end Search

theorem le_foldl_max {n : Nat} {ns : List Nat} :
    ∀ {m : Nat}, n ≤ m ∨ n ∈ ns → n ≤ ns.foldl max m := by
  induction ns with
  | nil => intro m h; simpa using h
  | cons k ns ih =>
      intro m h
      refine ih ?_
      rw [List.mem_cons, ← or_assoc] at h
      exact h.imp_left fun h => by omega

/-- No location is longer than the tree is high. -/
theorem length_le_height {t : FileTree} {l : Location} {entry : Entry}
    (h : t.get? l = some entry) : l.length ≤ t.height := by
  by_cases hroot : l = []
  · simp [hroot]
  · rw [get?, if_neg hroot] at h
    exact le_foldl_max (Or.inr (List.mem_map.mpr ⟨_, mem_of_lookup h, rfl⟩))

/-! ### Each file once -/

theorem nodup_eraseDups : ∀ names : List Name, names.eraseDups.Nodup
  | [] => by simp
  | name :: names => by
      rw [List.eraseDups_cons, List.nodup_cons]
      refine ⟨?_, nodup_eraseDups _⟩
      simp [List.mem_eraseDups]
termination_by names => names.length
decreasing_by exact Nat.lt_succ_of_le (List.length_filter_le _ _)

/-- A directory has an entry by each name only once. -/
theorem pairwise_children (t : FileTree) (directory : Location) :
    (t.children directory).Pairwise fun a b => a.1 ≠ b.1 := by
  rw [children, List.pairwise_filterMap]
  refine (nodup_eraseDups _).imp fun {name name'} hne a ha b hb => ?_
  obtain ⟨_, -, rfl⟩ := Option.map_eq_some_iff.mp ha
  obtain ⟨_, -, rfl⟩ := Option.map_eq_some_iff.mp hb
  exact hne

theorem pairwise_filesBelow (t : FileTree) (depth : Nat) :
    ∀ path, (t.filesBelow depth path).Pairwise fun a b => a.1 ≠ b.1 := by
  induction depth with
  | zero => intro path; exact List.Pairwise.nil
  | succ depth ih =>
      intro path
      rw [filesBelow]
      cases t.directory? path with
      | none => exact List.Pairwise.nil
      | some directory =>
          rw [List.pairwise_flatMap]
          refine ⟨fun child _ => ?_, (pairwise_children t directory).imp fun {a b} hne => ?_⟩
          · obtain ⟨name, entry⟩ := child
            cases entry with
            | file bytes => exact List.pairwise_singleton _ _
            | link target => exact List.Pairwise.nil
            | directory =>
                by_cases hskip : isSkippedDirectory name.shown = true
                · simp [hskip]
                · simp only [hskip, Bool.false_eq_true, if_false, List.pairwise_map]
                  exact (ih _).imp fun hne heq => hne (List.cons.inj heq).2
          · -- the names of files start with that of the entry they are below
            obtain ⟨name, entry⟩ := a
            obtain ⟨name', entry'⟩ := b
            intro file hfile file' hfile' heq
            have hhead : file.1.head? = some name := by cases entry <;> grind
            have hhead' : file'.1.head? = some name' := by cases entry' <;> grind
            rw [heq, hhead'] at hhead
            exact hne (Option.some.inj hhead).symm

end FileTree
end BuilderGen
