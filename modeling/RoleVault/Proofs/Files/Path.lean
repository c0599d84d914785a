import Mathlib.Data.String.Basic
import RoleVault.Proofs.Files.Disk

/-!
Contract: a path and its text are as good as each other.

Owns:
- the pieces of a text between slashes (`splitOn_slash`);
- `Path.IsPlain`, paths whose added names are single pieces, and `Path.written`, the text of a path
  taken for a path;
- `resolve_written`: the text of such a path leads where the path leads;
- the components of a path, and the path that is made of components.

Does not own: where paths lead (`RoleVault.Proofs.Files.Walk`).
-/

namespace RoleVault.Files

/-! ## Texts between slashes -/

section Slashes

open String

private theorem unoffsetBy_slash (size : Nat) :
    (⟨size + '/'.utf8Size⟩ : Pos.Raw).unoffsetBy (Pos.Raw.next "/" 0) = ⟨size⟩ := by
  have single : (Pos.Raw.next "/" 0).byteIdx = '/'.utf8Size := by decide
  simp [Pos.Raw.unoffsetBy, single]

/-- What the search for slashes has left to do, once it has gone through some characters and read a
piece so far. -/
theorem splitOnAux_slash (before piece rest : List Char) (found : List String) :
    String.splitOnAux (String.ofList (before ++ piece ++ rest)) "/" ⟨utf8Len before⟩
        ⟨utf8Len before + utf8Len piece⟩ 0 found =
      found.reverse ++ (List.splitOnPPrepend (· == '/') rest piece.reverse).map String.ofList := by
  induction rest generalizing before piece found with
  | nil =>
    have ends := (atEnd_of_valid (before ++ piece) []).mpr rfl
    rw [utf8Len_append] at ends
    rw [String.splitOnAux, if_pos ends, extract_of_valid]
    simp
  | cons c rest inductionHypothesis =>
    have reads := get_of_valid (before ++ piece) (c :: rest)
    have goes := next_of_valid (before ++ piece) c rest
    have more := mt (atEnd_of_valid (before ++ piece) (c :: rest)).mp (List.cons_ne_nil c rest)
    rw [utf8Len_append] at reads goes more
    have slash : Pos.Raw.get "/" 0 = '/' := by decide
    have single : Pos.Raw.atEnd "/" (Pos.Raw.next "/" 0) = true := by decide
    have stays : (⟨utf8Len before + utf8Len piece⟩ : Pos.Raw).unoffsetBy 0 =
        ⟨utf8Len before + utf8Len piece⟩ := rfl
    rw [String.splitOnAux, if_neg more, reads, slash, stays, goes]
    simp only [single, if_true, List.headD_cons]
    by_cases same : c = '/'
    · subst same
      have further := inductionHypothesis (before ++ piece ++ ['/']) [] (ofList piece :: found)
      rw [unoffsetBy_slash, extract_of_valid, if_pos (beq_self_eq_true '/'),
        List.splitOnPPrepend_cons_eq_if, if_pos (beq_self_eq_true '/')]
      simpa [-ofList_append, Nat.add_assoc] using further
    · have further := inductionHypothesis before (piece ++ [c]) found
      have other : ¬ (c == '/') = true := by simpa using same
      rw [if_neg other, List.splitOnPPrepend_cons_eq_if, if_neg other]
      simpa [-ofList_append, Nat.add_assoc] using further

/-- The pieces of a text between slashes are those of the list of its characters. -/
theorem splitOn_slash (text : String) :
    text.splitOn "/" = (text.toList.splitOn '/').map String.ofList := by
  have splits := splitOnAux_slash [] [] text.toList []
  rw [String.splitOn, if_neg (by decide)]
  simp only [List.append_nil, List.nil_append, utf8Len_nil, ofList_toList,
    List.reverse_nil] at splits
  exact splits

end Slashes

/-- Whether a text is one piece between slashes, and not an empty one. -/
def IsPiece (text : String) : Prop :=
  text ≠ "" ∧ '/' ∉ text.toList

instance (text : String) : Decidable (IsPiece text) := by
  unfold IsPiece
  infer_instance

private theorem not_mem_splitOn_slash (characters : List Char) :
    ∀ piece ∈ characters.splitOn '/', '/' ∉ piece := by
  induction characters with
  | nil => simp
  | cons c rest inductionHypothesis =>
    rw [List.splitOn_cons_eq_if_modifyHead]
    by_cases same : c = '/'
    · simpa [same] using inductionHypothesis
    · cases split : rest.splitOn '/' with
      | nil => exact absurd split (List.splitOn_ne_nil '/' rest)
      | cons first more =>
        rw [split] at inductionHypothesis
        simpa [same, Ne.symm same] using inductionHypothesis

/-- No piece holds a slash. -/
theorem slash_not_mem_of_mem_splitOn {text piece : String} (member : piece ∈ text.splitOn "/") :
    '/' ∉ piece.toList := by
  rw [splitOn_slash] at member
  obtain ⟨characters, among, rfl⟩ := List.mem_map.mp member
  rw [String.toList_ofList]
  exact not_mem_splitOn_slash _ _ among

private theorem splitOn_append_slash (front back : String) :
    (front ++ "/" ++ back).splitOn "/" = front.splitOn "/" ++ back.splitOn "/" := by
  have characters : (front ++ "/" ++ back).toList = front.toList ++ '/' :: back.toList := by
    simp
  rw [splitOn_slash, characters, List.splitOn_append_cons_self, List.map_append, ← splitOn_slash,
    ← splitOn_slash]

private theorem splitOn_of_slash_not_mem {text : String} (whole : '/' ∉ text.toList) :
    text.splitOn "/" = [text] := by
  rw [splitOn_slash, List.splitOn_eq_singleton whole]
  simp

theorem splitOn_empty : "".splitOn "/" = [""] :=
  splitOn_of_slash_not_mem (by simp)

private theorem splitOn_intercalate_slash {pieces : List String} (filled : pieces ≠ [])
    (whole : ∀ piece ∈ pieces, '/' ∉ piece.toList) :
    ("/".intercalate pieces).splitOn "/" = pieces := by
  have characters : ("/".intercalate pieces).toList =
      ['/'].intercalate (pieces.map String.toList) := by
    rw [String.toList_intercalate]
    rfl
  have apart : ∀ piece ∈ pieces.map String.toList, '/' ∉ piece := by
    simpa using whole
  rw [splitOn_slash, characters, List.splitOn_intercalate '/' apart (by simpa using filled)]
  simp

theorem startsWith_slash {text : String} :
    text.startsWith "/" = true ↔ text.toList.head? = some '/' := by
  rw [String.startsWith_string_iff, show "/".toList = ['/'] from rfl]
  cases text.toList with
  | nil => simp
  | cons c rest => simp [List.cons_prefix_cons, eq_comm]

private theorem endsWith_slash {text : String} :
    text.endsWith "/" = true ↔ ∃ front, text = front ++ "/" := by
  rw [String.endsWith_eq_endsWith_toSlice, String.Slice.endsWith_string_iff]
  constructor
  · rintro ⟨front, ends⟩
    refine ⟨String.ofList front, String.toList_injective ?_⟩
    simpa using ends.symm
  · rintro ⟨front, rfl⟩
    exact ⟨front.toList, by simp⟩

/-! ## Names below a path -/

namespace Path

variable {path : Path}

/-- Whether all names that were added to a path are single pieces. -/
def IsPlain (path : Path) : Prop :=
  ∀ name ∈ path.names, IsPiece name

instance (path : Path) : Decidable path.IsPlain := by
  unfold IsPlain
  infer_instance

/-- A name below a plain path is plain. -/
theorem IsPlain.child {name : String} (plain : path.IsPlain) (piece : IsPiece name) :
    (path.child name).IsPlain := by
  intro added member
  rcases List.mem_append.mp member with before | last
  · exact plain added before
  · rw [List.mem_singleton.mp last]
    exact piece

/-- The text of a path, taken for a path. -/
def written (path : Path) : Path :=
  ⟨path.text, []⟩

@[simp] theorem text_written (path : Path) : path.written.text = path.text := rfl

/-- The text of a name below a path joins both texts. -/
theorem text_child (path : Path) (name : String) :
    (path.child name).text = join path.text name := by
  simp [text, child]

/-- Different names below a path have different texts. -/
theorem join_injective (text : String) : Function.Injective (join text) := by
  intro name other same
  unfold join at same
  split at same
  · exact same
  · split at same
    · exact String.append_right_inj _ |>.mp same
    · exact String.append_right_inj _ |>.mp same

/-- Two names below a text are one text with a slash in it below the first. -/
theorem join_join (text last : String) {name : String} (piece : IsPiece name) :
    join (join text name) last = join text (name ++ "/" ++ last) := by
  have filled (front : String) : (front ++ name == "") = false := by simp [piece.1]
  have unslashed (front : String) : (front ++ name).endsWith "/" = false := by
    rw [Bool.eq_false_iff, Ne, endsWith_slash]
    rintro ⟨whole, ends⟩
    have last : (front ++ name).toList.getLast? = some '/' := by simp [ends]
    rw [String.toList_append, List.getLast?_append_of_ne_nil _
      (by simpa using piece.1)] at last
    exact piece.2 (List.mem_of_getLast? last)
  have below (front : String) : join (front ++ name) last = front ++ (name ++ "/" ++ last) := by
    rw [join, filled, unslashed]
    simp [String.append_assoc]
  have joined (last : String) : join text last = if text == "" then last
      else if text.endsWith "/" then text ++ last else text ++ "/" ++ last := rfl
  rw [joined name, joined (name ++ "/" ++ last)]
  split
  · simpa using below ""
  · split
    · exact below text
    · exact below (text ++ "/")

/-- The pieces of a text with a name below it: an empty one at its end gives way to the name. -/
theorem splitOn_join (text : String) {name : String} (piece : IsPiece name) :
    (join text name).splitOn "/" = text.splitOn "/" ++ [name] ∨
      ∃ front, text.splitOn "/" = front ++ [""] ∧
        (join text name).splitOn "/" = front ++ [name] := by
  have alone := splitOn_of_slash_not_mem piece.2
  unfold join
  by_cases empty : text = ""
  · subst empty
    exact .inr ⟨[], splitOn_empty, by simp [alone]⟩
  · by_cases slashed : text.endsWith "/" = true
    · obtain ⟨front, rfl⟩ := endsWith_slash.mp slashed
      refine .inr ⟨front.splitOn "/", ?_, ?_⟩
      · have splits := splitOn_append_slash front ""
        rwa [String.append_empty, splitOn_empty] at splits
      · rw [if_neg (by simp), if_pos slashed, splitOn_append_slash, alone]
    · refine .inl ?_
      rw [if_neg (by simpa using empty), if_neg slashed, splitOn_append_slash, alone]

private theorem startsWith_join (text : String) {name : String} (piece : IsPiece name) :
    (join text name).startsWith "/" = text.startsWith "/" := by
  rw [Bool.eq_iff_iff, startsWith_slash, startsWith_slash]
  unfold join
  by_cases empty : text = ""
  · subst empty
    have first : name.toList.head? ≠ some '/' := fun head => piece.2 (List.mem_of_mem_head? head)
    simp [first]
  · cases characters : text.toList with
    | nil => exact absurd (String.toList_eq_nil_iff.mp characters) empty
    | cons c rest =>
      rw [if_neg (by simpa using empty)]
      split <;> simp [characters]

private theorem isAbsolute_written (plain : path.IsPlain) :
    path.written.isAbsolute = path.isAbsolute := by
  obtain ⟨base, names⟩ := path
  change (names.foldl join base).startsWith "/" = base.startsWith "/"
  induction names generalizing base with
  | nil => rfl
  | cons name rest inductionHypothesis =>
    obtain ⟨piece, pieces⟩ := List.forall_mem_cons.mp plain
    exact (inductionHypothesis (join base name) pieces).trans (startsWith_join base piece)

/-- A text with a name below it holds the characters of both, and slashes. -/
theorem mem_join {text name : String} {c : Char} (plain : c ≠ '/') :
    c ∈ (join text name).toList ↔ c ∈ text.toList ∨ c ∈ name.toList := by
  unfold join
  split
  · rename_i empty
    have empty : text = "" := by simpa using empty
    simp [empty]
  · split <;> simp [plain]

/-- What stands neither in the base nor in a name does not stand in the text, but for the slash. -/
theorem not_mem_text {c : Char} (plain : c ≠ '/') (inBase : c ∉ path.base.toList)
    (inNames : ∀ name ∈ path.names, c ∉ name.toList) : c ∉ path.text.toList := by
  obtain ⟨base, names⟩ := path
  change c ∉ (names.foldl join base).toList
  induction names generalizing base with
  | nil => exact inBase
  | cons name rest inductionHypothesis =>
    obtain ⟨first, others⟩ := List.forall_mem_cons.mp inNames
    refine inductionHypothesis (join base name) ?_ others
    rw [mem_join plain]
    exact not_or.mpr ⟨inBase, first⟩

/-! ## Components -/

/-- The pieces of a text are the steps of a path, of which a single one may be empty. -/
theorem slash_not_mem_of_mem_steps (plain : path.IsPlain) {step : String}
    (member : step ∈ path.steps) : '/' ∉ step.toList := by
  rcases List.mem_append.mp member with inBase | added
  · exact slash_not_mem_of_mem_splitOn inBase
  · exact (plain step added).2

/-- The components of a plain path have no slashes in them. -/
theorem isPiece_of_mem_components (plain : path.IsPlain) {name : String}
    (member : name ∈ path.components) : IsPiece name := by
  have kept (among : name ∈ path.steps.filter fun step => step != "" && step != ".") :
      IsPiece name := by
    obtain ⟨inside, filled⟩ := List.mem_filter.mp among
    have filled : ¬ name = "" ∧ ¬ name = "." := by simpa using filled
    exact ⟨filled.1, slash_not_mem_of_mem_steps plain inside⟩
  have dot : IsPiece "." := by decide
  unfold components at member
  simp only at member
  split at member
  · rcases List.mem_cons.mp member with rfl | among
    · exact dot
    · exact kept among
  · exact kept member

/-- The path of some components has them for its steps, after an empty one for the root. -/
theorem steps_ofComponents (absolute : Bool) {components : List String}
    (pieces : ∀ name ∈ components, IsPiece name) :
    (ofComponents absolute components).steps =
      (if absolute then [""] else []) ++ (if components = [] then [""] else components) := by
  have joined : ("/".intercalate components).splitOn "/" =
      if components = [] then [""] else components := by
    by_cases none : components = []
    · rw [if_pos none, none]
      exact splitOn_empty
    · rw [if_neg none]
      exact splitOn_intercalate_slash none fun name member => (pieces name member).2
  unfold steps ofComponents
  rw [List.append_nil]
  cases absolute with
  | false => simpa using joined
  | true =>
    have splits := splitOn_append_slash "" ("/".intercalate components)
    rw [joined, splitOn_empty] at splits
    exact splits

theorem isAbsolute_ofComponents (absolute : Bool) {components : List String}
    (pieces : ∀ name ∈ components, IsPiece name) :
    (ofComponents absolute components).isAbsolute = absolute := by
  rw [Bool.eq_iff_iff, isAbsolute, ofComponents, startsWith_slash]
  cases absolute with
  | true => simp
  | false =>
    cases components with
    | nil => simp
    | cons name rest =>
      obtain ⟨filled, whole⟩ := pieces name List.mem_cons_self
      have first : name.toList.head? ≠ some '/' := fun head => whole (List.mem_of_mem_head? head)
      cases characters : name.toList with
      | nil => exact absurd (String.toList_eq_nil_iff.mp characters) filled
      | cons c more =>
        rw [characters] at first
        cases rest <;> simpa [String.toList_intercalate, characters] using first

end Path

/-! ## The text of a path -/

namespace Disk

variable {disk : Disk} {path : Path}

/-- Where walks go on alike, they go alike before, as long as there is a name to come. -/
theorem walk_append_congr {back other : List String}
    (same : ∀ here, disk.walk here back = disk.walk here other)
    (filled : back.all (· == "") = false) (otherFilled : other.all (· == "") = false)
    (front : List String) (here : Location) :
    disk.walk here (front ++ back) = disk.walk here (front ++ other) := by
  induction front generalizing here with
  | nil => exact same here
  | cons step rest inductionHypothesis =>
    rw [List.cons_append, List.cons_append, walk, walk]
    simp [inductionHypothesis, List.all_append, filled, otherFilled]

private theorem walk_blank (here : Location) (step : String) (rest : List String) :
    disk.walk here ("" :: step :: rest) = disk.walk here (step :: rest) := by
  rw [walk]
  by_cases directory : disk.get? here = some .directory
  · simp [directory]
  · rw [walk]
    simp [directory]

private theorem walk_join {base name : String} (piece : IsPiece name) (rest : List String)
    (here : Location) :
    disk.walk here ((Path.join base name).splitOn "/" ++ rest) =
      disk.walk here (base.splitOn "/" ++ name :: rest) := by
  rcases Path.splitOn_join base piece with splits | ⟨front, blank, splits⟩
  · rw [splits, List.append_assoc]
    rfl
  · rw [splits, blank, List.append_assoc, List.append_assoc]
    refine walk_append_congr (fun place => (walk_blank place name rest).symm) ?_ ?_ front here
    · simp [piece.1]
    · simp [piece.1]

private theorem walk_written (plain : path.IsPlain) (here : Location) :
    disk.walk here path.written.steps = disk.walk here path.steps := by
  obtain ⟨base, names⟩ := path
  have walks : ∀ rest, disk.walk here ((names.foldl Path.join base).splitOn "/" ++ rest) =
      disk.walk here (base.splitOn "/" ++ (names ++ rest)) := by
    induction names generalizing base with
    | nil => exact fun rest => rfl
    | cons name more inductionHypothesis =>
      intro rest
      obtain ⟨piece, pieces⟩ := List.forall_mem_cons.mp plain
      rw [List.foldl_cons, inductionHypothesis (Path.join base name) pieces, walk_join piece]
      rfl
  simpa [Path.steps, Path.written, Path.text] using walks []

/-- The text of a path leads where the path leads. -/
theorem resolve_written (plain : path.IsPlain) : disk.resolve path.written = disk.resolve path := by
  rw [resolve, resolve, follow, follow, Path.text_written, Path.isAbsolute_written plain]
  simp only [walk_written plain]

/-- Reading goes the same way under the written form of a plain path. -/
theorem read_written (plain : path.IsPlain) : disk.read path.written = disk.read path := by
  rw [read, read, resolve_written plain]

/-- Writing goes the same way under the written form of a plain path. -/
theorem write_written (plain : path.IsPlain) (content : List UInt8) :
    disk.write path.written content = disk.write path content := by
  rw [write, write, resolve_written plain]

theorem exists?_written (plain : path.IsPlain) :
    disk.exists? path.written = disk.exists? path := by
  rw [exists?, exists?, find?, find?, resolve_written plain]

end Disk

/-- A path that the system takes and that its text can stand for. -/
structure Path.IsNameable (path : Path) : Prop where
  plain : path.IsPlain
  text : Disk.IsPathText path.text

end RoleVault.Files
