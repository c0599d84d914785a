import RoleVault.Proofs.Files.Descent

/-!
Contract: creating a directory with those above it is over and done with at one go.

Owns:
- `Path.upTo`, the paths that are created one after the other on the way to a directory;
- `createDirectory_upTo`, how the next of them ends once those before it are there;
- `createDirectories_repeated`: a second time comes to the same as the first, however that ended.

Does not own: what creating a directory means to the names in it (`RoleVault.Proofs.Files.Descent`).
-/

namespace RoleVault.Files

/-- The path of the first components of a path. -/
def Path.upTo (path : Path) (count : Nat) : Path :=
  .ofComponents path.isAbsolute (path.components.take count)

/-- The steps of the first components of a path, after an empty one for the root. -/
def Path.trail (path : Path) (count : Nat) : List String :=
  (if path.isAbsolute then [""] else []) ++ path.components.take count

namespace Disk

variable {disk : Disk} {path : Path} {here place : Location} {entry : Entry} {name : String}
variable {steps front : List String}

/-! ## The first components of a path -/

private theorem head_steps (absolute : path.isAbsolute = true) : path.steps.head? = some "" := by
  obtain ⟨rest, characters⟩ := List.head?_eq_some_iff.mp (startsWith_slash.mp absolute)
  rw [Path.steps, splitOn_slash, characters, List.splitOn_cons_eq_if_modifyHead]
  simp

private theorem take_filled {count : Nat} (within : count < path.components.length) :
    path.components.take (count + 1) ≠ [] := by
  rw [Ne, List.take_eq_nil_iff]
  rintro (zero | none)
  · cases zero
  · simp [none] at within

private theorem trail_succ {count : Nat} (within : count < path.components.length) :
    path.trail (count + 1) = path.trail count ++ [path.components[count]] := by
  rw [Path.trail, List.take_succ_eq_append_getElem within, ← List.append_assoc, ← Path.trail]

section UpTo

variable {count : Nat} (plain : path.IsPlain)

include plain

private theorem upTo_pieces (count : Nat) : ∀ piece ∈ path.components.take count, IsPiece piece :=
  fun _ member => Path.isPiece_of_mem_components plain (List.mem_of_mem_take member)

theorem steps_upTo (within : count < path.components.length) :
    (path.upTo (count + 1)).steps = path.trail (count + 1) := by
  rw [Path.upTo, Path.steps_ofComponents _ (upTo_pieces plain _), if_neg (take_filled within),
    Path.trail]

private theorem moving_upTo (count : Nat) :
    moving (path.upTo count).steps = moving (path.trail count) := by
  rw [Path.upTo, moving_ofComponents _ (upTo_pieces plain _), Path.trail, moving_append]
  cases path.isAbsolute <;> rfl

private theorem components_upTo (count : Nat) :
    (path.upTo count).components = path.components.take count := by
  have goes {few : List String} (among : few <+: moving path.steps) : moving few = few :=
    List.filter_eq_self.mpr fun step member => (List.mem_filter.mp (among.subset member)).2
  have undotted {few : List String} (among : few <+: moving path.steps) :
      few.head? ≠ some "." := by
    intro head
    have kept := (List.mem_filter.mp (among.subset (List.mem_of_mem_head? head))).2
    simp at kept
  have whole := components_eq path
  rw [components_eq, Path.upTo, moving_ofComponents _ (upTo_pieces plain count),
    Path.steps_ofComponents _ (upTo_pieces plain count)]
  by_cases dotted : path.steps.head? = some "."
  · -- a path that begins with a dot is relative
    have relative : path.isAbsolute = false := by
      cases absolute : path.isAbsolute with
      | false => rfl
      | true =>
        simp [head_steps absolute] at dotted
    rw [if_pos dotted] at whole
    rw [whole, relative]
    cases count with
    | zero => simp [moving]
    | succ count =>
      have few : (moving path.steps).take count <+: moving path.steps := List.take_prefix _ _
      simp [moving_cons_of_stays, goes few]
  · rw [if_neg dotted] at whole
    have few : (moving path.steps).take count <+: moving path.steps := List.take_prefix _ _
    rw [whole, goes few, if_neg]
    cases path.isAbsolute with
    | true => simp
    | false =>
      rw [if_neg Bool.false_ne_true, List.nil_append]
      split
      · simp
      · exact undotted few

/-- The parents of a path are the paths before it on its own way. -/
theorem withParents_upTo (within : count < path.components.length) :
    (path.upTo (count + 1)).withParents =
      path.upTo (count + 1) :: (path.upTo count).withParents := by
  have filled := List.isEmpty_eq_false_iff.mpr (take_filled within)
  have absolute (count : Nat) : (path.upTo count).isAbsolute = path.isAbsolute :=
    Path.isAbsolute_ofComponents _ (upTo_pieces plain count)
  have above (others : List Nat) (below : ∀ fewer ∈ others, fewer ≤ count) :
      others.map (fun fewer => Path.ofComponents path.isAbsolute
        ((path.components.take (count + 1)).take fewer)) =
      others.map (fun fewer => Path.ofComponents path.isAbsolute
        ((path.components.take count).take fewer)) := by
    refine List.map_congr_left fun fewer member => ?_
    have small := below fewer member
    rw [List.take_take, List.take_take, Nat.min_eq_left (by omega), Nat.min_eq_left small]
  unfold Path.withParents
  simp only [components_upTo plain, absolute, filled, List.length_take_of_le within,
    List.length_take_of_le (Nat.le_of_lt within), Bool.false_eq_true, if_false, List.cons.injEq,
    true_and]
  cases count with
  | zero => rfl
  | succ count =>
    have more := List.isEmpty_eq_false_iff.mpr (take_filled (Nat.lt_of_succ_lt within))
    simp only [more, Bool.false_eq_true, if_false]
    have longest : ((List.range (count + 1 + 1)).drop 1).reverse =
        (count + 1) :: ((List.range (count + 1)).drop 1).reverse := by
      rw [List.range_succ, List.drop_append_of_le_length (by simp), List.reverse_append]
      rfl
    rw [longest, List.map_cons, List.take_take, Nat.min_eq_left (Nat.le_succ _), above]
    · rfl
    · intro fewer member
      have small := List.mem_range.mp (List.mem_of_mem_drop (List.mem_reverse.mp member))
      omega

end UpTo

/-! ## Creating a directory -/

/-- Creating a directory under a fitting text fails as going to it does. -/
theorem createDirectory_error {path : Path} {failure : DiskError} (text : IsPathText path.text)
    (ends : path.steps = front ++ [name]) (filled : name ≠ "")
    (fails : disk.walk (disk.origin path) path.steps = .error failure) :
    disk.createDirectory path = .error failure := by
  have follows : disk.follow path path.steps = .error failure := by
    obtain ⟨clean, written, short⟩ := text
    rw [follow, clean, written]
    simpa [origin, Nat.not_lt.mpr short] using fails
  rw [createDirectory, ends, dropSlashes_concat filled, ← ends, follows]
  rfl

/-- What is there already is not created. -/
theorem createDirectory_present {path : Path} (text : IsPathText path.text)
    (ends : path.steps = front ++ [name]) (filled : name ≠ "")
    (leads : Leads disk (disk.origin path) path.steps place entry) :
    disk.createDirectory path = .error .alreadyExists := by
  have follows : disk.follow path path.steps = .ok (.entry place entry) :=
    follow_eq_ok_iff.mpr ⟨text, leads.walk⟩
  rw [createDirectory, ends, dropSlashes_concat filled, ← ends, follows]
  rfl

theorem createDirectory_vacant {path : Path} {slashed : Bool} (text : IsPathText path.text)
    (ends : path.steps = front ++ [name]) (filled : name ≠ "")
    (vacant : disk.walk (disk.origin path) path.steps = .ok (.vacant place slashed)) :
    disk.createDirectory path = .ok (disk.put place .directory) := by
  have follows : disk.follow path path.steps = .ok (.vacant place slashed) :=
    follow_eq_ok_iff.mpr ⟨text, vacant⟩
  rw [createDirectory, ends, dropSlashes_concat filled, ← ends, follows]
  rfl

/-- One step from a directory leads to a directory, or down to where nothing stands, or to something
else that stands there. -/
theorem leads_step (tree : IsTree disk) (here : disk.get? place = some .directory)
    (filled : name ≠ "") (short : name.utf8ByteSize ≤ maxNameSize) :
    (∃ there, Leads disk place [name] there .directory) ∨
      GoesDown name ∧ disk.get? (place ++ [name]) = none ∨
      ∃ there entry, Leads disk place [name] there entry ∧ disk.get? there = some entry ∧
        entry ≠ .directory := by
  by_cases dot : name = "."
  · exact .inl ⟨place, .stay here (.inr dot) (.arrive here)⟩
  by_cases back : name = ".."
  · rw [back]
    exact .inl ⟨_, .up here (.arrive (tree _ _ here))⟩
  have descends : GoesDown name := ⟨filled, dot, back, short⟩
  cases stands : disk.get? (place ++ [name]) with
  | none => exact .inr (.inl ⟨descends, rfl⟩)
  | some entry =>
    have last : Leads disk place [name] (place ++ [name]) entry :=
      .down here descends stands (.arrive stands)
    by_cases directory : entry = .directory
    · exact .inl ⟨_, directory ▸ last⟩
    · exact .inr (.inr ⟨_, entry, last, stands, directory⟩)

/-- Where nothing is found on the way to a directory, its text is that of a path. -/
theorem isPathText_of_notFound {path : Path} (filled : path.text.isEmpty = false)
    (missing : disk.createDirectory path = .error .notFound) : IsPathText path.text := by
  unfold createDirectory follow at missing
  by_cases nul : path.text.contains '\x00' = true
  · simp [nul] at missing
    cases missing
  · by_cases long : maxPathSize < path.text.utf8ByteSize
    · simp [nul, filled, long] at missing
      cases missing
    · exact ⟨by simpa using nul, filled, Nat.not_lt.mp long⟩

def ComesUponLongName (disk : Disk) (here : Location) (steps : List String) : Prop :=
  ∃ front name rest place, steps = front ++ name :: rest ∧
    Leads disk here front place .directory ∧ maxNameSize < name.utf8ByteSize

/-- A name that is too long stops a walk when it comes upon it. -/
theorem ComesUponLongName.walk (comes : ComesUponLongName disk here steps) :
    disk.walk here steps = .error .nameTooLong := by
  obtain ⟨front, name, rest, place, rfl, leads, long⟩ := comes
  have other (special : String) (short : special.utf8ByteSize ≤ maxNameSize) : name ≠ special := by
    rintro rfl
    omega
  rw [leads.walk_append, Disk.walk]
  simp [leads.get?, long, other "" (by decide), other "." (by decide), other ".." (by decide)]

theorem ComesUponLongName.append (comes : ComesUponLongName disk here steps)
    (further : List String) : ComesUponLongName disk here (steps ++ further) := by
  obtain ⟨front, name, rest, place, rfl, leads, long⟩ := comes
  exact ⟨front, name, rest ++ further, place, by simp, leads, long⟩

/-- The steps back on the way to a directory are among those of its path. -/
theorem StepsBackInside.trail (inside : StepsBackInside disk (disk.origin path) path.steps)
    (plain : path.IsPlain) (count : Nat) :
    StepsBackInside disk (disk.origin path) (path.trail count) := by
  have whole : moving (path.trail path.components.length) = moving path.steps := by
    rw [← moving_upTo plain, Path.upTo, List.take_length, moving_ofComponents _ (direct_pieces plain),
      moving_components]
  refine (inside.of_moving_eq whole).shorten ?_
  rw [Path.trail, Path.trail, List.take_length]
  exact (List.prefix_append_right_inj _).mpr (List.take_prefix _ _)

section Components

variable (inside : StepsBackInside disk (disk.origin path) path.steps) (plain : path.IsPlain)
variable (tree : IsTree disk) {count : Nat}

include plain

private theorem text_upTo_filled (within : count < path.components.length) :
    (path.upTo (count + 1)).text.isEmpty = false := by
  have piece := Path.isPiece_of_mem_components plain (List.getElem_mem within)
  by_contra blank
  have blank : (path.upTo (count + 1)).base = "" := by
    simpa [Path.text, Path.upTo, Path.ofComponents] using blank
  have steps := steps_upTo plain within
  rw [trail_succ within, Path.steps, blank, splitOn_empty] at steps
  have last : path.components[count] ∈ [""] ++ (path.upTo (count + 1)).names := by
    rw [steps]
    simp
  exact piece.1 (by simpa [Path.upTo, Path.ofComponents] using last)

include inside tree

/-- Once the directory before a component is created, that component can be created, or is there as a
directory, or its name is too long. -/
theorem createDirectory_upTo {failure : DiskError} (within : count < path.components.length)
    (done : (disk.createDirectories (path.upTo count)).1 = .ok ())
    (missing : disk.createDirectory (path.upTo (count + 1)) = .error .notFound)
    (refused : (disk.createDirectories (path.upTo count)).2.createDirectory
      (path.upTo (count + 1)) = .error failure) :
    failure = .alreadyExists ∧
        (disk.createDirectories (path.upTo count)).2.isDirectory (path.upTo (count + 1)) = true ∨
      failure = .nameTooLong ∧ ComesUponLongName (disk.createDirectories (path.upTo count)).2
        (disk.origin path) (path.trail (count + 1)) := by
  have grows := createDirectories_extends disk (path.upTo count)
  have text := isPathText_of_notFound (text_upTo_filled plain within) missing
  have filled := (Path.isPiece_of_mem_components plain (List.getElem_mem within)).1
  have steps := steps_upTo plain within
  have ends := steps.trans (trail_succ within)
  have origin (count : Nat) (tree : Disk) : tree.origin (path.upTo count) = tree.origin path :=
    origin_ofComponents tree (upTo_pieces plain count)
  obtain ⟨place, leads⟩ := createDirectories_leads done
  rw [origin, origin_congr grows.home] at leads
  have leads := leads_of_moving_eq (moving_upTo plain count) leads
  have afterTree := createDirectories_isTree tree (path.upTo count)
  have adds : ∀ {there found}, (disk.createDirectories (path.upTo count)).2.get? there = some found →
      found ≠ .directory → disk.get? there = some found :=
    fun held plain => (createDirectories_plain plain).mp held
  generalize (disk.createDirectories (path.upTo count)).2 = after at *
  have found {there : Location} {found : Entry}
      (last : Leads after place [path.components[count]] there found) :
      Leads after (after.origin (path.upTo (count + 1))) (path.upTo (count + 1)).steps there
        found := by
    rw [origin, origin_congr grows.home, ends]
    exact leads.append last
  by_cases long : maxNameSize < path.components[count].utf8ByteSize
  · right
    have comes : ComesUponLongName after (disk.origin path) (path.trail (count + 1)) :=
      ⟨path.trail count, _, [], place, trail_succ within, leads, long⟩
    have fails := comes.walk
    rw [← steps, ← origin_congr grows.home, ← origin (count + 1)] at fails
    rw [createDirectory_error text ends filled fails] at refused
    cases refused
    exact ⟨rfl, comes⟩
  · left
    rcases leads_step afterTree leads.get? filled (Nat.not_lt.mp long) with
      ⟨there, last⟩ | ⟨descends, free⟩ | ⟨there, entry, last, stands, other⟩
    · rw [createDirectory_present text ends filled (found last)] at refused
      cases refused
      exact ⟨rfl, isDirectory_iff.mpr ⟨text, there, found last⟩⟩
    · have arrived : Leads after (after.origin (path.upTo (count + 1))) (path.trail count)
          place .directory := by
        rwa [origin, origin_congr grows.home]
      have vacant := walk_last ends arrived descends
      rw [free] at vacant
      rw [createDirectory_vacant text ends filled vacant] at refused
      cases refused
    · -- a file was there before, so that the directory was not missing
      have whole := leads.append last
      rw [← trail_succ within] at whole
      have before := (inside.trail plain (count + 1)).leads tree grows whole (adds stands other)
      rw [← steps, ← origin (count + 1)] at before
      rw [createDirectory_present text ends filled before] at missing
      cases missing

/-- Creating a directory ends with it there, or with all as it was, or at a name that is too long. -/
theorem createDirectories_upTo (within : count ≤ path.components.length) :
    (disk.createDirectories (path.upTo count)).1 = .ok () ∨
      (disk.createDirectories (path.upTo count)).2 = disk ∨
      (disk.createDirectories (path.upTo count)).1 = .error .nameTooLong ∧
        IsPathText (path.upTo count).text ∧
        ComesUponLongName (disk.createDirectories (path.upTo count)).2 (disk.origin path)
          (path.trail count) := by
  induction count with
  | zero =>
    left
    rw [createDirectories, Path.withParents, components_upTo plain]
    rfl
  | succ count inductionHypothesis =>
    have earlier := inductionHypothesis (Nat.le_of_succ_le within)
    rw [createDirectories, withParents_upTo plain within, createChain]
    rw [createDirectories] at earlier
    simp only
    cases first : disk.createDirectory (path.upTo (count + 1)) with
    | ok after => exact .inl rfl
    | error failure =>
      by_cases missing : failure = .notFound
      · subst missing
        cases above : disk.createChain (path.upTo count).withParents with
        | mk outcome between =>
          rw [above] at earlier
          have text := isPathText_of_notFound (text_upTo_filled plain within) first
          cases outcome with
          | error failure =>
            simp only
            rcases earlier with done | same | ⟨long, _, comes⟩
            · cases done
            · exact .inr (.inl same)
            · rw [trail_succ within]
              exact .inr (.inr ⟨long, text, comes.append _⟩)
          | ok _ =>
            simp only
            cases second : between.createDirectory (path.upTo (count + 1)) with
            | ok after => exact .inl rfl
            | error failure =>
              simp only
              have ends : disk.createDirectories (path.upTo count) = (.ok (), between) := above
              have settles := createDirectory_upTo inside plain tree within
                (congrArg Prod.fst ends) first (by rw [ends]; exact second)
              rw [ends] at settles
              rcases settles with ⟨rfl, stands⟩ | ⟨rfl, comes⟩
              · exact .inl (by simp [stands])
              · exact .inr (.inr ⟨rfl, text, comes⟩)
      · refine .inr (.inl ?_)
        cases failure <;> first | rfl | exact absurd rfl missing

/-- Creating a directory twice comes to the same as creating it once. -/
theorem createDirectories_repeated :
    (disk.createDirectories path.direct).2.createDirectories path.direct =
      disk.createDirectories path.direct := by
  have whole : path.direct = path.upTo path.components.length := by
    rw [Path.direct, Path.upTo, List.take_length]
  have ends := createDirectories_upTo inside plain tree (Nat.le_refl path.components.length)
  rw [whole]
  rcases ends with done | same | ⟨long, text, comes⟩
  · exact createDirectories_twice (.inl done)
  · exact createDirectories_twice (.inr same)
  · cases size : path.components.length with
    | zero =>
      rw [size, createDirectories, Path.withParents, components_upTo plain] at long
      cases long
    | succ count =>
      have within : count < path.components.length := by omega
      have filled := (Path.isPiece_of_mem_components plain (List.getElem_mem within)).1
      have steps := steps_upTo plain within
      have home := (createDirectories_extends disk (path.upTo (count + 1))).home
      rw [size] at long text comes
      generalize made : disk.createDirectories (path.upTo (count + 1)) = ending at *
      obtain ⟨_, after⟩ := ending
      obtain rfl := long
      have fails := comes.walk
      rw [← steps, ← origin_congr home, ← origin_ofComponents after (upTo_pieces plain _)] at fails
      have refused := createDirectory_error text (steps.trans (trail_succ within)) filled fails
      rw [createDirectories, withParents_upTo plain within]
      simp [createChain, refused]

end Components

end Disk

end RoleVault.Files
