import Mathlib
import RoleVault.Proofs.Files.Tree

/-!
Contract: what creating a directory means to the names in it.

Owns:
- walks without steps back, which go the same way in every tree in which their end stands;
- `StepsBackInside`, steps of which those back are taken where directories are there already;
- `createDirectories_find?`: creating such a directory brings nothing about under a name in it;
- what a name in a directory leads to before and after a file is written beside it.

Does not own: creating directories (`RoleVault.Proofs.Files.Tree`).
-/

namespace RoleVault.Files

/-- A path without the steps that stay where they are. -/
def Path.direct (path : Path) : Path :=
  .ofComponents path.isAbsolute path.components

namespace Disk

variable {disk other : Disk} {path : Path} {here place : Location} {entry : Entry} {name : String}
variable {steps front back : List String}

/-! ## The directory of a name -/

private theorem components_child (path : Path) (descends : GoesDown name) :
    (path.child name).components = path.components ++ [name] := by
  have filled : path.steps ≠ [] := by
    intro none
    have pieces := (List.append_eq_nil_iff.mp none).1
    rw [splitOn_slash, List.map_eq_nil_iff] at pieces
    exact List.splitOn_ne_nil _ _ pieces
  have first : (path.steps ++ [name]).head? = path.steps.head? :=
    List.head?_append_of_ne_nil _ filled
  have kept : moving [name] = [name] :=
    moving_cons_of_goes (not_or.mpr ⟨descends.1, descends.2.1⟩) []
  rw [components_eq, components_eq, steps_child, first, moving_append, kept]
  split <;> rfl

/-- The path above a name is that of the directory. -/
theorem parent?_child (path : Path) (descends : GoesDown name) :
    (path.child name).parent? = some path.direct := by
  rw [Path.parent?, components_child path descends]
  simp [Path.direct, Path.isAbsolute, Path.child]

theorem direct_pieces (plain : path.IsPlain) : ∀ piece ∈ path.components, IsPiece piece :=
  fun _ => Path.isPiece_of_mem_components plain

private theorem isPlain_direct (path : Path) : path.direct.IsPlain := by
  intro name member
  cases member

private theorem moving_direct (plain : path.IsPlain) :
    moving path.direct.steps = moving path.steps := by
  rw [Path.direct, moving_ofComponents _ (direct_pieces plain), moving_components]

private theorem origin_direct (disk : Disk) (plain : path.IsPlain) :
    disk.origin path.direct = disk.origin path :=
  origin_ofComponents disk (direct_pieces plain)

/-- Where the directory of a path has been created, the path leads to it. -/
theorem createDirectories_direct (plain : path.IsPlain)
    (done : (disk.createDirectories path.direct).1 = .ok ()) :
    ∃ place, Leads (disk.createDirectories path.direct).2
      ((disk.createDirectories path.direct).2.origin path) path.steps place .directory := by
  obtain ⟨place, leads⟩ := createDirectories_leads done
  rw [origin_direct _ plain] at leads
  exact ⟨place, leads_of_moving_eq (moving_direct plain) leads⟩

/-! ## Walks without steps back -/

/-- Without steps back, a walk stays below where it begins. -/
theorem Leads.start_prefix (leads : Leads disk here steps place entry) (down : ".." ∉ steps) :
    here <+: place := by
  induction leads with
  | arrive _ => exact List.prefix_rfl
  | stay _ _ _ inductionHypothesis =>
    exact inductionHypothesis fun member => down (List.mem_cons_of_mem _ member)
  | «up» _ _ _ => exact absurd List.mem_cons_self down
  | «down» _ _ _ _ inductionHypothesis =>
    exact (List.prefix_append _ _).trans
      (inductionHypothesis fun member => down (List.mem_cons_of_mem _ member))

private theorem IsTree.directory_above (tree : IsTree disk) (below : here <+: place)
    (apart : here ≠ place) (stands : disk.get? place = some entry) :
    disk.get? here = some .directory := by
  obtain ⟨rest, rfl⟩ := below
  refine tree.above rest stands ?_
  rintro rfl
  exact apart (List.append_nil here).symm

/-- A walk without steps back goes the same way in every tree in which its end stands. -/
theorem Leads.in_tree (leads : Leads other here steps place entry) (down : ".." ∉ steps)
    (tree : IsTree disk) (stands : disk.get? place = some entry) :
    Leads disk here steps place entry := by
  induction leads with
  | arrive _ => exact .arrive stands
  | @stay here place step rest entry directory stays further inductionHypothesis =>
    have down := fun member => down (List.mem_cons_of_mem step member)
    refine .stay ?_ stays (inductionHypothesis down stands)
    by_cases same : here = place
    · subst same
      rwa [← directory.symm.trans further.get?] at stands
    · exact tree.directory_above (further.start_prefix down) same stands
  | «up» _ _ _ => exact absurd List.mem_cons_self down
  | @«down» here place step rest _ entry directory plain _ further inductionHypothesis =>
    have down := fun member => down (List.mem_cons_of_mem step member)
    have below := further.start_prefix down
    obtain ⟨_, held⟩ : ∃ found, disk.get? (here ++ [step]) = some found := by
      by_cases same : here ++ [step] = place
      · exact ⟨entry, same ▸ stands⟩
      · exact ⟨_, tree.directory_above below same stands⟩
    refine .down (tree.directory_above ((List.prefix_append _ _).trans below) ?_ stands) plain
      held (inductionHypothesis down stands)
    rintro rfl
    have longer := below.length_le
    simp at longer

/-- Everywhere on the way of a walk something stands. -/
theorem Leads.visited (leads : Leads disk here steps place entry) (count : Nat) :
    ∃ found, disk.get? (Disk.destination here (steps.take count)) = some found := by
  induction leads generalizing count with
  | arrive stands => exact ⟨_, by simpa [Disk.destination] using stands⟩
  | @stay here _ step rest _ directory stays _ inductionHypothesis =>
    cases count with
    | zero => exact ⟨_, directory⟩
    | succ count =>
      obtain ⟨found, stands⟩ := inductionHypothesis count
      exact ⟨found, by simpa [stepFrom, stays] using stands⟩
  | @«up» here _ rest _ directory _ inductionHypothesis =>
    cases count with
    | zero => exact ⟨_, directory⟩
    | succ count =>
      obtain ⟨found, stands⟩ := inductionHypothesis count
      exact ⟨found, by simpa [stepFrom] using stands⟩
  | @«down» here _ step rest _ _ directory plain _ _ inductionHypothesis =>
    cases count with
    | zero => exact ⟨_, directory⟩
    | succ count =>
      obtain ⟨found, stands⟩ := inductionHypothesis count
      exact ⟨found, by rwa [List.take_succ_cons, destination_cons, stepFrom_of_goesDown plain]⟩

/-- Steps to a directory may be followed by steps from there. -/
theorem Leads.append {between : Location} (first : Leads disk here front between .directory)
    (second : Leads disk between back place entry) :
    Leads disk here (front ++ back) place entry := by
  rw [← walk_eq_entry_iff, first.walk_append]
  exact second.walk

/-- A walk that ends in a directory goes through directories. -/
theorem Leads.in_directories (leads : Leads disk here (front ++ back) place .directory) :
    ∃ between, Leads disk here front between .directory := by
  induction front generalizing here with
  | nil => exact ⟨here, .arrive leads.starts_in_directory⟩
  | cons step rest inductionHypothesis =>
    cases leads with
    | stay directory stays further =>
      obtain ⟨between, leads⟩ := inductionHypothesis further
      exact ⟨between, .stay directory stays leads⟩
    | «up» directory further =>
      obtain ⟨between, leads⟩ := inductionHypothesis further
      exact ⟨between, .up directory leads⟩
    | «down» directory plain stands further =>
      obtain ⟨between, leads⟩ := inductionHypothesis further
      exact ⟨between, .down directory plain stands leads⟩

/-! ## Steps back -/

def StepsBackInside (disk : Disk) (here : Location) (steps : List String) : Prop :=
  ∃ front back place, steps = front ++ back ∧ Leads disk here front place .directory ∧ ".." ∉ back

/-- Steps without steps back are such. -/
theorem stepsBackInside_of_down (directory : disk.get? here = some .directory)
    (down : ".." ∉ steps) : StepsBackInside disk here steps :=
  ⟨[], steps, here, rfl, .arrive directory, down⟩

namespace StepsBackInside

variable (inside : StepsBackInside disk here steps)

include inside

private theorem concat (forward : name ≠ "..") : StepsBackInside disk here (steps ++ [name]) := by
  obtain ⟨front, back, place, rfl, leads, down⟩ := inside
  refine ⟨front, back ++ [name], place, List.append_assoc .., leads, ?_⟩
  simpa [down] using forward.symm

theorem shorten {fewer : List String} (shorter : fewer <+: steps) :
    StepsBackInside disk here fewer := by
  obtain ⟨front, back, place, rfl, leads, down⟩ := inside
  obtain ⟨rest, whole⟩ := shorter
  rcases List.append_eq_append_iff.mp whole with ⟨more, rfl, _⟩ | ⟨more, rfl, rfl⟩
  · obtain ⟨between, leads⟩ := leads.in_directories
    exact ⟨fewer, [], between, (List.append_nil _).symm, leads, List.not_mem_nil⟩
  · exact ⟨front, more, place, rfl, leads, fun member => down (List.mem_append_left _ member)⟩

/-- Steps that stay do not matter. -/
theorem of_moving_eq {others : List String} (same : moving others = moving steps) :
    StepsBackInside disk here others := by
  obtain ⟨front, back, place, rfl, leads, down⟩ := inside
  rw [moving_append] at same
  obtain ⟨first, second, rfl, frontSame, backSame⟩ := List.filter_eq_append_iff.mp same
  refine ⟨first, second, place, rfl, leads_of_moving_eq frontSame.symm leads, fun member => ?_⟩
  have kept : ".." ∈ moving second := List.mem_filter.mpr ⟨member, by decide⟩
  rw [show moving second = moving back from backSame] at kept
  exact down (List.mem_of_mem_filter kept)

/-- Such a walk goes the same way in a smaller tree in which its end stands. -/
theorem leads (tree : IsTree disk) (grows : Extends disk other)
    (walks : Leads other here steps place entry) (stands : disk.get? place = some entry) :
    Leads disk here steps place entry := by
  obtain ⟨front, back, between, rfl, leadsFront, down⟩ := inside
  have descent : Leads other between back place entry := by
    have whole := walks.walk
    rw [(leadsFront.extend grows).walk_append] at whole
    exact walk_eq_entry_iff.mp whole
  exact leadsFront.append (descent.in_tree down tree stands)

end StepsBackInside

/-! ## Creating a directory -/

/-- Where nothing stands under a name in a directory, the way to the directory does not name that
place. -/
theorem place_child_not_mem_places
    (inside : StepsBackInside disk (disk.origin path) path.steps) (plain : path.IsPlain)
    (descends : GoesDown name) (free : disk.get? ((path.child name).place disk.home) = none) :
    (path.child name).place disk.home ∉ path.direct.places disk.home := by
  obtain ⟨front, back, place, split, leads, down⟩ := inside
  have deep : ((path.child name).place disk.home).length =
      place.length + (moving back).length + 1 := by
    change (destination (disk.origin path) (path.child name).steps).length = _
    rw [steps_child, split, destination_append, destination_append, ← leads.destination,
      destination_cons, stepFrom_of_goesDown descends, ← length_destination down]
    simp [destination]
  intro member
  obtain ⟨count, there⟩ := (mem_places_iff disk path.direct).mp member
  rw [origin_direct disk plain, ← destination_moving] at there
  -- only the steps that go somewhere count, those of the front first
  obtain ⟨few, same⟩ : ∃ few, moving (path.direct.components.take count) =
      (moving front ++ moving back).take few := by
    have whole : moving path.direct.components = moving front ++ moving back := by
      rw [moving_components, moving_direct plain, split, moving_append]
    have shorter : moving (path.direct.components.take count) <+:
        moving path.direct.components := (List.take_prefix _ _).filter _
    rw [whole] at shorter
    exact ⟨_, List.prefix_iff_eq_take.mp shorter⟩
  rw [same, List.take_append, destination_append] at there
  rcases Nat.lt_or_ge (moving front).length few with long | short
  · rw [List.take_of_length_le (Nat.le_of_lt long), destination_moving, ← leads.destination]
      at there
    have shallow := length_destination_le place ((moving back).take (few - (moving front).length))
    have fewer := ((List.take_sublist (few - (moving front).length) (moving back)).filter
      fun step => step != "" && step != ".").length_le
    change (moving _).length ≤ (moving (moving back)).length at fewer
    rw [moving_moving] at fewer
    rw [there] at deep
    omega
  · obtain ⟨found, stands⟩ := (leads_moving_iff.mpr leads).visited few
    rw [Nat.sub_eq_zero_of_le short, List.take_zero] at there
    rw [there] at free
    rw [destination, List.foldl_nil, stands] at free
    cases free

/-- Creating such a directory changes nothing under a name in it. -/
theorem createDirectories_get?_child
    (inside : StepsBackInside disk (disk.origin path) path.steps) (plain : path.IsPlain)
    (descends : GoesDown name) :
    (disk.createDirectories path.direct).2.get? ((path.child name).place disk.home) =
      disk.get? ((path.child name).place disk.home) := by
  cases free : disk.get? ((path.child name).place disk.home) with
  | some entry => exact (createDirectories_extends _ _).get? free
  | none =>
    rw [createDirectories_outside (isPlain_direct path)
      (place_child_not_mem_places inside plain descends free), free]

/-- Whatever a name in such a directory leads to once the directory is created, it led to before. -/
theorem createDirectories_find?
    (inside : StepsBackInside disk (disk.origin path) path.steps) (plain : path.IsPlain)
    (descends : GoesDown name) (tree : IsTree disk) :
    (disk.createDirectories path.direct).2.find? (path.child name) =
      disk.find? (path.child name) := by
  have grows := createDirectories_extends disk path.direct
  have kept := createDirectories_get?_child inside plain descends
  cases before : disk.find? (path.child name) with
  | some entry => exact find?_extend grows before
  | none =>
    cases found : (disk.createDirectories path.direct).2.find? (path.child name) with
    | none => rfl
    | some entry =>
      obtain ⟨there, resolved⟩ := find?_eq_some_iff.mp found
      obtain ⟨text, leads⟩ := resolve_eq_entry_iff.mp resolved
      rw [origin_congr grows.home] at leads
      have stands : disk.get? there = some entry := by
        rw [← leads.get?, leads.destination]
        exact kept.symm
      have leadsBefore : Leads disk (disk.origin (path.child name)) (path.child name).steps there
          entry := by
        rw [steps_child] at leads ⊢
        exact (inside.concat descends.2.2.1).leads tree grows leads stands
      rw [find?_eq_some_iff.mpr ⟨there, resolve_eq_entry_iff.mpr ⟨text, leadsBefore⟩⟩] at before
      cases before

/-! ## Names in a directory -/

private theorem find?_of_not_text (unfit : ¬ IsPathText path.text) : disk.find? path = none := by
  cases found : disk.find? path with
  | none => rfl
  | some entry =>
    obtain ⟨_, resolved⟩ := find?_eq_some_iff.mp found
    exact absurd (resolve_eq_entry_iff.mp resolved).1 unfit

section Child

variable {content : List UInt8}
variable (leads : Leads disk (disk.origin path) path.steps place .directory)
variable (descends : GoesDown name)

include leads descends

/-- A name in a directory leads to what stands under it. -/
theorem find?_child (text : IsPathText (path.child name).text) :
    disk.find? (path.child name) = disk.get? (place ++ [name]) := by
  rw [find?, resolve_child leads descends text]
  cases disk.get? (place ++ [name]) <;> rfl

/-- The directory stays one when a file is written to a name in it. -/
theorem leads_write_child (written : disk.write (path.child name) content = .ok other) :
    Leads other (other.origin path) path.steps place .directory := by
  obtain ⟨_, rfl, plain⟩ := write_child leads descends written
  refine leads.keep_directories fun {there} directory => ?_
  have apart : there ≠ place ++ [name] := by
    rintro rfl
    exact plain directory
  rwa [get?_put_of_ne apart]

/-- A file that was written below a path is found there. -/
theorem find?_written_child (written : disk.write (path.child name) content = .ok other) :
    other.find? (path.child name) = some (.file content) := by
  obtain ⟨text, rfl, plain⟩ := write_child leads descends written
  rw [find?_child (leads_write_child leads descends written) descends text, get?_put_self plain]

/-- Writing a file changes nothing under the other names in its directory. -/
theorem find?_write_child {sibling : String} (goes : GoesDown sibling) (different : sibling ≠ name)
    (written : disk.write (path.child name) content = .ok other) :
    other.find? (path.child sibling) = disk.find? (path.child sibling) := by
  have still := leads_write_child leads descends written
  obtain ⟨_, rfl, plain⟩ := write_child leads descends written
  by_cases text : IsPathText (path.child sibling).text
  · rw [find?_child still goes text, find?_child leads goes text,
      get?_put_of_ne (by simpa using different)]
  · rw [find?_of_not_text text, find?_of_not_text text]

/-- A file cannot be written under a name in a directory only if a directory stands under it or its
path is no text of a path. -/
theorem write_child_error {failure : DiskError} (text : IsPathText (path.child name).text)
    (fails : disk.write (path.child name) content = .error failure) :
    disk.find? (path.child name) = some .directory ∧ failure = .isADirectory := by
  by_cases stands : disk.get? (place ++ [name]) = some .directory
  · rw [find?_child leads descends text]
    refine ⟨stands, ?_⟩
    rw [write, resolve_child leads descends text, stands] at fails
    cases fails
    rfl
  · rw [write_child_ok leads descends text stands] at fails
    cases fails

end Child

end Disk

end RoleVault.Files
