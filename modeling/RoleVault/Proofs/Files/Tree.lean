import RoleVault.Proofs.Files.Directories

/-!
Contract: what each operation on files leaves of a tree.

Owns:
- `Same`, two trees with the same entries at the same places;
- that writing, removing and creating directories leave everything in a directory;
- what creating directories adds: directories alone, none below a path without steps back, and none
  at all where the path led to a directory before.

Does not own: the order in which the vault does such things (`RoleVault.Proofs.Vault.Residue`).
-/

namespace RoleVault.Files

namespace Disk

variable {disk other last : Disk} {place here : Location} {path : Path} {entry : Entry}

/-- Two trees with the same entries at the same places. -/
structure Same (disk other : Disk) : Prop where
  home : other.home = disk.home
  get? : ∀ place, other.get? place = disk.get? place

theorem Same.refl (disk : Disk) : Same disk disk := ⟨rfl, fun _ => rfl⟩

theorem Same.extends (same : Same disk other) : Extends disk other :=
  ⟨same.home, fun held => (same.get? _).trans held⟩

theorem Same.isTree (same : Same disk other) (tree : IsTree disk) : IsTree other :=
  isTree_congr same.get? tree

/-! ## Writing and removing -/

theorem write_isTree {content : List UInt8} (tree : IsTree disk)
    (written : disk.write path content = .ok other) : IsTree other := by
  obtain ⟨place, rfl, ⟨entry, resolved, plain⟩ | resolved⟩ := write_ok written
  · have stands := (resolve_eq_entry_iff.mp resolved).2.get?
    refine tree.put_file ?_ (tree place entry stands) content
    rw [stands]
    exact fun directory => plain (Option.some.inj directory)
  · obtain ⟨_, ends⟩ := follow_eq_ok_iff.mp resolved
    obtain ⟨_, _, _, _, _, above, _, rfl, free, _⟩ := walk_vacant ends
    refine tree.put_file (by simp [free]) ?_ content
    rw [List.dropLast_concat]
    exact above.get?

/-- Removing a place takes all that is below it, but not the directory in which the program runs. -/
theorem get?_removeAt (disk : Disk) (place here : Location) :
    (disk.removeAt place).get? here =
      if place <+: here ∧ ¬ here <+: disk.home then none else disk.get? here := by
  by_cases above : here <+: disk.home
  · rw [if_neg (by simp [above]), get?_above_home above]
    exact get?_above_home above
  · by_cases below : place <+: here
    · simp [get?, removeAt, above, below, lookup_filter_prefix]
    · simp [get?, removeAt, above, below, lookup_filter_prefix]

theorem removeAt_isTree (tree : IsTree disk) (place : Location) :
    IsTree (disk.removeAt place) := by
  intro there stands held
  rw [get?_removeAt] at held ⊢
  split at held
  · cases held
  · rename_i stays
    rw [if_neg, tree there stands held]
    rintro ⟨below, beside⟩
    refine stays ⟨below.trans (List.dropLast_prefix there), fun above => beside ?_⟩
    exact (List.dropLast_prefix there).trans above

/-- Removing a tree leaves the rest a tree. -/
theorem removeTree_isTree (tree : IsTree disk) (path : Path) : IsTree (disk.removeTree path) := by
  unfold removeTree
  split
  · exact removeAt_isTree tree _
  · exact tree

/-! ## Creating directories -/

/-- What comes into being with directories is directories. -/
theorem createDirectories_adds
    (held : (disk.createDirectories path).2.get? place = some entry) :
    disk.get? place = some entry ∨ entry = .directory := by
  refine createChain_keeps
    (fun after => ∀ place entry, after.get? place = some entry →
      disk.get? place = some entry ∨ entry = .directory)
    path.withParents ?_ (fun _ _ held => .inl held) place entry held
  intro between parent after _ kept created there entry held
  obtain ⟨new, _, free, _, rfl, _⟩ := createDirectory_leads created
  by_cases same : there = new
  · rw [same, get?_put_self (by simp [free])] at held
    exact .inr (Option.some.inj held).symm
  · rw [get?_put_of_ne same] at held
    exact kept there entry held

/-- At every place there is what was there before, or a directory that has come into being on the way
to the path. -/
theorem createDirectories_created (plain : path.IsPlain) (place : Location) :
    (disk.createDirectories path).2.get? place = disk.get? place ∨
      disk.get? place = none ∧ (disk.createDirectories path).2.get? place = some .directory ∧
        place ∈ path.places disk.home := by
  by_cases outside : place ∉ path.places disk.home
  · exact .inl (createDirectories_outside plain outside)
  · cases stood : disk.get? place with
    | some entry => exact .inl ((createDirectories_extends disk path).get? stood)
    | none =>
      cases stands : (disk.createDirectories path).2.get? place with
      | none => exact .inl rfl
      | some entry =>
        rcases createDirectories_adds stands with before | rfl
        · rw [stood] at before
          cases before
        · exact .inr ⟨rfl, rfl, not_not.mp outside⟩

/-- Entries other than directories are the same before and after. -/
theorem createDirectories_plain (plain : entry ≠ .directory) :
    (disk.createDirectories path).2.get? place = some entry ↔ disk.get? place = some entry :=
  ⟨fun held => (createDirectories_adds held).resolve_right plain,
    fun held => (createDirectories_extends disk path).get? held⟩

private theorem moving_dropSlashes (steps : List String) :
    moving (dropSlashes steps) = moving steps := by
  obtain ⟨slashes, split, blank⟩ := dropSlashes_append steps
  have stays : moving slashes = [] := List.filter_eq_nil_iff.mpr fun step member => by
    simp [blank step member]
  conv_rhs => rw [split, moving_append, stays, List.append_nil]

/-- Where a path leads to a directory, none is created. -/
theorem createDirectories_present (stands : disk.isDirectory path = true) :
    disk.createDirectories path = (.ok (), disk) := by
  obtain ⟨text, place, leads⟩ := isDirectory_iff.mp stands
  have follows : disk.follow path (dropSlashes path.steps) = .ok (.entry place .directory) :=
    follow_eq_ok_iff.mpr
      ⟨text, (leads_of_moving_eq (moving_dropSlashes path.steps).symm leads).walk⟩
  have refused : disk.createDirectory path = .error .alreadyExists := by
    rw [createDirectory, follows]
    rfl
  unfold createDirectories Path.withParents
  simp only
  split
  · rfl
  · simp [createChain, refused, stands]

/-- Once a path has been created, it need not be created again, whatever else has been since. -/
theorem createDirectories_again (done : (disk.createDirectories path).1 = .ok ())
    (grows : Extends (disk.createDirectories path).2 other) :
    other.createDirectories path = (.ok (), other) := by
  by_cases none : path.components = []
  · simp [createDirectories, Path.withParents, none, createChain]
  · obtain ⟨parents, chain⟩ : ∃ parents, path.withParents = path :: parents := by
      simp [Path.withParents, none]
    refine createDirectories_present ?_
    unfold createDirectories at done grows
    rw [chain] at done grows
    have found : (disk.createChain (path :: parents)).2.find? path = some .directory := by
      simpa [isDirectory] using createChain_isDirectory done
    simp [isDirectory, find?_extend grows found]

/-- Creating a path twice comes to the same as creating it once, unless the first time ends
half-way. -/
theorem createDirectories_twice
    (ends : (disk.createDirectories path).1 = .ok () ∨ (disk.createDirectories path).2 = disk) :
    (disk.createDirectories path).2.createDirectories path = disk.createDirectories path := by
  rcases ends with done | same
  · rw [createDirectories_again done (.refl _), ← done]
  · rw [same]

theorem dropSlashes_concat {front : List String} {name : String} (filled : name ≠ "") :
    dropSlashes (front ++ [name]) = front ++ [name] := by
  simp [dropSlashes, filled]

/-- A name in a directory can be created where nothing stands under it. -/
theorem createDirectory_child {name : String}
    (leads : Leads disk (disk.origin path) path.steps place .directory) (descends : GoesDown name)
    (text : IsPathText (path.child name).text) (free : disk.get? (place ++ [name]) = none) :
    disk.createDirectory (path.child name) = .ok (disk.put (place ++ [name]) .directory) := by
  have walks := walk_last (steps_child path name) leads descends
  rw [free] at walks
  have follows : disk.follow (path.child name) (dropSlashes (path.child name).steps) =
      .ok (.vacant (place ++ [name]) false) := by
    rw [steps_child, dropSlashes_concat descends.1, ← steps_child]
    exact follow_eq_ok_iff.mpr ⟨text, walks⟩
  rw [createDirectory, follows]
  rfl

/-- Without steps back, a path does not lead through a place below its end. -/
theorem not_mem_places_below (disk : Disk) (down : ".." ∉ path.steps) {below : Location}
    (filled : below ≠ []) : path.place disk.home ++ below ∉ path.places disk.home := by
  intro member
  have longer := List.length_pos_of_ne_nil filled
  obtain ⟨count, there⟩ := (mem_places_iff disk path).mp member
  have deep : (path.place disk.home).length =
      (disk.origin path).length + (moving path.steps).length := length_destination down _
  have shallow := length_destination_le (disk.origin path) (path.components.take count)
  have fewer : (moving (path.components.take count)).length ≤ (moving path.steps).length := by
    rw [← moving_components]
    exact ((List.take_sublist _ _).filter _).length_le
  rw [← there, List.length_append] at shallow
  omega

/-- What is in a directory is the same before and after it is created with those above it. -/
theorem createDirectories_inside (plain : path.IsPlain)
    (settled : ".." ∉ path.steps ∨ disk.isDirectory path = true) {below : Location}
    (filled : below ≠ []) :
    (disk.createDirectories path).2.get? (path.place disk.home ++ below) =
      disk.get? (path.place disk.home ++ below) := by
  rcases settled with down | stands
  · exact createDirectories_outside plain (not_mem_places_below disk down filled)
  · rw [createDirectories_present stands]

end Disk

end RoleVault.Files
