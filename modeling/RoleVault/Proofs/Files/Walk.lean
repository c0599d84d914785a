import RoleVault.Files.Disk

/-!
Contract: what a change of the tree of files does to the places that steps lead to.

Owns:
- what stands at a place after an entry is put there or a subtree is removed;
- `AgreesOutside` and `Extends`, two ways in which a tree keeps what another holds;
- `Leads`, the walks that end at an entry, and that they go on ending there.

Does not own: paths and the operations on them (`RoleVault.Proofs.Files.Disk`).
-/

namespace RoleVault.Files

namespace Disk

variable {disk other : Disk} {place here there : Location} {entry : Entry}
variable {steps front back : List String} {slashed : Bool}

/-! ## Places -/

private theorem lookup_filter_ne (entries : List (Location × Entry)) {name : Location}
    (different : name ≠ place) :
    (entries.filter fun (key, _) => key != place).lookup name = entries.lookup name := by
  induction entries with
  | nil => rfl
  | cons head rest inductionHypothesis =>
    obtain ⟨key, entry⟩ := head
    by_cases removed : key = place
    · subst removed
      have miss : (name == key) = false := by simpa using different
      simp [inductionHypothesis, List.lookup_cons, miss]
    · simp [removed, inductionHypothesis, List.lookup_cons]

theorem lookup_filter_prefix (entries : List (Location × Entry)) (name : Location) :
    (entries.filter fun (key, _) => !place.isPrefixOf key).lookup name =
      if place.isPrefixOf name then none else entries.lookup name := by
  induction entries with
  | nil => simp
  | cons head rest inductionHypothesis =>
    obtain ⟨key, entry⟩ := head
    by_cases same : name = key
    · subst same
      by_cases below : place.isPrefixOf name <;> simp [below, inductionHypothesis]
    · have miss : (name == key) = false := by simpa using same
      by_cases below : place.isPrefixOf key <;>
        simp [below, inductionHypothesis, List.lookup_cons, miss]

@[simp] theorem home_put (disk : Disk) (place : Location) (entry : Entry) :
    (disk.put place entry).home = disk.home := rfl

/-- Where the program runs and all above it are directories. -/
theorem get?_above_home (above : here <+: disk.home) : disk.get? here = some .directory := by
  simp [get?, above]

theorem get?_put_of_ne {name : Location} (different : name ≠ place) :
    (disk.put place entry).get? name = disk.get? name := by
  have miss : (name == place) = false := by simpa using different
  simp [get?, put, List.lookup_cons, miss, lookup_filter_ne disk.entries different]

theorem get?_put_self (plain : disk.get? place ≠ some .directory) :
    (disk.put place entry).get? place = some entry := by
  have below : ¬ place <+: disk.home := fun above => plain (get?_above_home above)
  simp [get?, put, below]

/-- What does not stand below a place stays when the place is removed. -/
theorem get?_removeAt_of_not_prefix {name : Location} (outside : ¬ place <+: name) :
    (disk.removeAt place).get? name = disk.get? name := by
  simp [get?, removeAt, lookup_filter_prefix, outside]

/-- What is put below a place goes with it. -/
theorem removeAt_put (below : place <+: here) : (disk.put here entry).removeAt place =
    disk.removeAt place := by
  have covers (other : Location × Entry) :
      (!place.isPrefixOf other.1 && other.1 != here) = !place.isPrefixOf other.1 := by
    by_cases same : other.1 = here <;> simp [same, below]
  simp [removeAt, put, below, List.filter_filter, covers]

/-! ## Trees that hold what another holds -/

/-- Two trees that differ at most at a place and below it. -/
structure AgreesOutside (place : Location) (disk other : Disk) : Prop where
  home : other.home = disk.home
  get? : ∀ {name : Location}, ¬ place <+: name → other.get? name = disk.get? name

/-- A tree that holds all that another holds. -/
structure Extends (disk other : Disk) : Prop where
  home : other.home = disk.home
  get? : ∀ {name : Location} {entry : Entry},
    disk.get? name = some entry → other.get? name = some entry

theorem AgreesOutside.trans {last : Disk} (first : AgreesOutside place disk other)
    (second : AgreesOutside place other last) : AgreesOutside place disk last :=
  ⟨second.home.trans first.home, fun outside => (second.get? outside).trans (first.get? outside)⟩

theorem Extends.refl (disk : Disk) : Extends disk disk :=
  ⟨rfl, fun held => held⟩

theorem Extends.trans {last : Disk} (first : Extends disk other) (second : Extends other last) :
    Extends disk last :=
  ⟨second.home.trans first.home, fun held => second.get? (first.get? held)⟩

/-- Nothing is lost where nothing stood. -/
theorem extends_put (free : disk.get? place = none) : Extends disk (disk.put place entry) := by
  refine ⟨rfl, fun {name held} stands => ?_⟩
  have different : name ≠ place := by
    rintro rfl
    rw [free] at stands
    cases stands
  rw [get?_put_of_ne different]
  exact stands

theorem agreesOutside_put (below : place <+: here) :
    AgreesOutside place disk (disk.put here entry) := by
  refine ⟨rfl, fun {name} outside => get?_put_of_ne ?_⟩
  rintro rfl
  exact outside below

theorem agreesOutside_removeAt : AgreesOutside place disk (disk.removeAt place) :=
  ⟨rfl, fun outside => get?_removeAt_of_not_prefix outside⟩

/-! ## Walking -/

def GoesDown (step : String) : Prop :=
  step ≠ "" ∧ step ≠ "." ∧ step ≠ ".." ∧ step.utf8ByteSize ≤ maxNameSize

instance (step : String) : Decidable (GoesDown step) := by
  unfold GoesDown
  infer_instance

/-- From a place, steps lead through directories to an entry. -/
inductive Leads (disk : Disk) : Location → List String → Location → Entry → Prop where
  | arrive {here : Location} {entry : Entry} (stands : disk.get? here = some entry) :
    Leads disk here [] here entry
  | stay {here place : Location} {step : String} {rest : List String} {entry : Entry}
    (directory : disk.get? here = some .directory) (stays : step = "" ∨ step = ".")
    (further : Leads disk here rest place entry) : Leads disk here (step :: rest) place entry
  | up {here place : Location} {rest : List String} {entry : Entry}
    (directory : disk.get? here = some .directory)
    (further : Leads disk here.dropLast rest place entry) :
    Leads disk here (".." :: rest) place entry
  | down {here place : Location} {step : String} {rest : List String} {found entry : Entry}
    (directory : disk.get? here = some .directory) (plain : GoesDown step)
    (stands : disk.get? (here ++ [step]) = some found)
    (further : Leads disk (here ++ [step]) rest place entry) :
    Leads disk here (step :: rest) place entry

/-- The end of a walk whose first step goes down. -/
theorem walk_down {step : String} {rest : List String}
    (directory : disk.get? here = some .directory)
    (plain : GoesDown step) :
    disk.walk here (step :: rest) =
      if (disk.get? (here ++ [step])).isSome then disk.walk (here ++ [step]) rest
      else if rest.all (· == "") then .ok (.vacant (here ++ [step]) !rest.isEmpty)
      else .error .notFound := by
  obtain ⟨filled, moved, forward, short⟩ := plain
  rw [walk]
  simp [directory, filled, moved, forward, Nat.not_lt.mpr short]

/-- Steps that lead to an entry walk to it. -/
theorem Leads.walk (leads : Leads disk here steps place entry) :
    disk.walk here steps = .ok (.entry place entry) := by
  induction leads with
  | arrive stands => simp [Disk.walk, stands]
  | stay directory stays _ inductionHypothesis =>
    rw [Disk.walk]
    simp [directory, stays, inductionHypothesis]
  | up directory _ inductionHypothesis =>
    rw [Disk.walk]
    simp [directory, inductionHypothesis]
  | down directory plain stands _ inductionHypothesis =>
    rw [walk_down directory plain, stands]
    exact inductionHypothesis

/-- What a walk does first, unless it fails. -/
theorem walk_cons {step : String} {rest : List String} {target : Target}
    (ends : disk.walk here (step :: rest) = .ok target) :
    disk.get? here = some .directory ∧
      ((step = "" ∨ step = ".") ∧ disk.walk here rest = .ok target ∨
        step = ".." ∧ disk.walk here.dropLast rest = .ok target ∨ GoesDown step) := by
  unfold Disk.walk at ends
  split at ends
  · cases ends
  · rename_i directory
    refine ⟨by simpa using directory, ?_⟩
    split at ends
    · rename_i stays
      exact .inl ⟨stays, ends⟩
    · rename_i goes
      split at ends
      · rename_i back
        exact .inr (.inl ⟨back, ends⟩)
      · rename_i forward
        split at ends
        · cases ends
        · rename_i short
          exact .inr (.inr ⟨fun empty => goes (.inl empty), fun dot => goes (.inr dot), forward,
            Nat.not_lt.mp short⟩)

/-- A walk that ends at an entry has gone steps that lead there. -/
theorem leads_of_walk (ends : disk.walk here steps = .ok (.entry place entry)) :
    Leads disk here steps place entry := by
  induction steps generalizing here with
  | nil =>
    unfold Disk.walk at ends
    split at ends
    · rename_i found stands
      cases ends
      exact .arrive stands
    · cases ends
  | cons step rest inductionHypothesis =>
    obtain ⟨directory, ⟨stays, further⟩ | ⟨rfl, further⟩ | plain⟩ := walk_cons ends
    · exact .stay directory stays (inductionHypothesis further)
    · exact .up directory (inductionHypothesis further)
    · rw [walk_down directory plain] at ends
      split at ends
      · rename_i present
        obtain ⟨found, stands⟩ := Option.isSome_iff_exists.mp present
        exact .down directory plain stands (inductionHypothesis ends)
      · split at ends <;> cases ends

theorem walk_eq_entry_iff :
    disk.walk here steps = .ok (.entry place entry) ↔ Leads disk here steps place entry :=
  ⟨leads_of_walk, Leads.walk⟩

/-- A walk that ends at a vacant place led to the directory of that place before. -/
theorem walk_vacant (ends : disk.walk here steps = .ok (.vacant place slashed)) :
    ∃ front step rest directory, steps = front ++ step :: rest ∧
      Leads disk here front directory .directory ∧ GoesDown step ∧
      place = directory ++ [step] ∧ disk.get? place = none ∧ (rest.all (· == "")) = true ∧
      slashed = !rest.isEmpty := by
  induction steps generalizing here with
  | nil =>
    unfold Disk.walk at ends
    split at ends <;> cases ends
  | cons step rest inductionHypothesis =>
    obtain ⟨directory, ⟨stays, further⟩ | ⟨rfl, further⟩ | plain⟩ := walk_cons ends
    · obtain ⟨front, name, others, parent, split, leads, facts⟩ := inductionHypothesis further
      exact ⟨step :: front, name, others, parent, by simp [split], .stay directory stays leads,
        facts⟩
    · obtain ⟨front, name, others, parent, split, leads, facts⟩ := inductionHypothesis further
      exact ⟨".." :: front, name, others, parent, by simp [split], .up directory leads, facts⟩
    · rw [walk_down directory plain] at ends
      split at ends
      · rename_i present
        obtain ⟨found, stands⟩ := Option.isSome_iff_exists.mp present
        obtain ⟨front, name, others, parent, split, leads, facts⟩ := inductionHypothesis ends
        exact ⟨step :: front, name, others, parent, by simp [split],
          .down directory plain stands leads, facts⟩
      · rename_i absent
        split at ends
        · rename_i slashes
          cases ends
          exact ⟨[], step, rest, here, rfl, .arrive directory, plain, rfl,
            by simpa using absent, slashes, rfl⟩
        · cases ends

/-- One walk goes on where another ended. -/
theorem Leads.walk_append (leads : Leads disk here front place entry) (back : List String) :
    disk.walk here (front ++ back) = disk.walk place back := by
  induction leads with
  | arrive stands => rfl
  | stay directory stays _ inductionHypothesis =>
    rw [List.cons_append, Disk.walk]
    simp [directory, stays, inductionHypothesis]
  | up directory _ inductionHypothesis =>
    rw [List.cons_append, Disk.walk]
    simp [directory, inductionHypothesis]
  | down directory plain stands _ inductionHypothesis =>
    rw [List.cons_append, walk_down directory plain, stands]
    exact inductionHypothesis

/-- What steps lead to stands at their end. -/
theorem Leads.get? (leads : Leads disk here steps place entry) :
    disk.get? place = some entry := by
  induction leads with
  | arrive stands => exact stands
  | stay _ _ _ inductionHypothesis => exact inductionHypothesis
  | up _ _ inductionHypothesis => exact inductionHypothesis
  | down _ _ _ _ inductionHypothesis => exact inductionHypothesis

/-- Steps that stay lead nowhere else. -/
theorem leads_of_staying (directory : disk.get? here = some .directory)
    (staying : ∀ step ∈ steps, step = "" ∨ step = ".") :
    Leads disk here steps here .directory := by
  induction steps with
  | nil => exact .arrive directory
  | cons step rest inductionHypothesis =>
    exact .stay directory (staying step List.mem_cons_self)
      (inductionHypothesis fun other member => staying other (List.mem_cons_of_mem step member))

/-- What stands on the way of a walk and at its end is all that the walk depends on. -/
theorem Leads.congr (visited : Location → Prop)
    (up : ∀ {name}, visited name → visited name.dropLast)
    (down : ∀ {name step found}, visited name → disk.get? (name ++ [step]) = some found →
      visited (name ++ [step]))
    (same : ∀ {name found}, visited name → disk.get? name = some found →
      other.get? name = some found)
    (start : visited here) (leads : Leads disk here steps place entry) :
    Leads other here steps place entry := by
  induction leads with
  | arrive stands => exact .arrive (same start stands)
  | stay directory stays _ inductionHypothesis =>
    exact .stay (same start directory) stays (inductionHypothesis start)
  | «up» directory _ inductionHypothesis =>
    exact .up (same start directory) (inductionHypothesis (up start))
  | «down» directory plain stands _ inductionHypothesis =>
    have next := down start stands
    exact .down (same start directory) plain (same next stands) (inductionHypothesis next)

/-- What steps lead to they lead to in every larger tree. -/
theorem Leads.extend (leads : Leads disk here steps place entry) (kept : Extends disk other) :
    Leads other here steps place entry :=
  leads.congr (fun _ => True) (fun _ => trivial) (fun _ _ => trivial)
    (fun _ stands => kept.get? stands) trivial

/-- Where nothing stands, nothing leads through, so a change there and below leads nowhere else. -/
theorem Leads.outside (leads : Leads disk here steps there entry) (free : disk.get? place = none)
    (agrees : AgreesOutside place disk other) (start : ¬ place <+: here) :
    Leads other here steps there entry := by
  refine leads.congr (fun name => ¬ place <+: name) ?_ ?_ ?_ start
  · intro name outside below
    exact outside (below.trans (List.dropLast_prefix name))
  · intro name step found outside stands below
    rcases List.prefix_concat_iff.mp below with rfl | below
    · rw [free] at stands
      cases stands
    · exact outside below
  · intro name found outside stands
    rw [agrees.get? outside]
    exact stands

/-- Steps that lead to a directory begin in one. -/
theorem Leads.starts_in_directory (leads : Leads disk here steps place .directory) :
    disk.get? here = some .directory := by
  cases leads with
  | arrive stands => exact stands
  | stay directory _ _ => exact directory
  | up directory _ => exact directory
  | down directory _ _ _ => exact directory

/-- A walk to a directory goes through directories only. -/
theorem Leads.keep_directories (leads : Leads disk here steps place .directory)
    (kept : ∀ {name}, disk.get? name = some .directory → other.get? name = some .directory) :
    Leads other here steps place .directory := by
  generalize whole : Entry.directory = target at leads
  induction leads with
  | arrive stands =>
    subst whole
    exact .arrive (kept stands)
  | stay directory stays _ inductionHypothesis =>
    exact .stay (kept directory) stays (inductionHypothesis whole)
  | up directory _ inductionHypothesis =>
    exact .up (kept directory) (inductionHypothesis whole)
  | down directory plain _ further inductionHypothesis =>
    subst whole
    exact .down (kept directory) plain (kept further.starts_in_directory) (inductionHypothesis rfl)

/-- Another entry in the place of one that is no directory ends the walks that the first ended. -/
theorem Leads.put (later : Entry) (leads : Leads disk here steps place entry)
    (plain : disk.get? place ≠ some .directory) :
    Leads (disk.put place later) here steps place later := by
  have elsewhere {name : Location} (directory : disk.get? name = some .directory) :
      (disk.put place later).get? name = some .directory := by
    have different : name ≠ place := by
      rintro rfl
      exact plain directory
    rw [get?_put_of_ne different]
    exact directory
  induction leads with
  | arrive _ => exact .arrive (get?_put_self plain)
  | stay directory stays _ inductionHypothesis =>
    exact .stay (elsewhere directory) stays (inductionHypothesis plain elsewhere)
  | up directory _ inductionHypothesis =>
    exact .up (elsewhere directory) (inductionHypothesis plain elsewhere)
  | @down here place step rest found entry directory descends stands _ inductionHypothesis =>
    have next := inductionHypothesis plain elsewhere
    by_cases same : here ++ [step] = place
    · have there : (disk.put place later).get? (here ++ [step]) = some later := by
        rw [same]
        exact get?_put_self plain
      exact .down (elsewhere directory) descends there next
    · exact .down (elsewhere directory) descends ((get?_put_of_ne same).trans stands) next

/-- A directory in the place of nothing ends the walks that ended there for want of it. -/
theorem leads_of_vacant {later : Entry} (ends : disk.walk here steps = .ok (.vacant place slashed))
    (agrees : AgreesOutside place disk other) (stands : other.get? place = some later)
    (enterable : slashed = true → later = .directory) (start : ¬ place <+: here) :
    Leads other here steps place later := by
  obtain ⟨front, step, rest, parent, rfl, leads, plain, rfl, free, slashes, rfl⟩ :=
    walk_vacant ends
  have before := leads.outside free agrees start
  have last : Leads other parent (step :: rest) (parent ++ [step]) later := by
    refine .down before.get? plain stands ?_
    cases rest with
    | nil => exact .arrive stands
    | cons slash more =>
      obtain rfl := enterable rfl
      refine leads_of_staying stands fun other member => .inl ?_
      simpa using List.all_eq_true.mp slashes other member
  rw [← walk_eq_entry_iff] at last ⊢
  rw [before.walk_append, last]

end Disk

end RoleVault.Files
