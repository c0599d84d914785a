import Mathlib.Data.List.Induction
import RoleVault.Proofs.Files.Path

/-!
Contract: which directories come into being, and where a path leads once they are there.

Owns:
- `destination`, where steps lead whatever stands there, and `Path.place`;
- `createDirectories_outside` and `createDirectories_leads`: creating directories changes nothing but
  the places that the path names, and succeeds only if the path leads to a directory then;
- what replacing and removing a file does to a tree in which everything stands in a directory.

Does not own: which directories the vault creates (`RoleVault.Proofs.Vault.KeyFiles`).
-/

namespace RoleVault.Files

/-! ## Where steps lead -/

/-- Where a step leads from a place, whatever stands there. -/
def Disk.stepFrom (here : Location) (step : String) : Location :=
  if step = "" ∨ step = "." then here
  else if step = ".." then here.dropLast
  else here ++ [step]

def Disk.destination (here : Location) (steps : List String) : Location :=
  steps.foldl stepFrom here

/-- Where a path leads, whatever stands there; `home` is where the program runs. -/
def Path.place (path : Path) (home : Location) : Location :=
  Disk.destination (if path.isAbsolute then [] else home) path.steps

namespace Disk

variable {disk other : Disk} {place here : Location} {path : Path} {entry : Entry}
variable {steps front back components : List String} {name : String}

@[simp] theorem destination_cons (here : Location) (step : String) (rest : List String) :
    destination here (step :: rest) = destination (stepFrom here step) rest := rfl

@[simp] theorem destination_append (here : Location) (front back : List String) :
    destination here (front ++ back) = destination (destination here front) back :=
  List.foldl_append

/-- A step down adds its name. -/
theorem stepFrom_of_goesDown (plain : GoesDown name) (here : Location) :
    stepFrom here name = here ++ [name] := by
  obtain ⟨filled, moved, forward, _⟩ := plain
  simp [stepFrom, filled, moved, forward]

/-- Steps that lead somewhere lead where their names alone say. -/
theorem Leads.destination (leads : Leads disk here steps place entry) :
    place = destination here steps := by
  induction leads with
  | arrive _ => rfl
  | stay _ stays _ inductionHypothesis => simpa [stepFrom, stays] using inductionHypothesis
  | up _ _ inductionHypothesis => simpa [stepFrom] using inductionHypothesis
  | down _ plain _ _ inductionHypothesis =>
    rw [destination_cons, stepFrom_of_goesDown plain]
    exact inductionHypothesis

/-- The last name of a walk goes down, unless it goes nowhere or back. -/
theorem Leads.goesDown_last (leads : Leads disk here (front ++ [name]) place entry)
    (goes : name ≠ "" ∧ name ≠ "." ∧ name ≠ "..") : GoesDown name := by
  induction front generalizing here with
  | nil =>
    cases leads with
    | stay _ stays _ => exact absurd stays (not_or.mpr ⟨goes.1, goes.2.1⟩)
    | up _ _ => exact absurd rfl goes.2.2
    | down _ plain _ _ => exact plain
  | cons step rest inductionHypothesis =>
    cases leads with
    | stay _ _ further => exact inductionHypothesis further
    | up _ further => exact inductionHypothesis further
    | down _ _ _ further => exact inductionHypothesis further

/-! ## Steps that go somewhere -/

def moving (steps : List String) : List String :=
  steps.filter fun step => step != "" && step != "."

theorem moving_cons_of_stays {step : String} (stays : step = "" ∨ step = ".")
    (rest : List String) : moving (step :: rest) = moving rest := by
  rcases stays with rfl | rfl <;> simp [moving]

theorem moving_cons_of_goes {step : String} (goes : ¬ (step = "" ∨ step = "."))
    (rest : List String) : moving (step :: rest) = step :: moving rest := by
  have kept : step ≠ "" ∧ step ≠ "." := not_or.mp goes
  simp [moving, kept]

@[simp] theorem moving_append (front back : List String) :
    moving (front ++ back) = moving front ++ moving back :=
  List.filter_append ..

@[simp] theorem moving_moving (steps : List String) : moving (moving steps) = moving steps := by
  simp [moving]

/-- Steps that stay where they are do not change the destination. -/
theorem destination_moving (here : Location) (steps : List String) :
    destination here (moving steps) = destination here steps := by
  induction steps generalizing here with
  | nil => rfl
  | cons step rest inductionHypothesis =>
    by_cases stays : step = "" ∨ step = "."
    · rw [moving_cons_of_stays stays, inductionHypothesis, destination_cons, stepFrom,
        if_pos stays]
    · rw [moving_cons_of_goes stays, destination_cons, destination_cons, inductionHypothesis]

/-- Every step leads at most one name further down. -/
theorem length_destination_le (here : Location) (steps : List String) :
    (destination here steps).length ≤ here.length + (moving steps).length := by
  induction steps generalizing here with
  | nil => exact Nat.le_refl _
  | cons step rest inductionHypothesis =>
    have further := inductionHypothesis (stepFrom here step)
    rw [destination_cons]
    by_cases stays : step = "" ∨ step = "."
    · rw [stepFrom, if_pos stays] at further ⊢
      rwa [moving_cons_of_stays stays]
    · have deeper : (stepFrom here step).length ≤ here.length + 1 := by
        rw [stepFrom, if_neg stays]
        split
        · rw [List.length_dropLast]
          omega
        · exact Nat.le_of_eq List.length_append
      rw [moving_cons_of_goes stays, List.length_cons]
      omega

/-- Without steps back, every step that goes somewhere leads one name further down. -/
theorem length_destination (down : ".." ∉ steps) (here : Location) :
    (destination here steps).length = here.length + (moving steps).length := by
  induction steps generalizing here with
  | nil => rfl
  | cons step rest inductionHypothesis =>
    have forward : step ≠ ".." := fun back => down (by simp [back])
    have further := inductionHypothesis (fun member => down (List.mem_cons_of_mem step member))
      (stepFrom here step)
    rw [destination_cons, further]
    by_cases stays : step = "" ∨ step = "."
    · rw [stepFrom, if_pos stays, moving_cons_of_stays stays]
    · rw [stepFrom, if_neg stays, if_neg forward, moving_cons_of_goes stays,
        List.length_append, List.length_cons, List.length_cons]
      simp only [List.length_nil]
      omega

/-- Steps that stay make no difference to a walk that ends in a directory. -/
theorem leads_moving_iff :
    Leads disk here (moving steps) place .directory ↔ Leads disk here steps place .directory := by
  induction steps generalizing here with
  | nil => exact Iff.rfl
  | cons step rest inductionHypothesis =>
    by_cases stays : step = "" ∨ step = "."
    · rw [moving_cons_of_stays stays, inductionHypothesis]
      constructor
      · intro further
        exact .stay further.starts_in_directory stays further
      · intro leads
        cases leads with
        | stay _ _ further => exact further
        | up _ _ => simp at stays
        | down _ plain _ _ => exact absurd stays (not_or.mpr ⟨plain.1, plain.2.1⟩)
    · rw [moving_cons_of_goes stays]
      constructor <;> intro leads
      · cases leads with
        | stay _ stayed _ => exact absurd stayed stays
        | up directory further => exact .up directory (inductionHypothesis.mp further)
        | down directory plain stands further =>
          exact .down directory plain stands (inductionHypothesis.mp further)
      · cases leads with
        | stay _ stayed _ => exact absurd stayed stays
        | up directory further => exact .up directory (inductionHypothesis.mpr further)
        | down directory plain stands further =>
          exact .down directory plain stands (inductionHypothesis.mpr further)

/-- Nor do they change whether steps lead to a directory. -/
theorem leads_of_moving_eq (same : moving front = moving back)
    (leads : Leads disk here front place .directory) : Leads disk here back place .directory := by
  rw [← leads_moving_iff, same] at leads
  exact leads_moving_iff.mp leads

/-! ## Components -/

theorem components_eq (path : Path) :
    path.components =
      if path.steps.head? = some "." then "." :: moving path.steps else moving path.steps := rfl

theorem moving_components (path : Path) : moving path.components = moving path.steps := by
  rw [components_eq]
  split
  · rw [moving_cons_of_stays (.inr rfl), moving_moving]
  · exact moving_moving path.steps

theorem moving_ofComponents (absolute : Bool) (pieces : ∀ name ∈ components, IsPiece name) :
    moving (Path.ofComponents absolute components).steps = moving components := by
  have blank : moving [""] = [] := by decide
  rw [Path.steps_ofComponents absolute pieces, moving_append]
  cases absolute <;> cases components <;> simp [blank] <;> rfl

theorem origin_ofComponents (disk : Disk) (pieces : ∀ name ∈ components, IsPiece name) :
    disk.origin (Path.ofComponents path.isAbsolute components) = disk.origin path := by
  rw [origin, origin, Path.isAbsolute_ofComponents _ pieces]

/-- The places that have been seen stay seen, and each step adds the one that it leads to. -/
theorem mem_seen_iff (steps : List String) (filled : "" ∉ steps) (here : Location)
    (seen : List Location) (start : here ∈ seen) :
    place ∈ (steps.foldl (fun (here, seen) step =>
      let next := if step = "." then here else if step = ".." then here.dropLast
        else here ++ [step]
      (next, next :: seen)) (here, seen)).2 ↔
      place ∈ seen ∨ ∃ count, place = destination here (steps.take count) := by
  induction steps generalizing here seen with
  | nil =>
    refine ⟨.inl, ?_⟩
    rintro (known | ⟨count, rfl⟩)
    · exact known
    · simpa [destination] using start
  | cons step rest inductionHypothesis =>
    have goes : stepFrom here step = if step = "." then here else if step = ".." then here.dropLast
        else here ++ [step] := by
      have nonempty : step ≠ "" := fun empty => filled (by simp [empty])
      simp [stepFrom, nonempty]
    rw [List.foldl_cons]
    simp only [← goes]
    rw [inductionHypothesis (fun member => filled (List.mem_cons_of_mem step member)) _ _
      List.mem_cons_self]
    constructor
    · rintro (known | ⟨count, rfl⟩)
      · rcases List.mem_cons.mp known with rfl | known
        · exact .inr ⟨1, by simp [destination]⟩
        · exact .inl known
      · exact .inr ⟨count + 1, rfl⟩
    · rintro (known | ⟨count, rfl⟩)
      · exact .inl (List.mem_cons_of_mem _ known)
      · cases count with
        | zero => exact .inl (List.mem_cons_of_mem _ start)
        | succ count => exact .inr ⟨count, rfl⟩

/-- The places that a path names are those that its first components lead to. -/
theorem mem_places_iff (disk : Disk) (path : Path) :
    place ∈ path.places disk.home ↔
      ∃ count, place = destination (disk.origin path) (path.components.take count) := by
  have filled : "" ∉ path.components := by
    rw [components_eq]
    split <;> simp [moving]
  rw [Path.places, List.mem_reverse]
  refine (mem_seen_iff _ filled _ _ List.mem_cons_self).trans ?_
  constructor
  · rintro (start | named)
    · exact ⟨0, List.mem_singleton.mp start⟩
    · exact named
  · exact .inr

/-- A directory on the way to a path would stand at one of the places that the path names. -/
theorem withParents_places (disk : Disk) (plain : path.IsPlain) {parent : Path}
    (member : parent ∈ path.withParents) :
    destination (disk.origin parent) parent.steps ∈ path.places disk.home := by
  unfold Path.withParents at member
  simp only at member
  split at member
  · cases member
  · rcases List.mem_cons.mp member with rfl | shorter
    · refine (mem_places_iff disk parent).mpr ⟨parent.components.length, ?_⟩
      rw [List.take_length, ← destination_moving, ← moving_components, destination_moving]
    · obtain ⟨count, _, rfl⟩ := List.mem_map.mp shorter
      have pieces : ∀ name ∈ path.components.take count, IsPiece name :=
        fun name among => Path.isPiece_of_mem_components plain (List.mem_of_mem_take among)
      rw [origin_ofComponents disk pieces, ← destination_moving, moving_ofComponents _ pieces,
        destination_moving]
      exact (mem_places_iff disk path).mpr ⟨count, rfl⟩

/-! ## Creating directories -/

private theorem createDirectory_place (created : disk.createDirectory path = .ok other) :
    disk.get? (destination (disk.origin path) path.steps) = none ∧
      other = disk.put (destination (disk.origin path) path.steps) .directory := by
  obtain ⟨place, _, free, _, rfl, leads⟩ := createDirectory_leads created
  have there : place = destination (disk.origin path) path.steps := leads.destination
  rw [← there]
  exact ⟨free, rfl⟩

/-- Creating directories changes nothing at the places that the path does not name. -/
theorem createDirectories_outside (plain : path.IsPlain)
    (outside : place ∉ path.places disk.home) :
    (disk.createDirectories path).2.get? place = disk.get? place := by
  have kept : (disk.createDirectories path).2.home = disk.home ∧
      (disk.createDirectories path).2.get? place = disk.get? place := by
    refine createChain_keeps
      (fun after => after.home = disk.home ∧ after.get? place = disk.get? place)
      path.withParents ?_ ⟨rfl, rfl⟩
    rintro before parent after member ⟨home, same⟩ created
    obtain ⟨_, rfl⟩ := createDirectory_place created
    refine ⟨home, ?_⟩
    rw [get?_put_of_ne, same]
    rintro rfl
    rw [← home] at outside
    exact outside (withParents_places before plain member)
  exact kept.2

/-- A path leads to a directory if its text can be one of a path and its steps go there. -/
theorem isDirectory_iff :
    disk.isDirectory path = true ↔
      IsPathText path.text ∧ ∃ place, Leads disk (disk.origin path) path.steps place .directory := by
  simp [isDirectory, find?_eq_some_iff, resolve_eq_entry_iff]

/-- The first of some directories is there once they are created. -/
theorem createChain_isDirectory {parents : List Path}
    (done : (disk.createChain (path :: parents)).1 = .ok ()) :
    (disk.createChain (path :: parents)).2.isDirectory path = true := by
  have settled {after : Disk} {failure : DiskError}
      (ends : (if failure = .alreadyExists && after.isDirectory path then .ok ()
        else .error failure : Except DiskError Unit) = .ok ()) :
      after.isDirectory path = true := by
    split at ends
    · rename_i stands
      have stands : failure = .alreadyExists ∧ after.isDirectory path = true := by
        simpa using stands
      exact stands.2
    · cases ends
  have fresh {before after : Disk} (created : before.createDirectory path = .ok after) :
      after.isDirectory path = true := by
    obtain ⟨place, text, _, _, _, leads⟩ := createDirectory_leads created
    exact isDirectory_iff.mpr ⟨text, place, leads⟩
  unfold createChain at done ⊢
  simp only at done ⊢
  cases first : disk.createDirectory path with
  | ok after => exact fresh first
  | error failure =>
    rw [first] at done
    cases failure with
    | notFound =>
      simp only at done ⊢
      cases above : disk.createChain parents with
      | mk outcome between =>
        rw [above] at done
        cases outcome with
        | error failure => cases done
        | ok _ =>
          simp only at done ⊢
          cases second : between.createDirectory path with
          | ok after => exact fresh second
          | error failure =>
            rw [second] at done
            exact settled done
    | _ =>
      dsimp only at done ⊢
      exact settled done

/-- A path leads to a directory once that and all above it are created. -/
theorem createDirectories_leads (done : (disk.createDirectories path).1 = .ok ()) :
    ∃ place, Leads (disk.createDirectories path).2
      ((disk.createDirectories path).2.origin path) path.steps place .directory := by
  unfold createDirectories at done ⊢
  by_cases none : path.components = []
  · -- the path has no components, so that its steps stay in a directory that is there
    have stays : moving [] = moving path.steps := by
      rw [← moving_components, none]
    exact ⟨_, leads_of_moving_eq stays
      (.arrive (get?_above_home (origin_prefix_home _ path)))⟩
  · obtain ⟨parents, chain⟩ : ∃ parents, path.withParents = path :: parents := by
      simp [Path.withParents, none]
    rw [chain] at done ⊢
    exact (isDirectory_iff.mp (createChain_isDirectory done)).2

/-! ## The directory that a file is in -/

/-- Whether the directory is there in which a path names a file. -/
def Houses (disk : Disk) (path : Path) : Prop :=
  ∃ front name place, path.steps = front ++ [name] ∧ GoesDown name ∧
    Leads disk (disk.origin path) front place .directory

/-- The path above one that ends in a name has the steps before that name. -/
theorem exists_parent (plain : path.IsPlain) (ends : path.steps = front ++ [name])
    (descends : GoesDown name) :
    ∃ before, path.parent? = some (Path.ofComponents path.isAbsolute before) ∧
      moving before = moving front ∧ ∀ piece ∈ before, IsPiece piece := by
  have named : moving [name] = [name] := by
    rw [moving_cons_of_goes (not_or.mpr ⟨descends.1, descends.2.1⟩)]
    rfl
  have components : ∃ before, path.components = before ++ [name] ∧
      moving before = moving front := by
    rw [components_eq, ends, moving_append, named]
    split
    · exact ⟨"." :: moving front, rfl, by rw [moving_cons_of_stays (.inr rfl), moving_moving]⟩
    · exact ⟨moving front, rfl, moving_moving front⟩
  obtain ⟨before, whole, same⟩ := components
  refine ⟨before, by simp [Path.parent?, whole], same, fun piece among => ?_⟩
  exact Path.isPiece_of_mem_components plain (whole ▸ List.mem_append_left _ among)

/-- Once the directory above a path is created, it houses the path. -/
theorem houses_of_parent (plain : path.IsPlain) (ends : path.steps = front ++ [name])
    (descends : GoesDown name) :
    ∃ parent, path.parent? = some parent ∧ ∀ disk place,
      Leads disk (disk.origin parent) parent.steps place .directory → Houses disk path := by
  obtain ⟨before, above, same, pieces⟩ := exists_parent plain ends descends
  refine ⟨_, above, ?_⟩
  intro disk place leads
  rw [origin_ofComponents disk pieces] at leads
  exact ⟨front, name, place, ends, descends,
    leads_of_moving_eq ((moving_ofComponents _ pieces).trans same) leads⟩

/-- The place of a file is not on the way to the directory that it is in, whichever of the files there
that directory is created for. -/
theorem place_not_mem_parent (disk : Disk) {sibling parent : Path} {last : String}
    (plain : sibling.IsPlain) (siblingEnds : sibling.steps = front ++ [last])
    (siblingDescends : GoesDown last) (above : sibling.parent? = some parent)
    (beside : path.isAbsolute = sibling.isAbsolute) (ends : path.steps = front ++ [name])
    (descends : GoesDown name) (down : ".." ∉ front) :
    path.place disk.home ∉ parent.places disk.home := by
  obtain ⟨before, parentIs, same, pieces⟩ := exists_parent plain siblingEnds siblingDescends
  obtain rfl := Option.some.inj (above.symm.trans parentIs)
  rw [← beside]
  intro member
  obtain ⟨count, there⟩ := (mem_places_iff disk _).mp member
  have deep : (path.place disk.home).length =
      (disk.origin path).length + (moving front).length + 1 := by
    change (destination (disk.origin path) path.steps).length = _
    rw [ends, destination_append, destination_cons, stepFrom_of_goesDown descends,
      ← length_destination down]
    simp [destination]
  have shallow := length_destination_le (disk.origin path)
    ((Path.ofComponents path.isAbsolute before).components.take count)
  have fewer : (moving ((Path.ofComponents path.isAbsolute before).components.take count)).length ≤
      (moving front).length := by
    rw [← same, ← moving_ofComponents _ pieces, ← moving_components]
    exact ((List.take_sublist _ _).filter _).length_le
  rw [origin_ofComponents disk pieces] at there
  rw [there] at deep
  omega

theorem Houses.keep_directories (houses : Houses disk path) (home : other.home = disk.home)
    (kept : ∀ {name}, disk.get? name = some .directory → other.get? name = some .directory) :
    Houses other path := by
  obtain ⟨front, name, place, ends, descends, leads⟩ := houses
  refine ⟨front, name, place, ends, descends, ?_⟩
  rw [origin_congr home]
  exact leads.keep_directories kept

private theorem place_eq (ends : path.steps = front ++ [name]) (descends : GoesDown name)
    (leads : Leads disk (disk.origin path) front place entry) :
    path.place disk.home = place ++ [name] := by
  change destination (disk.origin path) path.steps = place ++ [name]
  rw [ends, destination_append, ← leads.destination, destination_cons,
    stepFrom_of_goesDown descends]
  rfl

/-- The directory in which a path names a file is there. -/
theorem Houses.above (houses : Houses disk path) :
    disk.get? (path.place disk.home).dropLast = some .directory := by
  obtain ⟨front, name, place, ends, descends, leads⟩ := houses
  rw [place_eq ends descends leads, List.dropLast_concat]
  exact leads.get?

/-- A file can be written where it is housed, unless a directory stands there. -/
theorem Houses.write (houses : Houses disk path) (text : IsPathText path.text)
    (clear : disk.get? (path.place disk.home) ≠ some .directory) (content : List UInt8) :
    disk.write path content = .ok (disk.put (path.place disk.home) (.file content)) := by
  obtain ⟨front, name, place, ends, descends, leads⟩ := houses
  rw [place_eq ends descends leads] at clear ⊢
  exact write_last_ok ends leads descends text clear

/-! ## Files in a tree -/

/-- What something stands in is a directory, however far above. -/
theorem IsTree.above (tree : IsTree disk) (below : List String)
    (held : disk.get? (place ++ below) = some entry) (apart : below ≠ []) : disk.get? place = some .directory := by
  induction below using List.reverseRec generalizing entry with
  | nil => exact absurd rfl apart
  | append_singleton before last inductionHypothesis =>
    have directory := tree _ _ held
    rw [← List.append_assoc, List.dropLast_concat] at directory
    by_cases none : before = []
    · rwa [none, List.append_nil] at directory
    · exact inductionHypothesis directory none

/-- Nothing stands below a place where there is no directory. -/
theorem IsTree.nothing_below (tree : IsTree disk) (plain : disk.get? place ≠ some .directory)
    (below : place <+: here) (apart : here ≠ place) : disk.get? here = none := by
  obtain ⟨rest, rfl⟩ := below
  cases stands : disk.get? (place ++ rest) with
  | none => rfl
  | some entry =>
    refine absurd (tree.above rest stands ?_) plain
    rintro rfl
    exact apart (List.append_nil place)

theorem isTree_congr (same : ∀ place, other.get? place = disk.get? place) (tree : IsTree disk) :
    IsTree other := by
  intro place entry held
  rw [same] at held ⊢
  exact tree place entry held

/-- A file that is put into a directory leaves a tree a tree. -/
theorem IsTree.put_file (tree : IsTree disk) (plain : disk.get? place ≠ some .directory)
    (above : disk.get? place.dropLast = some .directory) (content : List UInt8) :
    IsTree (disk.put place (.file content)) := by
  intro there stands held
  have directory : disk.get? there.dropLast = some .directory := by
    by_cases same : there = place
    · rw [same]
      exact above
    · rw [get?_put_of_ne same] at held
      exact tree there stands held
  have different : there.dropLast ≠ place := by
    intro same
    rw [same] at directory
    exact plain directory
  rw [get?_put_of_ne different]
  exact directory

/-- Below a place that was removed nothing is left, if the program does not run there. -/
theorem get?_removeAt_below (outside : ¬ place <+: disk.home) (below : place <+: here) :
    (disk.removeAt place).get? here = none := by
  have beside : ¬ here <+: disk.home := fun above => outside (below.trans above)
  simp [get?, removeAt, beside, lookup_filter_prefix, below]

/-- Above the directory in which the program runs there are only directories. -/
theorem not_above_home (plain : disk.get? place ≠ some .directory) : ¬ place <+: disk.home :=
  fun above => plain (get?_above_home above)

/-- Removing a file takes nothing else away. -/
theorem IsTree.get?_removeAt (tree : IsTree disk) (plain : disk.get? place ≠ some .directory)
    (different : here ≠ place) : (disk.removeAt place).get? here = disk.get? here := by
  by_cases below : place <+: here
  · rw [get?_removeAt_below (not_above_home plain) below, tree.nothing_below plain below different]
  · exact get?_removeAt_of_not_prefix below

end Disk

end RoleVault.Files
