import RoleVault.Proofs.Files.Walk

/-!
Contract: what the operations on files do to each other.

Owns:
- paths go on leading to what they led to where a tree only grows, or changes only where it was
  vacant;
- creating directories only adds to a tree, and leaves a directory where the path leads;
- `read_write`: what is written is read back;
- what a name below a directory leads to, and what writing and reading there do.

Does not own: which files the vault writes (`RoleVault.Proofs.Vault.Scratch`).
-/

namespace RoleVault.Files

namespace Disk

variable {disk other : Disk} {place here there : Location} {path : Path} {entry : Entry}
variable {steps : List String}

/-! ## Paths -/

/-- Where the steps of a path begin. -/
def origin (disk : Disk) (path : Path) : Location :=
  if path.isAbsolute then [] else disk.home

def IsPathText (text : String) : Prop :=
  text.contains '\x00' = false ∧ text.isEmpty = false ∧ text.utf8ByteSize ≤ maxPathSize

theorem follow_eq_ok_iff {target : Target} :
    disk.follow path steps = .ok target ↔
      IsPathText path.text ∧ disk.walk (disk.origin path) steps = .ok target := by
  unfold follow IsPathText origin
  by_cases nul : path.text.contains '\x00'
  · simp [nul]
  · by_cases blank : path.text.isEmpty
    · simp [nul, blank]
    · by_cases long : maxPathSize < path.text.utf8ByteSize
      · simp [nul, blank, long, Nat.not_le.mpr long]
      · simp [nul, blank, long, Nat.not_lt.mp long]

theorem origin_congr (home : other.home = disk.home) : other.origin path = disk.origin path := by
  rw [origin, origin, home]

theorem origin_prefix_home (disk : Disk) (path : Path) : disk.origin path <+: disk.home := by
  unfold origin
  split
  · exact List.nil_prefix
  · exact List.prefix_rfl

/-- Paths begin outside of every place where nothing stands. -/
theorem origin_outside (free : disk.get? place = none) : ¬ place <+: disk.origin path := by
  intro below
  rw [get?_above_home (below.trans (origin_prefix_home disk path))] at free
  cases free

/-- A path resolves to an entry where its steps lead to it. -/
theorem resolve_eq_entry_iff :
    disk.resolve path = .ok (.entry place entry) ↔
      IsPathText path.text ∧ Leads disk (disk.origin path) path.steps place entry := by
  rw [resolve, follow_eq_ok_iff, walk_eq_entry_iff]

theorem find?_eq_some_iff :
    disk.find? path = some entry ↔ ∃ place, disk.resolve path = .ok (.entry place entry) := by
  unfold find?
  cases found : disk.resolve path with
  | error failure => simp
  | ok target => cases target <;> simp

/-- What a path leads to stays where nothing is lost. -/
theorem find?_extend (kept : Extends disk other) (found : disk.find? path = some entry) :
    other.find? path = some entry := by
  obtain ⟨place, resolved⟩ := find?_eq_some_iff.mp found
  obtain ⟨text, leads⟩ := resolve_eq_entry_iff.mp resolved
  refine find?_eq_some_iff.mpr ⟨place, resolve_eq_entry_iff.mpr ⟨text, ?_⟩⟩
  rw [origin_congr kept.home]
  exact leads.extend kept

/-- What a path leads to stays where things change only at a place that was vacant, and below. -/
theorem find?_outside (free : disk.get? place = none) (agrees : AgreesOutside place disk other)
    (found : disk.find? path = some entry) : other.find? path = some entry := by
  obtain ⟨there, resolved⟩ := find?_eq_some_iff.mp found
  obtain ⟨text, leads⟩ := resolve_eq_entry_iff.mp resolved
  refine find?_eq_some_iff.mpr ⟨there, resolve_eq_entry_iff.mpr ⟨text, ?_⟩⟩
  rw [origin_congr agrees.home]
  exact leads.outside free agrees (origin_outside free)

/-- Whether a path leads to a file depends on the entry that it leads to alone. -/
theorem find?_of_isFile (file : disk.isFile path = true) :
    ∃ entry, disk.find? path = some entry ∧
      ∀ other : Disk, other.find? path = some entry → other.isFile path = true := by
  unfold isFile at file
  split at file
  · rename_i content found
    exact ⟨_, found, fun other same => by simp [isFile, same]⟩
  · rename_i tables log found
    exact ⟨_, found, fun other same => by simp [isFile, same]⟩
  · cases file

theorem exists?_of_isFile (file : disk.isFile path = true) : disk.exists? path = true := by
  obtain ⟨entry, found, -⟩ := find?_of_isFile file
  simp [exists?, found]

/-- A tree that grows keeps its files. -/
theorem isFile_extend (grows : Extends disk other) (file : disk.isFile path = true) :
    other.isFile path = true := by
  obtain ⟨entry, found, same⟩ := find?_of_isFile file
  exact same other (find?_extend grows found)

/-! ## Directories -/

private theorem createDirectory_ok (created : disk.createDirectory path = .ok other) :
    ∃ place slashed, disk.follow path (dropSlashes path.steps) = .ok (.vacant place slashed) ∧
      other = disk.put place .directory := by
  unfold createDirectory at created
  cases target : disk.follow path (dropSlashes path.steps) with
  | error failure =>
    rw [target] at created
    cases created
  | ok target' =>
    rw [target] at created
    cases target' with
    | entry place entry => cases created
    | vacant place slashed =>
      cases created
      exact ⟨place, slashed, rfl, rfl⟩

/-- Only empty steps are dropped as slashes. -/
theorem dropSlashes_append (steps : List String) :
    ∃ slashes, steps = dropSlashes steps ++ slashes ∧ ∀ step ∈ slashes, step = "" := by
  refine ⟨(steps.reverse.takeWhile (· == "")).reverse, ?_, ?_⟩
  · rw [dropSlashes, ← List.reverse_append, List.takeWhile_append_dropWhile, List.reverse_reverse]
  · intro step member
    simpa using List.all_eq_true.mp List.all_takeWhile step (List.mem_reverse.mp member)

/-- A directory is created in a directory, where nothing stood, and there the path leads. -/
theorem createDirectory_leads (created : disk.createDirectory path = .ok other) :
    ∃ place, IsPathText path.text ∧ disk.get? place = none ∧
      disk.get? place.dropLast = some .directory ∧ other = disk.put place .directory ∧
      Leads other (other.origin path) path.steps place .directory := by
  obtain ⟨place, slashed, follows, rfl⟩ := createDirectory_ok created
  obtain ⟨text, ends⟩ := follow_eq_ok_iff.mp follows
  obtain ⟨_, step, _, parent, _, above, _, below, free, _⟩ := walk_vacant ends
  refine ⟨place, text, free, ?_, rfl, ?_⟩
  · rw [below, List.dropLast_concat]
    exact above.get?
  · have stands : (disk.put place .directory).get? place = some .directory :=
      get?_put_self (by simp [free])
    have arrives := leads_of_vacant ends (agreesOutside_put List.prefix_rfl) stands (fun _ => rfl)
      (origin_outside free)
    obtain ⟨slashes, split, blank⟩ := dropSlashes_append path.steps
    rw [← walk_eq_entry_iff, split, origin_congr (home_put disk place .directory),
      arrives.walk_append, walk_eq_entry_iff]
    exact leads_of_staying stands fun step member => .inl (blank step member)

private theorem createDirectory_extends (created : disk.createDirectory path = .ok other) :
    Extends disk other := by
  obtain ⟨place, _, free, _, rfl, _⟩ := createDirectory_leads created
  exact extends_put free

/-- Everything stands in a directory. -/
def IsTree (disk : Disk) : Prop :=
  ∀ (place : Location) (entry : Entry),
    disk.get? place = some entry → disk.get? place.dropLast = some .directory

theorem isTree_of_entries
    (above : ∀ listed ∈ disk.entries, disk.get? listed.1.dropLast = some .directory) :
    IsTree disk := by
  intro place entry held
  unfold get? at held
  split at held
  · rename_i inside
    have inside : place <+: disk.home := List.isPrefixOf_iff_prefix.mp inside
    exact get?_above_home ((List.dropLast_prefix place).trans inside)
  · obtain ⟨front, back, listed, _⟩ := List.lookup_eq_some_iff.mp held
    refine above (place, entry) ?_
    rw [listed]
    exact List.mem_append_right _ List.mem_cons_self

/-- An entry that is put into a directory, where nothing stood, leaves a tree a tree. -/
theorem IsTree.put (tree : IsTree disk) (free : disk.get? place = none)
    (above : disk.get? place.dropLast = some .directory) : IsTree (disk.put place entry) := by
  intro there stands held
  refine (extends_put free).get? ?_
  by_cases same : there = place
  · rw [same]
    exact above
  · rw [get?_put_of_ne same] at held
    exact tree there stands held

/-- Nothing stands below a place under which nothing stands. -/
theorem IsTree.vacant_child (tree : IsTree disk) (free : disk.get? place = none) (name : String) :
    disk.get? (place ++ [name]) = none := by
  cases stands : disk.get? (place ++ [name]) with
  | none => rfl
  | some entry =>
    have above := tree _ _ stands
    rw [List.dropLast_concat, free] at above
    cases above

/-- A directory that is created leaves a tree a tree. -/
theorem createDirectory_isTree (tree : IsTree disk)
    (created : disk.createDirectory path = .ok other) :
    IsTree other := by
  obtain ⟨place, _, free, above, rfl, _⟩ := createDirectory_leads created
  exact tree.put free above

/-- What each created directory keeps, all of them keep. -/
theorem createChain_keeps (kept : Disk → Prop) (paths : List Path)
    (created : ∀ {disk path after}, path ∈ paths → kept disk →
      createDirectory disk path = .ok after → kept after)
    (start : kept disk) : kept (disk.createChain paths).2 := by
  induction paths with
  | nil => exact start
  | cons path parents inductionHypothesis =>
    have parentsKeep := inductionHypothesis fun member => created (List.mem_cons_of_mem path member)
    unfold createChain
    simp only
    cases first : disk.createDirectory path with
    | ok after => exact created List.mem_cons_self start first
    | error failure =>
      cases failure with
      | notFound =>
        simp only
        cases above : disk.createChain parents with
        | mk outcome between =>
          rw [above] at parentsKeep
          cases outcome with
          | error failure => exact parentsKeep
          | ok _ =>
            simp only
            cases second : between.createDirectory path with
            | ok after => exact created List.mem_cons_self parentsKeep second
            | error failure => exact parentsKeep
      | _ => exact start

/-- Creating directories removes nothing, even where it fails. -/
theorem createDirectories_extends (disk : Disk) (path : Path) :
    Extends disk (disk.createDirectories path).2 :=
  createChain_keeps (Extends disk) path.withParents
    (fun _ kept created => kept.trans (createDirectory_extends created)) (.refl disk)

theorem createDirectories_isTree (tree : IsTree disk) (path : Path) :
    IsTree (disk.createDirectories path).2 :=
  createChain_keeps IsTree path.withParents
    (fun _ kept created => createDirectory_isTree kept created) tree

/-! ## Files -/

/-- A file that was written stands in the place of an earlier one or where nothing stood. -/
theorem write_ok {content : List UInt8} (written : disk.write path content = .ok other) :
    ∃ place, other = disk.put place (.file content) ∧
      ((∃ entry, disk.resolve path = .ok (.entry place entry) ∧ entry ≠ .directory) ∨
        disk.resolve path = .ok (.vacant place false)) := by
  unfold write at written
  cases target : disk.resolve path with
  | error failure =>
    rw [target] at written
    cases written
  | ok target' =>
    rw [target] at written
    match target', written with
    | .entry place (.file content), written =>
      cases written
      exact ⟨place, rfl, .inl ⟨_, rfl, nofun⟩⟩
    | .entry place (.database tables log), written =>
      cases written
      exact ⟨place, rfl, .inl ⟨_, rfl, nofun⟩⟩
    | .vacant place false, written =>
      cases written
      exact ⟨place, rfl, .inr rfl⟩

/-- What is written to a path is read from it. -/
theorem read_write {content : List UInt8} (written : disk.write path content = .ok other) :
    other.read path = .ok content := by
  obtain ⟨place, rfl, ⟨entry, resolved, plain⟩ | resolved⟩ := write_ok written
  · obtain ⟨text, leads⟩ := resolve_eq_entry_iff.mp resolved
    have absent : disk.get? place ≠ some .directory := by
      rw [leads.get?]
      exact fun same => plain (Option.some.inj same)
    have after := resolve_eq_entry_iff.mpr ⟨text, leads.put (.file content) absent⟩
    rw [read, show (disk.put place (.file content)).resolve path = _ from after]
    rfl
  · obtain ⟨text, ends⟩ := follow_eq_ok_iff.mp resolved
    obtain ⟨_, _, _, _, _, _, _, _, free, _⟩ := walk_vacant ends
    have after : (disk.put place (.file content)).resolve path =
        .ok (.entry place (.file content)) := by
      have stands : (disk.put place (.file content)).get? place = some (.file content) :=
        get?_put_self (by simp [free])
      have outside : ¬ place <+: disk.origin path := origin_outside free
      exact resolve_eq_entry_iff.mpr
        ⟨text, leads_of_vacant ends (agreesOutside_put List.prefix_rfl) stands nofun outside⟩
    rw [read, after]
    rfl

/-! ## Names below a directory -/

section Last

variable {front : List String} {name : String} {content : List UInt8}
variable (ends : path.steps = front ++ [name])
variable (leads : Leads disk (disk.origin path) front place .directory)
variable (plain : GoesDown name)

include ends leads plain

/-- Where the last step of a path leads depends on what stands under its name. -/
theorem walk_last :
    disk.walk (disk.origin path) path.steps =
      match disk.get? (place ++ [name]) with
      | some entry => .ok (.entry (place ++ [name]) entry)
      | none => .ok (.vacant (place ++ [name]) false) := by
  rw [ends, leads.walk_append, walk_down leads.get? plain]
  cases stands : disk.get? (place ++ [name]) with
  | none => rfl
  | some entry => exact (Leads.arrive stands).walk

/-- A path that ends in a name leads to the place of that name in the directory before it. -/
theorem resolve_last (text : IsPathText path.text) :
    disk.resolve path =
      match disk.get? (place ++ [name]) with
      | some entry => .ok (.entry (place ++ [name]) entry)
      | none => .ok (.vacant (place ++ [name]) false) := by
  have walks := walk_last ends leads plain
  cases stands : disk.get? (place ++ [name]) with
  | none =>
    rw [stands] at walks
    exact follow_eq_ok_iff.mpr ⟨text, walks⟩
  | some entry =>
    rw [stands] at walks
    exact follow_eq_ok_iff.mpr ⟨text, walks⟩

/-- A file can be written wherever no directory stands. -/
theorem write_last_ok (text : IsPathText path.text)
    (free : disk.get? (place ++ [name]) ≠ some .directory) :
    disk.write path content = .ok (disk.put (place ++ [name]) (.file content)) := by
  rw [write, resolve_last ends leads plain text]
  match stands : disk.get? (place ++ [name]) with
  | none => rfl
  | some (.file _) => rfl
  | some (.database _ _) => rfl
  | some .directory => exact absurd stands free

end Last

theorem steps_child (path : Path) (name : String) :
    (path.child name).steps = path.steps ++ [name] := by
  simp [Path.steps, Path.child]

section Child

variable {name : String} {content : List UInt8}
variable (leads : Leads disk (disk.origin path) path.steps place .directory)
variable (plain : GoesDown name)

include leads plain

/-- A name below a directory leads to the place of that name. -/
theorem resolve_child (text : IsPathText (path.child name).text) :
    disk.resolve (path.child name) =
      match disk.get? (place ++ [name]) with
      | some entry => .ok (.entry (place ++ [name]) entry)
      | none => .ok (.vacant (place ++ [name]) false) :=
  resolve_last (steps_child path name) leads plain text

/-- Writing to a name below a directory changes no other place. -/
theorem write_child (written : disk.write (path.child name) content = .ok other) :
    IsPathText (path.child name).text ∧ other = disk.put (place ++ [name]) (.file content) ∧
      disk.get? (place ++ [name]) ≠ some .directory := by
  have walks := walk_last (steps_child path name) leads plain
  obtain ⟨there, rfl, ⟨entry, resolved, changeable⟩ | resolved⟩ := write_ok written
  · obtain ⟨text, ends⟩ := follow_eq_ok_iff.mp resolved
    refine ⟨text, ?_⟩
    rw [walks] at ends
    split at ends
    · rename_i found stands
      cases ends
      exact ⟨rfl, by simpa [stands] using changeable⟩
    · cases ends
  · obtain ⟨text, ends⟩ := follow_eq_ok_iff.mp resolved
    refine ⟨text, ?_⟩
    rw [walks] at ends
    split at ends
    · cases ends
    · rename_i stands
      cases ends
      exact ⟨rfl, by simp [stands]⟩

/-- In a directory a file can be written under a name unless a directory has it. -/
theorem write_child_ok (text : IsPathText (path.child name).text)
    (free : disk.get? (place ++ [name]) ≠ some .directory) :
    disk.write (path.child name) content = .ok (disk.put (place ++ [name]) (.file content)) :=
  write_last_ok (steps_child path name) leads plain text free

/-- A file in a directory is read under its name. -/
theorem read_child (text : IsPathText (path.child name).text)
    (stands : disk.get? (place ++ [name]) = some (.file content)) :
    disk.read (path.child name) = .ok content := by
  rw [read, resolve_child leads plain text, stands]
  rfl

end Child

end Disk

end RoleVault.Files
