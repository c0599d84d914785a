import RoleVault.Proofs.Files.Path
import RoleVault.Proofs.Vault.Attempt

/-!
Contract: work in a scratch directory touches nothing else.

Owns:
- `Scratch`, the tree of files while a scratch directory is in use;
- that writing below the directory, and the calls of an engine that write there, keep it so;
- `IsUsable`, that such a directory can be made, and what is known of it then;
- `inScratch_find?`: whatever a path leads to before such work, it leads to afterwards.

Does not own: what is written there (`RoleVault.Proofs.Vault.Sealing` and its neighbour).
-/

namespace RoleVault.Vault

open RoleVault.Files RoleVault.Files.Disk

/-- A tree with a scratch directory at a place where nothing stood before, and otherwise as
before. -/
structure Scratch (before : Disk) (scratch : Path) (place : Location) (disk : Disk) : Prop where
  text : IsPathText scratch.text
  free : before.get? place = none
  agrees : AgreesOutside place before disk
  leads : Leads disk (disk.origin scratch) scratch.steps place .directory

namespace Scratch

variable {before disk other : Disk} {scratch : Path} {place : Location} {name : String}
variable {content : List UInt8}

/-- What was found before is still found beside a scratch directory. -/
theorem find? {path : Path} {entry : Entry} (working : Scratch before scratch place disk)
    (found : before.find? path = some entry) : disk.find? path = some entry :=
  find?_outside working.free working.agrees found

theorem isFile {path : Path} (working : Scratch before scratch place disk)
    (file : before.isFile path = true) : disk.isFile path = true := by
  obtain ⟨entry, found, same⟩ := find?_of_isFile file
  exact same disk (working.find? found)

/-- A file below the scratch directory. -/
theorem put (working : Scratch before scratch place disk)
    (plain : disk.get? (place ++ [name]) ≠ some .directory) :
    Scratch before scratch place (disk.put (place ++ [name]) (.file content)) where
  text := working.text
  free := working.free
  agrees := working.agrees.trans (agreesOutside_put (List.prefix_append place [name]))
  leads := by
    refine working.leads.keep_directories fun {there} directory => ?_
    have different : there ≠ place ++ [name] := by
      rintro rfl
      exact plain directory
    rw [get?_put_of_ne different]
    exact directory

/-- A file in a scratch directory leaves the rest as it was. -/
theorem write (working : Scratch before scratch place disk) (descends : GoesDown name)
    (written : disk.write (scratch.child name) content = .ok other) :
    Scratch before scratch place other := by
  obtain ⟨_, rfl, plain⟩ := write_child working.leads descends written
  exact working.put plain

/-- What has been written below the scratch directory stands there, and its neighbours stay. -/
theorem written (working : Scratch before scratch place disk) (descends : GoesDown name)
    (writes : disk.write (scratch.child name) content = .ok other) :
    IsPathText (scratch.child name).text ∧ Scratch before scratch place other ∧
      other.get? (place ++ [name]) = some (.file content) ∧
      ∀ sibling, sibling ≠ name →
        other.get? (place ++ [sibling]) = disk.get? (place ++ [sibling]) := by
  obtain ⟨text, rfl, plain⟩ := write_child working.leads descends writes
  refine ⟨text, working.put plain, get?_put_self plain, fun sibling different => get?_put_of_ne ?_⟩
  simpa using different

/-- A new file below the scratch directory can be written, and its neighbours stay. -/
theorem write_new (working : Scratch before scratch place disk) (content : List UInt8)
    (descends : GoesDown name) (text : IsPathText (scratch.child name).text)
    (free : disk.get? (place ++ [name]) = none) :
    ∃ other, disk.write (scratch.child name) content = .ok other ∧
      Scratch before scratch place other ∧
      other.get? (place ++ [name]) = some (.file content) ∧
      ∀ sibling, sibling ≠ name →
        other.get? (place ++ [sibling]) = disk.get? (place ++ [sibling]) := by
  have writes : disk.write (scratch.child name) content =
      .ok (disk.put (place ++ [name]) (.file content)) :=
    write_child_ok working.leads descends text (by simp [free])
  exact ⟨_, writes, (working.written descends writes).2⟩

/-- A file in the scratch directory goes with it. -/
theorem removeTree_write (working : Scratch before scratch place disk) (descends : GoesDown name)
    (written : disk.write (scratch.child name) content = .ok other) :
    other.removeTree scratch = disk.removeTree scratch := by
  have later := working.write descends written
  obtain ⟨_, rfl, _⟩ := write_child working.leads descends written
  rw [Disk.removeTree, Disk.removeTree, resolve_eq_entry_iff.mpr ⟨working.text, working.leads⟩,
    resolve_eq_entry_iff.mpr ⟨later.text, later.leads⟩]
  exact removeAt_put (List.prefix_append place [name])

/-- Once the scratch directory is removed, nothing outside its place has changed. -/
theorem removeTree (working : Scratch before scratch place disk) :
    AgreesOutside place before (disk.removeTree scratch) := by
  have resolved := resolve_eq_entry_iff.mpr ⟨working.text, working.leads⟩
  rw [Disk.removeTree, resolved]
  exact working.agrees.trans agreesOutside_removeAt

end Scratch

/-! ## Making one -/

variable {α : Type} {vault : Vault} {label : String} {scratch : Path} {workspace after : Workspace}

/-- A scratch directory is made in the root, under a label and a number. -/
theorem createScratch_ok
    (made : Attempt.exec (vault.createScratch label) workspace = (.ok scratch, after)) :
    ∃ place number, scratch = vault.scratchPath label number ∧
      Scratch (workspace.disk.createDirectories vault.scratchRoot).2 scratch place after.disk ∧
      after.disk = (workspace.disk.createDirectories vault.scratchRoot).2.put place .directory := by
  obtain ⟨_, between, above, created⟩ := Attempt.bind_ok made
  rw [Attempt.exec_act] at created
  simp only at created
  split at created
  · cases created
  · rename_i disk creates
    cases created
    obtain rfl : between = { workspace with
        disk := (workspace.disk.createDirectories vault.scratchRoot).2 } :=
      (congrArg Prod.snd above).symm
    obtain ⟨place, text, free, _, rfl, leads⟩ := createDirectory_leads creates
    exact ⟨place, _, rfl, ⟨text, free, agreesOutside_put List.prefix_rfl, leads⟩, rfl⟩

/-- A scratch directory that is made leaves a tree a tree. -/
theorem createScratch_isTree (tree : IsTree workspace.disk)
    (made : Attempt.exec (vault.createScratch label) workspace = (.ok scratch, after)) :
    IsTree after.disk := by
  obtain ⟨_, between, above, created⟩ := Attempt.bind_ok made
  have grown : IsTree between.disk := by
    obtain rfl : (Attempt.exec (Attempt.directories (some vault.scratchRoot)) workspace).2 =
      between := congrArg Prod.snd above
    exact createDirectories_isTree tree vault.scratchRoot
  rw [Attempt.exec_act] at created
  simp only at created
  split at created
  · cases created
  · rename_i disk creates
    cases created
    exact createDirectory_isTree grown creates

/-- Where no scratch directory can be made, its root may have been. -/
theorem createScratch_error {failure : VaultError}
    (fails : Attempt.exec (vault.createScratch label) workspace = (.error failure, after)) :
    after.disk = (workspace.disk.createDirectories vault.scratchRoot).2 := by
  have made : ∀ {outcome} {between : Workspace},
      Attempt.exec (Attempt.directories (some vault.scratchRoot)) workspace = (outcome, between) →
        between.disk = (workspace.disk.createDirectories vault.scratchRoot).2 := by
    intro outcome between ends
    obtain rfl : (Attempt.exec _ workspace).2 = between := congrArg Prod.snd ends
    rfl
  rcases Attempt.bind_error fails with above | ⟨_, between, above, created⟩
  · exact made above
  · rw [Attempt.exec_act] at created
    simp only at created
    split at created
    · cases created
      exact made above
    · cases created

/-! ## One that can be used -/

/-- Whether a scratch directory can be made, with paths that are not too long. -/
def IsUsable (vault : Vault) (label : String) (workspace : Workspace) : Prop :=
  ∃ scratch after, Attempt.exec (vault.createScratch label) workspace = (.ok scratch, after) ∧
    (scratch.child "sealed.cpabe").text.utf8ByteSize ≤ maxPathSize

private theorem size_join (text : String) {short long : String}
    (size : short.utf8ByteSize ≤ long.utf8ByteSize) :
    (Path.join text short).utf8ByteSize ≤ (Path.join text long).utf8ByteSize := by
  unfold Path.join
  split
  · exact size
  · split <;> simp <;> omega

theorem size_join_le (text name : String) :
    (Path.join text name).utf8ByteSize ≤ text.utf8ByteSize + (name.utf8ByteSize + 1) := by
  have slash : "/".utf8ByteSize = 1 := by decide
  unfold Path.join
  split
  · omega
  · split <;> simp only [String.utf8ByteSize_append] <;> omega

theorem le_size_join (text name : String) :
    text.utf8ByteSize ≤ (Path.join text name).utf8ByteSize := by
  unfold Path.join
  split
  · simp_all
  · split <;> simp only [String.utf8ByteSize_append] <;> omega

/-- The size of names with a slash before each of them. -/
def namesSize : List String → Nat
  | [] => 0
  | name :: rest => name.utf8ByteSize + 1 + namesSize rest

/-- The text of a path is no longer than its parts with a slash before each name. -/
theorem size_text_le (path : Path) :
    path.text.utf8ByteSize ≤ path.base.utf8ByteSize + namesSize path.names := by
  obtain ⟨base, names⟩ := path
  unfold Path.text
  induction names generalizing base with
  | nil => exact Nat.le_refl _
  | cons name rest inductionHypothesis =>
    have joined := size_join_le base name
    have further := inductionHypothesis (Path.join base name)
    simp only [List.foldl_cons, namesSize] at *
    omega

theorem isPathText_child {scratch : Path} {name : String} (text : IsPathText scratch.text)
    (clean : '\x00' ∉ name.toList) (size : name.utf8ByteSize ≤ "sealed.cpabe".utf8ByteSize)
    (fits : (scratch.child "sealed.cpabe").text.utf8ByteSize ≤ maxPathSize) :
    IsPathText (scratch.child name).text := by
  obtain ⟨noNul, filled, _⟩ := text
  rw [Path.text_child] at fits ⊢
  rw [String.isEmpty_eq_false_iff] at filled
  have noNulBefore : '\x00' ∉ scratch.text.toList := by
    simpa [String.contains_char_eq] using noNul
  refine ⟨?_, ?_, Nat.le_trans (size_join _ size) fits⟩
  · unfold Path.join
    split
    · simp [String.contains_char_eq, clean]
    · split <;> simp [String.contains_char_eq, noNulBefore, clean]
  · unfold Path.join
    rw [if_neg (by simpa using filled), String.isEmpty_eq_false_iff]
    split <;> simp [filled]

/-- A new scratch directory is empty. -/
theorem createScratch_empty (tree : IsTree workspace.disk)
    (creates : Attempt.exec (vault.createScratch label) workspace = (.ok scratch, after)) :
    ∃ place before, Extends workspace.disk before ∧ Scratch before scratch place after.disk ∧
      ∀ name, after.disk.get? (place ++ [name]) = none := by
  obtain ⟨place, _, _, working, afterDisk⟩ := createScratch_ok creates
  refine ⟨place, _, createDirectories_extends _ _, working, fun name => ?_⟩
  rw [afterDisk, get?_put_of_ne (by simp)]
  exact (createDirectories_isTree tree _).vacant_child working.free name

/-- A new scratch directory is empty, and files of short names can be made in it. -/
theorem createScratch_new (tree : IsTree workspace.disk)
    (creates : Attempt.exec (vault.createScratch label) workspace = (.ok scratch, after))
    (fits : (scratch.child "sealed.cpabe").text.utf8ByteSize ≤ maxPathSize) :
    ∃ place before, Extends workspace.disk before ∧ Scratch before scratch place after.disk ∧
      (∀ name, after.disk.get? (place ++ [name]) = none) ∧
      ∀ name, '\x00' ∉ name.toList → name.utf8ByteSize ≤ "sealed.cpabe".utf8ByteSize →
        IsPathText (scratch.child name).text := by
  obtain ⟨place, before, grows, working, empty⟩ := createScratch_empty tree creates
  exact ⟨place, before, grows, working, empty,
    fun name clean size => isPathText_child working.text clean size fits⟩

/-- With a usable root a new directory is made, and its files have paths that are not too long. -/
theorem IsUsable.new (usable : IsUsable vault label workspace) (tree : IsTree workspace.disk) :
    ∃ scratch made place before,
      Attempt.exec (vault.createScratch label) workspace = (.ok scratch, made) ∧
      Extends workspace.disk before ∧ Scratch before scratch place made.disk ∧
      (∀ name, made.disk.get? (place ++ [name]) = none) ∧
      ∀ name, '\x00' ∉ name.toList → name.utf8ByteSize ≤ "sealed.cpabe".utf8ByteSize →
        IsPathText (scratch.child name).text := by
  obtain ⟨scratch, made, creates, fits⟩ := usable
  obtain ⟨place, before, facts⟩ := createScratch_new tree creates fits
  exact ⟨scratch, made, place, before, creates, facts⟩

/-! ## Working in one -/

def KeepsTo (scratch : Path) (work : Attempt α) : Prop :=
  ∀ (before : Disk) (place : Location) (workspace : Workspace),
    Scratch before scratch place workspace.disk →
      Scratch before scratch place (Attempt.exec work workspace).2.disk

namespace KeepsTo

theorem observe (view : Disk → Except VaultError α) : KeepsTo scratch (Attempt.observe view) :=
  fun _ _ _ working => working

theorem bind {β : Type} {first : Attempt α} {following : α → Attempt β}
    (firstKeeps : KeepsTo scratch first)
    (followingKeeps : ∀ value, KeepsTo scratch (following value)) :
    KeepsTo scratch (first >>= following) := by
  intro before place workspace working
  have between := firstKeeps before place workspace working
  rw [Attempt.exec_bind]
  match ended : Attempt.exec first workspace with
  | (.error failure, after) =>
    rw [ended] at between
    exact between
  | (.ok value, after) =>
    rw [ended] at between
    exact followingKeeps value before place after between

theorem write {name : String} (descends : GoesDown name) (content : List UInt8) :
    KeepsTo scratch (Attempt.change fun disk => disk.write (scratch.child name) content) := by
  intro before place workspace working
  rw [Attempt.exec_change]
  split
  · rename_i disk written
    exact working.write descends written
  · exact working

/-- A call changes the files by nothing but writing one. -/
theorem bounded {name : String} {operation : Operation} {call : Call} (descends : GoesDown name)
    (writes : ∀ workspace : Workspace, (call workspace).2.disk = workspace.disk ∨
      ∃ content, workspace.disk.write (scratch.child name) content = .ok (call workspace).2.disk) :
    KeepsTo scratch (vault.bounded operation call) := by
  intro before place workspace working
  have after : Scratch before scratch place (call workspace).2.disk := by
    rcases writes workspace with same | ⟨content, written⟩
    · rw [same]
      exact working
    · exact working.write descends written
  rw [Attempt.exec_bounded]
  split <;> rename_i ended <;> rw [ended] at after <;> exact after

end KeepsTo

/-- What a path leads to before work in a scratch directory, it leads to afterwards. -/
theorem inScratch_find? {work : Path → Attempt α} {path : Path} {entry : Entry}
    (keeps : ∀ scratch, KeepsTo scratch (work scratch))
    (found : workspace.disk.find? path = some entry) :
    (Attempt.exec (vault.inScratch label work) workspace).2.disk.find? path = some entry := by
  match made : Attempt.exec (vault.createScratch label) workspace with
  | (.error failure, between) =>
    rw [Attempt.exec_inScratch_error made, createScratch_error made]
    exact find?_extend (createDirectories_extends _ _) found
  | (.ok scratch, between) =>
    obtain ⟨place, _, _, working, _⟩ := createScratch_ok made
    rw [Attempt.exec_inScratch made]
    exact find?_outside working.free (keeps scratch _ place between working).removeTree
      (find?_extend (createDirectories_extends _ _) found)

end RoleVault.Vault
