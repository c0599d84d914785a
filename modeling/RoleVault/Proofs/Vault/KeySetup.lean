import Mathlib
import RoleVault.Proofs.Files.Repetition
import RoleVault.Proofs.Vault.Dominance
import RoleVault.Proofs.Vault.KeyFiles

/-!
Contract: what making a pair of keys leaves behind when it fails.

Owns:
- `exec_setup`, making keys in one directory step by step;
- `IsSteady`, a directory that can be made without bringing anything about under the names in it;
- `setup_keeps_keys_or_halves_them`: a failed setup leaves the keys as they were, unless only the
  second of the two can not be written.

Does not own: keys that can be written for certain (`RoleVault.Proofs.Vault.KeyFiles`).
-/

namespace RoleVault.Vault

open RoleVault.Files RoleVault.Files.Disk RoleVault.Text

/-- Whether making a directory brings nothing about under the names in it: nothing has to be or can be
created, or the steps back in its path are taken where directories are there already. -/
def IsSteady (directory : Path) (disk : Disk) : Prop :=
  (disk.createDirectories directory.direct).2 = disk ∨
    StepsBackInside disk (disk.origin directory) directory.steps

variable {vault : Vault} {directory : Path} {disk : Disk} {workspace : Workspace} {name : String}
variable {hanging : Bool}

section Steady

variable (plain : directory.IsPlain) (tree : IsTree disk) (steady : IsSteady directory disk)

include plain tree steady

theorem IsSteady.find? (descends : GoesDown name) :
    (disk.createDirectories directory.direct).2.find? (directory.child name) =
      disk.find? (directory.child name) := by
  rcases steady with same | inside
  · rw [same]
  · exact createDirectories_find? inside plain descends tree

/-- Creating a steady directory once more changes nothing. -/
theorem IsSteady.repeated :
    (disk.createDirectories directory.direct).2.createDirectories directory.direct =
      disk.createDirectories directory.direct := by
  rcases steady with same | inside
  · exact createDirectories_twice (.inr same)
  · exact createDirectories_repeated inside plain tree

end Steady

theorem keyNames : GoesDown "pub_key" ∧ GoesDown "master_key" := by decide

/-! ## Writing the keys -/

/-- Whether the path of a name has a fitting text does not depend on the name, if that is not too
long. -/
theorem isPathText_beside {path : Path} {other : String} (text : IsPathText (path.child name).text)
    (clean : '\x00' ∉ other.toList) (filled : other ≠ "")
    (fits : (path.child other).text.utf8ByteSize ≤ maxPathSize) :
    IsPathText (path.child other).text := by
  have text : '\x00' ∉ (Path.join path.text name).toList := by
    rw [← Path.text_child]
    simpa [String.contains_char_eq] using text.1
  rw [Path.mem_join (by decide)] at text
  refine ⟨?_, ?_, fits⟩
  · rw [String.contains_char_eq, decide_eq_false_iff_not, Path.text_child,
      Path.mem_join (by decide)]
    exact not_or.mpr ⟨(not_or.mp text).1, clean⟩
  · rw [Path.text_child, Path.join, String.isEmpty_eq_false_iff]
    split
    · exact filled
    · split <;> simp [filled]

/-- Writing the keys ends with both there, or with nothing written, or with the public key alone where
the master key cannot be written. -/
theorem scheme_setup_ends {place : Location}
    (leads : Leads disk (disk.origin directory) directory.steps place .directory) :
    (∃ made, Scheme.setup (.inDirectory directory) disk = (.ok (), made) ∧
        made.isFile (directory.child "pub_key") = true ∧
        made.isFile (directory.child "master_key") = true) ∨
      (∃ failure, Scheme.setup (.inDirectory directory) disk = (.error (.disk failure), disk)) ∨
      ∃ failure made, Scheme.setup (.inDirectory directory) disk =
          (.error (.disk failure), made) ∧
        made.find? (directory.child "pub_key") =
          some (.file (Utf8.encode "fake public parameters")) ∧
        made.find? (directory.child "master_key") = disk.find? (directory.child "master_key") ∧
        (disk.find? (directory.child "master_key") = some .directory ∨
          maxPathSize < (directory.child "master_key").text.utf8ByteSize) := by
  obtain ⟨publicName, masterName⟩ := keyNames
  unfold Scheme.setup Scheme.writing KeyPaths.inDirectory Scheme.finish
  simp only
  cases first : disk.write (directory.child "pub_key") (Utf8.encode "fake public parameters") with
  | error failure => exact .inr (.inl ⟨failure, rfl⟩)
  | ok between =>
    have publicText := (write_child leads publicName first).1
    have publicKey := find?_written_child leads publicName first
    have masterBefore := find?_write_child leads publicName masterName (by decide) first
    have leads := leads_write_child leads publicName first
    simp only
    cases second : between.write (directory.child "master_key")
        (Utf8.encode "fake master secret") with
    | error failure =>
      refine .inr (.inr ⟨failure, between, rfl, publicKey, masterBefore, ?_⟩)
      by_cases long : maxPathSize < (directory.child "master_key").text.utf8ByteSize
      · exact .inr long
      · have text : IsPathText (directory.child "master_key").text :=
          isPathText_beside publicText (by decide) (by decide) (Nat.not_lt.mp long)
        rw [← masterBefore]
        exact .inl (write_child_error leads masterName text second).1
    | ok made =>
      have masterKey := find?_written_child leads masterName second
      have publicStill := find?_write_child leads masterName publicName (by decide) second
      refine .inl ⟨made, rfl, ?_, ?_⟩
      · simp [isFile, publicStill, publicKey]
      · simp [isFile, masterKey]

/-! ## Making the keys -/

/-- Whether one of the keys is there. -/
def KeyStatus.any (status : KeyStatus) : Bool :=
  status.publicKey || status.masterKey

/-- What a failed setup leaves when it keeps the keys. -/
structure KeepsKeys (vault : Vault) (before after : Workspace) : Prop where
  same : ∀ key ∈ vault.keys.both, after.disk.find? key = before.disk.find? key
  status : vault.keyStatus after.disk = vault.keyStatus before.disk
  again : (Attempt.exec (vault.setup false) after).1 = (Attempt.exec (vault.setup false) before).1

/-- What a failed setup leaves when the second of the two keys cannot be written. -/
structure HalvesKeys (vault : Vault) (before after : Workspace) : Prop where
  blocked : before.disk.find? vault.keys.masterKey = some .directory ∨
    maxPathSize < vault.keys.masterKey.text.utf8ByteSize
  publicKey : after.disk.find? vault.keys.publicKey =
    some (.file (Utf8.encode "fake public parameters"))
  masterKey : after.disk.find? vault.keys.masterKey = before.disk.find? vault.keys.masterKey
  again : (Attempt.exec (vault.setup false) after).1 = .error .keysExist

private theorem exec_setup_refused (there : (vault.keyStatus workspace.disk).any = true) :
    Attempt.exec (vault.setup false) workspace = (.error .keysExist, workspace) := by
  have refused : ((vault.keyStatus workspace.disk).publicKey ||
      (vault.keyStatus workspace.disk).masterKey) = true := there
  rw [Vault.setup, Attempt.exec_bind, Attempt.exec_observe]
  simp [refused]

private theorem keyStatus_congr {other : Disk}
    (same : ∀ key ∈ vault.keys.both, other.find? key = disk.find? key) :
    vault.keyStatus other = vault.keyStatus disk := by
  simp [Vault.keyStatus, isFile, same vault.keys.publicKey (by simp [KeyPaths.both]),
    same vault.keys.masterKey (by simp [KeyPaths.both])]

/-- A setup that succeeds has left both keys, whatever the engine. -/
theorem setup_ok_status {force : Bool} {after : Workspace}
    (done : Attempt.exec (vault.setup force) workspace = (.ok (), after)) :
    vault.keyStatus after.disk = ⟨true, true⟩ := by
  obtain ⟨_, _, _, done⟩ := Attempt.bind_ok done
  obtain ⟨_, _, _, done⟩ := Attempt.bind_ok done
  obtain ⟨_, _, _, done⟩ := Attempt.bind_ok done
  obtain ⟨_, _, _, done⟩ := Attempt.bind_ok done
  obtain ⟨_, _, publicChecked, masterChecked⟩ := Attempt.bind_ok done
  obtain ⟨_, publicThere⟩ := Attempt.require_ok publicChecked
  obtain ⟨rfl, masterThere⟩ := Attempt.require_ok masterChecked
  obtain ⟨rfl, _⟩ := Attempt.require_ok publicChecked
  exact congrArg₂ KeyStatus.mk publicThere masterThere

section Setup

variable (inProcess : vault.engine = .inProcess hanging) {force : Bool}

section Refusal

include inProcess

/-- After its first check, a setup fails for any reason but keys that are there. -/
theorem setup_checked_fails :
    Attempt.FailsOnly (· ≠ .keysExist) (do
      Attempt.directories vault.keys.publicKey.parent?
      Attempt.directories vault.keys.masterKey.parent?
      vault.bounded .setup (vault.engine.setup vault.keys)
      vault.requirePublicKey
      vault.requireMasterKey) := by
  have above (path? : Option Path) :
      Attempt.FailsOnly (· ≠ .keysExist) (Attempt.directories path?) :=
    .directories _ fun _ => nofun
  have made : Attempt.FailsOnly (· ≠ .keysExist)
      (vault.bounded .setup (vault.engine.setup vault.keys)) := by
    intro workspace failure after ends
    rw [inProcess, Attempt.exec_bounded] at ends
    have fails : (Scheme.setup vault.keys workspace.disk).1 = .error failure :=
      congrArg Prod.fst ends
    rcases Scheme.setup_ends vault.keys workspace.disk with done | ⟨reason, disk⟩
    · rw [done] at fails
      cases fails
    · rw [disk] at fails
      cases fails
      nofun
  refine (above _).bind fun _ => (above _).bind fun _ => made.bind fun _ => .bind ?_ fun _ => ?_
  all_goals
    refine .observe fun disk failure fails => ?_
    split at fails <;> cases fails
    nofun

/-- A setup is refused exactly where one of the keys is there and nothing is forced. -/
theorem setup_refused_iff :
    (Attempt.exec (vault.setup force) workspace).1 = .error .keysExist ↔
      (vault.keyStatus workspace.disk).any = true ∧ force = false := by
  constructor
  · intro refused
    have ends : Attempt.exec (vault.setup force) workspace =
      (.error .keysExist, (Attempt.exec (vault.setup force) workspace).2) := Prod.ext refused rfl
    rcases Attempt.bind_error ends with first | ⟨_, _, _, later⟩
    · rw [Attempt.exec_observe] at first
      simpa [KeyStatus.any] using congrArg Prod.fst first
    · exact absurd rfl (setup_checked_fails inProcess _ _ _ later)
  · rintro ⟨there, rfl⟩
    rw [exec_setup_refused there]

end Refusal

section Directory

variable (keys : vault.keys = .inDirectory directory)

include keys

/-- Making keys in a directory, unless that is refused because of keys that are there. -/
theorem exec_setup (free : ((vault.keyStatus workspace.disk).any && !force) = false) :
    Attempt.exec (vault.setup force) workspace =
      match workspace.disk.createDirectories directory.direct with
      | (.error failure, disk) => (.error (.disk failure), { workspace with disk := disk })
      | (.ok (), disk) =>
        Attempt.exec
          (do
            vault.bounded .setup (vault.engine.setup (.inDirectory directory))
            vault.requirePublicKey
            vault.requireMasterKey)
          { workspace with disk := disk } := by
  have free : (((vault.keyStatus workspace.disk).publicKey ||
      (vault.keyStatus workspace.disk).masterKey) && !force) = false := free
  have publicPath : vault.keys.publicKey.parent? = some directory.direct := by
    rw [keys]
    exact parent?_child directory keyNames.1
  have masterPath : vault.keys.masterKey.parent? = some directory.direct := by
    rw [keys]
    exact parent?_child directory keyNames.2
  rw [Vault.setup, Attempt.exec_bind, Attempt.exec_observe]
  simp only [free, Bool.false_eq_true, if_false]
  rw [publicPath, masterPath, Attempt.exec_bind, Attempt.exec_directories]
  rcases created : workspace.disk.createDirectories directory.direct with ⟨failure | _, disk⟩
  · rfl
  · have again : disk.createDirectories directory.direct = (.ok (), disk) := by
      have done : (workspace.disk.createDirectories directory.direct).1 = .ok () :=
        congrArg Prod.fst created
      have twice := createDirectories_again done (.refl _)
      rwa [created] at twice
    simp only [Except.mapError]
    rw [Attempt.exec_bind, Attempt.exec_directories, again, keys]
    rfl

include inProcess in
private theorem exec_setup_inProcess
    (free : ((vault.keyStatus workspace.disk).any && !force) = false) :
    Attempt.exec (vault.setup force) workspace =
      match workspace.disk.createDirectories directory.direct with
      | (.error failure, disk) => (.error (.disk failure), { workspace with disk := disk })
      | (.ok (), disk) =>
        match Scheme.setup (.inDirectory directory) disk with
        | (.error failure, made) => (.error failure, { workspace with disk := made })
        | (.ok (), made) =>
          Attempt.exec (do vault.requirePublicKey; vault.requireMasterKey)
            { workspace with disk := made } := by
  rw [exec_setup keys free, inProcess]
  rcases workspace.disk.createDirectories directory.direct with ⟨failure | _, disk⟩
  · rfl
  · simp only
    rw [Attempt.exec_bind, Attempt.exec_bounded]
    simp only [Engine.inProcess, Scheme.Effect.toCall]
    rcases Scheme.setup (.inDirectory directory) disk with ⟨failure | _, made⟩
    · rfl
    · rfl

/-- Where no more has been done than to make the directory of the keys, the keys are kept. -/
theorem keepsKeys_of_directory {after : Workspace} (plain : directory.IsPlain)
    (tree : IsTree workspace.disk) (steady : IsSteady directory workspace.disk)
    (made : after = { workspace with
      disk := (workspace.disk.createDirectories directory.direct).2 }) :
    KeepsKeys vault workspace after := by
  have disk : after.disk = (workspace.disk.createDirectories directory.direct).2 :=
    congrArg Workspace.disk made
  have same : ∀ key ∈ vault.keys.both, after.disk.find? key = workspace.disk.find? key := by
    intro key member
    rw [keys] at member
    simp only [KeyPaths.both, KeyPaths.inDirectory, List.mem_cons, List.not_mem_nil,
      or_false] at member
    rw [disk]
    rcases member with rfl | rfl
    · exact steady.find? plain tree keyNames.1
    · exact steady.find? plain tree keyNames.2
  have status := keyStatus_congr same
  refine ⟨same, status, ?_⟩
  by_cases there : (vault.keyStatus workspace.disk).any = true
  · rw [exec_setup_refused there, exec_setup_refused (by rwa [status])]
  · have free : ((vault.keyStatus workspace.disk).any && !false) = false := by simpa using there
    have ends := exec_setup keys free
    rw [← status] at free
    have endsAfter := exec_setup keys free
    rw [disk, steady.repeated plain tree] at endsAfter
    rw [ends, endsAfter, made]

include inProcess in
/-- In a directory that is steady, a setup that fails keeps the keys, unless the master key is what
cannot be written. -/
theorem failed_setup_keeps_or_halves (plain : directory.IsPlain) (tree : IsTree workspace.disk)
    (steady : IsSteady directory workspace.disk) {failure : VaultError}
    (fails : (Attempt.exec (vault.setup force) workspace).1 = .error failure) :
    KeepsKeys vault workspace (Attempt.exec (vault.setup force) workspace).2 ∨
      HalvesKeys vault workspace (Attempt.exec (vault.setup force) workspace).2 := by
  by_cases refused : (vault.keyStatus workspace.disk).any = true ∧ force = false
  · obtain ⟨there, rfl⟩ := refused
    rw [exec_setup_refused there]
    exact .inl ⟨fun _ _ => rfl, rfl, rfl⟩
  · have free : ((vault.keyStatus workspace.disk).any && !force) = false := by
      simpa [Bool.and_eq_false_iff, or_iff_not_imp_left] using refused
    have kept := keepsKeys_of_directory keys plain tree steady rfl
    have reached : (workspace.disk.createDirectories directory.direct).1 = .ok () → _ :=
      createDirectories_direct plain
    have still := steady.find? plain tree keyNames.2
    rw [exec_setup_inProcess inProcess keys free] at fails ⊢
    rcases created : workspace.disk.createDirectories directory.direct with ⟨failure | _, disk⟩
    · rw [created] at kept
      exact .inl kept
    · rw [created] at kept reached still fails
      obtain ⟨place, leads⟩ := reached rfl
      simp only at fails ⊢
      rcases scheme_setup_ends leads with ⟨made, ends, publicKey, masterKey⟩ | ⟨failure, ends⟩ |
        ⟨failure, made, ends, publicKey, masterKey, blocked⟩
      · have status : vault.keyStatus made = ⟨true, true⟩ := by
          rw [Vault.keyStatus, keys]
          exact congrArg₂ KeyStatus.mk publicKey masterKey
        obtain ⟨publicThere, masterThere⟩ := KeyStatus.mk.inj status
        rw [ends] at fails
        simp [Attempt.exec_bind, Vault.requirePublicKey, Vault.requireMasterKey, publicThere,
          masterThere] at fails
      · rw [ends]
        exact .inl kept
      · rw [ends]
        rw [still] at masterKey blocked
        have there : (vault.keyStatus made).any = true := by
          simp [KeyStatus.any, Vault.keyStatus, keys, KeyPaths.inDirectory, isFile, publicKey]
        refine .inr ⟨?_, ?_, ?_, congrArg Prod.fst (exec_setup_refused there)⟩
        all_goals rw [keys]
        · exact blocked
        · exact publicKey
        · exact masterKey

end Directory

include inProcess in
/-- Keys that are there are replaced only by force, and a setup that succeeds has made both, wherever
the keys are.  In one steady directory, a setup that fails keeps the keys as they were, unless the
master key is what cannot be written: then the public key has been, and making the keys anew takes
force. -/
theorem setup_keeps_keys_or_halves_them (force : Bool) :
    ((Attempt.exec (vault.setup force) workspace).1 = .error .keysExist ↔
        (vault.keyStatus workspace.disk).any = true ∧ force = false) ∧
      ((Attempt.exec (vault.setup force) workspace).1 = .ok () →
        vault.keyStatus (Attempt.exec (vault.setup force) workspace).2.disk = ⟨true, true⟩) ∧
      ∀ directory : Path, vault.keys = .inDirectory directory → directory.IsPlain →
        IsTree workspace.disk → IsSteady directory workspace.disk →
        ∀ failure, (Attempt.exec (vault.setup force) workspace).1 = .error failure →
          KeepsKeys vault workspace (Attempt.exec (vault.setup force) workspace).2 ∨
            HalvesKeys vault workspace (Attempt.exec (vault.setup force) workspace).2 :=
  ⟨setup_refused_iff inProcess, fun done => setup_ok_status (Prod.ext done rfl),
    fun _ keys plain tree steady _ => failed_setup_keeps_or_halves inProcess keys plain tree steady⟩

end Setup

/-- A file is not written over a directory. -/
theorem write_directory {path : Files.Path} (found : disk.find? path = some .directory)
    (content : List UInt8) : disk.write path content = .error .isADirectory := by
  obtain ⟨place, resolved⟩ := find?_eq_some_iff.mp found
  rw [Disk.write, resolved]
  rfl

/-! ## A directory in the place of the master key -/

namespace Sample

/-- A directory in the place of the master key, and no public key. -/
def blockedMaster : Workspace where
  disk := { entries := [(["keys"], .directory), (["keys", "master_key"], .directory)] }

private theorem blockedMaster_tree : IsTree blockedMaster.disk := by
  apply Disk.isTree_of_entries
  decide

def publicOnly : Workspace where
  disk := { entries := [(["keys", "pub_key"], .file (Utf8.encode "fake public parameters")),
    (["keys"], .directory), (["keys", "master_key"], .directory)] }

private theorem blockedMaster_setup :
    Attempt.exec (Sample.vault.setup false) blockedMaster =
      (.error (.disk .isADirectory), publicOnly) := by
  have free : ((Vault.keyStatus Sample.vault blockedMaster.disk).any && !false) = false := by cbv
  have created : blockedMaster.disk.createDirectories (Path.direct ⟨"", ["keys"]⟩) =
      (.ok (), blockedMaster.disk) := by cbv
  have written : Scheme.setup (.inDirectory ⟨"", ["keys"]⟩) blockedMaster.disk =
      (.error (.disk .isADirectory), publicOnly.disk) := by cbv
  have ends : Attempt.exec (Sample.vault.setup false) blockedMaster = _ :=
    exec_setup_inProcess rfl rfl free
  rw [ends, created]
  simp only [written]
  rfl

def windingVault : Vault where
  engine := .inProcess false
  keys := .inDirectory ⟨"", ["pub_key", ".."]⟩
  scratchRoot := ⟨"", ["scratch"]⟩
  timeout := 1000

/-- A directory in the place of the public key, and nothing else. -/
def directoryOnly : Workspace where
  disk := { entries := [(["pub_key"], .directory)] }

private theorem windingVault_created :
    Disk.createDirectories {} (Path.direct ⟨"", ["pub_key", ".."]⟩) =
      (.ok (), directoryOnly.disk) := by
  let winding : Files.Path := ⟨"", ["pub_key", ".."]⟩
  have plain : winding.IsPlain := by decide
  have components : winding.components = ["pub_key", ".."] := by cbv
  have short : (winding.upTo 1).steps = [] ++ ["pub_key"] :=
    (steps_upTo plain (by simp [components])).trans (by cbv)
  have long : (winding.upTo 2).steps = ["pub_key"] ++ [".."] :=
    (steps_upTo plain (by simp [components])).trans (by cbv)
  have shortText : IsPathText (winding.upTo 1).text := by
    refine ⟨?_, ?_, ?_⟩ <;> cbv
  have longText : IsPathText (winding.upTo 2).text := by
    refine ⟨?_, ?_, ?_⟩ <;> cbv
  have missing : Disk.createDirectory {} (winding.upTo 2) = .error .notFound :=
    createDirectory_error longText long (by decide) (by rw [long]; cbv)
  have vacant : Disk.walk {} (Disk.origin {} (winding.upTo 1)) (winding.upTo 1).steps =
      .ok (.vacant ["pub_key"] false) := by
    rw [short]
    cbv
  have made : Disk.createDirectory {} (winding.upTo 1) = .ok directoryOnly.disk :=
    createDirectory_vacant shortText short (by decide) vacant
  have leads : Leads directoryOnly.disk (directoryOnly.disk.origin (winding.upTo 2))
      (winding.upTo 2).steps [] .directory := by
    rw [long, ← walk_eq_entry_iff]
    cbv
  have there := createDirectory_present longText long (by decide) leads
  have stands := isDirectory_iff.mpr ⟨longText, _, leads⟩
  have whole : Path.direct ⟨"", ["pub_key", ".."]⟩ = winding.upTo 2 := by
    change Path.ofComponents _ winding.components = _
    rw [Path.upTo, components]
    rfl
  rw [whole, createDirectories, withParents_upTo plain (by simp [components]),
    withParents_upTo plain (by simp [components])]
  simp [createChain, missing, made, there, stands]

private theorem windingVault_directory :
    directoryOnly.disk.find? windingVault.keys.publicKey = some .directory := by
  cbv

private theorem windingVault_absent :
    Disk.find? {} windingVault.keys.publicKey = none ∧
      Disk.find? {} windingVault.keys.masterKey = none := by
  have unreached {path : Files.Path} (fails : Disk.walk {} (Disk.origin {} path) path.steps =
      .error .notFound) : Disk.find? {} path = none := by
    cases found : Disk.find? {} path with
    | none => rfl
    | some entry =>
      obtain ⟨place, resolved⟩ := find?_eq_some_iff.mp found
      rw [(resolve_eq_entry_iff.mp resolved).2.walk] at fails
      cases fails
  exact ⟨unreached (by cbv), unreached (by cbv)⟩

private theorem windingVault_setup :
    Attempt.exec (windingVault.setup false) {} =
      (.error (.disk .isADirectory), directoryOnly) := by
  have free : ((Vault.keyStatus windingVault {}).any && !false) = false := by
    simp [KeyStatus.any, Vault.keyStatus, isFile, windingVault_absent]
  have refused : directoryOnly.disk.write (Path.child ⟨"", ["pub_key", ".."]⟩ "pub_key")
      (Utf8.encode "fake public parameters") = .error .isADirectory :=
    write_directory windingVault_directory _
  have ends : Attempt.exec (windingVault.setup false) {} = _ := exec_setup_inProcess rfl rfl free
  rw [ends]
  simp only [windingVault_created, Scheme.setup, Scheme.writing, KeyPaths.inDirectory, refused]
  rfl

end Sample

/-- With a directory in the place of the master key, a setup writes the public key and fails. -/
theorem setup_halves_keys_beside_directory :
    IsSteady ⟨"", ["keys"]⟩ Sample.blockedMaster.disk ∧
      (Attempt.exec (Sample.vault.setup false) Sample.blockedMaster).1 =
        .error (.disk .isADirectory) ∧
      HalvesKeys Sample.vault Sample.blockedMaster
        (Attempt.exec (Sample.vault.setup false) Sample.blockedMaster).2 := by
  have steady : IsSteady ⟨"", ["keys"]⟩ Sample.blockedMaster.disk :=
    .inr (stepsBackInside_of_down (by cbv) (by rw [Path.steps, splitOn_empty]; simp))
  have ends := Sample.blockedMaster_setup
  have fails := congrArg Prod.fst ends
  refine ⟨steady, fails, ?_⟩
  have keeps := (setup_keeps_keys_or_halves_them (rfl : Sample.vault.engine = _) false).2.2 _ rfl
    (by decide) Sample.blockedMaster_tree steady
  rcases keeps _ fails with kept | halved
  · have same := kept.same Sample.vault.keys.publicKey (by simp [KeyPaths.both])
    have before : Sample.blockedMaster.disk.find? Sample.vault.keys.publicKey = none := by cbv
    have after : Sample.publicOnly.disk.find? Sample.vault.keys.publicKey =
        some (.file (Utf8.encode "fake public parameters")) := by cbv
    rw [ends, before, after] at same
    cases same
  · exact halved

/-- A setup that fails may leave a public key without a master key, so that it is refused the next
time; and where steps back are taken through what is not there yet, it may leave a directory in the
place of a key. -/
theorem failed_setup_changes_key_paths :
    Vault.keyStatus Sample.vault Sample.blockedMaster.disk = ⟨false, false⟩ ∧
      (Attempt.exec (Sample.vault.setup false) Sample.blockedMaster).1 =
        .error (.disk .isADirectory) ∧
      Vault.keyStatus Sample.vault
        (Attempt.exec (Sample.vault.setup false) Sample.blockedMaster).2.disk = ⟨true, false⟩ ∧
      (Attempt.exec (Sample.vault.setup false)
        (Attempt.exec (Sample.vault.setup false) Sample.blockedMaster).2).1 = .error .keysExist ∧
      (Attempt.exec (Sample.windingVault.setup false) {}).1 = .error (.disk .isADirectory) ∧
      (Disk.find? {} Sample.windingVault.keys.publicKey) = none ∧
      (Attempt.exec (Sample.windingVault.setup false) {}).2.disk.find?
        Sample.windingVault.keys.publicKey = some .directory := by
  have left : Vault.keyStatus Sample.vault Sample.publicOnly.disk = ⟨true, false⟩ := by cbv
  have again := exec_setup_refused (congrArg KeyStatus.any left)
  rw [Sample.blockedMaster_setup, Sample.windingVault_setup]
  exact ⟨by cbv, rfl, left, congrArg Prod.fst again, rfl, Sample.windingVault_absent.1,
    Sample.windingVault_directory⟩

end RoleVault.Vault
