import RoleVault.Proofs.Files.Tree
import RoleVault.Proofs.Vault.Opening

/-!
Contract: nothing that a vault does gets in the way of its keys.

Owns:
- `IsLaidOut`, a vault whose keys and scratch root have paths that can be used together, and that
  keys in one directory are so (`isLaidOut_inDirectory`);
- `Tidy`, a tree of files in which no directory stands in the place of a key;
- that making the keys, removing them and working in a scratch directory keep a tree so, and that the
  keys can be written in such a tree.

Does not own: sealing and opening (`RoleVault.Proofs.Vault.Sealing` and its neighbour).
-/

namespace RoleVault.Vault

open RoleVault.Files RoleVault.Files.Disk RoleVault.Text

/-- The paths of both keys. -/
def KeyPaths.both (keys : KeyPaths) : List Path :=
  [keys.publicKey, keys.masterKey]

def roots (vault : Vault) : List Path :=
  vault.keys.publicKey.parent?.toList ++ vault.keys.masterKey.parent?.toList ++
    [vault.scratchRoot]

/-- A path that a file can be written to, once the directory before its last name is there. -/
structure IsFilePath (path : Path) : Prop extends path.IsNameable where
  named : ∃ front name, path.steps = front ++ [name] ∧ GoesDown name

/-- A vault whose paths can be used together: no directory that it creates would stand in the place
of a key, and the paths of files in scratch directories are not too long.

Where a file cannot be written for such a reason, the scheme fails as the files do, but a tool only
complains and exits, so that the two kinds of engine are told apart. -/
structure IsLaidOut (vault : Vault) (home : Location) : Prop where
  keyPaths : ∀ key ∈ vault.keys.both, IsFilePath key
  scratchPlain : vault.scratchRoot.IsPlain
  scratchRoom : vault.scratchRoot.text.utf8ByteSize + (1 + maxNameSize) +
    (1 + "sealed.cpabe".utf8ByteSize) ≤ maxPathSize
  apart : ∀ key ∈ vault.keys.both, ∀ root ∈ vault.roots, key.place home ∉ root.places home

/-- A tree of files in which no directory stands in the place of a key. -/
structure Tidy (vault : Vault) (disk : Disk) : Prop where
  laidOut : IsLaidOut vault disk.home
  tree : IsTree disk
  clear : ∀ key ∈ vault.keys.both, disk.get? (key.place disk.home) ≠ some .directory

variable {α : Type} {vault : Vault} {disk other : Disk} {workspace after : Workspace}
variable {key root scratch : Path} {label : String}

theorem Tidy.congr (tidy : Tidy vault disk) (home : other.home = disk.home)
    (same : ∀ place, other.get? place = disk.get? place) : Tidy vault other where
  laidOut := by
    rw [home]
    exact tidy.laidOut
  tree := isTree_congr same tidy.tree
  clear key member := by
    rw [home, same]
    exact tidy.clear key member

/-- Both keys in one directory that is written without steps back are laid out, if the scratch root
leads through neither of them. -/
theorem isLaidOut_inDirectory {directory : Path} {home : Location}
    (keys : vault.keys = .inDirectory directory) (plain : directory.IsPlain)
    (down : ".." ∉ directory.steps) (text : ∀ key ∈ vault.keys.both, IsPathText key.text)
    (scratchPlain : vault.scratchRoot.IsPlain)
    (scratchRoom : vault.scratchRoot.text.utf8ByteSize + (1 + maxNameSize) +
      (1 + "sealed.cpabe".utf8ByteSize) ≤ maxPathSize)
    (apart : ∀ key ∈ vault.keys.both, key.place home ∉ vault.scratchRoot.places home) :
    IsLaidOut vault home := by
  have named : ∀ key ∈ vault.keys.both, ∃ name, key = directory.child name ∧ IsPiece name ∧
      GoesDown name := by
    have publicName : IsPiece "pub_key" ∧ GoesDown "pub_key" := by decide
    have masterName : IsPiece "master_key" ∧ GoesDown "master_key" := by decide
    intro key member
    rw [keys] at member
    simp only [KeyPaths.both, KeyPaths.inDirectory, List.mem_cons, List.not_mem_nil,
      or_false] at member
    rcases member with rfl | rfl
    · exact ⟨"pub_key", rfl, publicName⟩
    · exact ⟨"master_key", rfl, masterName⟩
  refine ⟨fun key member => ?_, scratchPlain, scratchRoom, fun key member root among => ?_⟩
  · obtain ⟨name, rfl, piece, descends⟩ := named key member
    exact ⟨⟨plain.child piece, text _ member⟩, directory.steps, name, steps_child directory name,
      descends⟩
  · obtain ⟨name, rfl, _, descends⟩ := named key member
    have ofParent {sibling : Path} (other : sibling ∈ vault.keys.both)
        (above : sibling.parent? = some root) :
        (directory.child name).place home ∉ root.places home := by
      obtain ⟨last, rfl, piece, siblingDescends⟩ := named sibling other
      exact place_not_mem_parent { home := home } (plain.child piece)
        (steps_child directory last) siblingDescends above rfl (steps_child directory name)
        descends down
    simp only [roots, List.mem_append, Option.mem_toList, List.mem_singleton] at among
    rcases among with (ofPublic | ofMaster) | rfl
    · exact ofParent (by simp [KeyPaths.both]) ofPublic
    · exact ofParent (by simp [KeyPaths.both]) ofMaster
    · exact apart _ member

/-! ## Directories -/

private theorem roots_plain (laidOut : IsLaidOut vault disk.home) (member : root ∈ vault.roots) :
    root.IsPlain := by
  have parentPlain {path parent : Path} (above : path.parent? = some parent) :
      parent.IsPlain := by
    unfold Path.parent? at above
    simp only at above
    split at above
    · cases above
    · cases above
      exact nofun
  simp only [roots, List.mem_append, Option.mem_toList, List.mem_singleton] at member
  rcases member with (ofPublic | ofMaster) | rfl
  · exact parentPlain ofPublic
  · exact parentPlain ofMaster
  · exact laidOut.scratchPlain

/-- Creating one of its directories leaves a vault tidy. -/
theorem Tidy.createDirectories (tidy : Tidy vault disk) (member : root ∈ vault.roots) :
    Tidy vault (disk.createDirectories root).2 := by
  have home := (createDirectories_extends disk root).home
  refine ⟨?_, createDirectories_isTree tidy.tree root, ?_⟩
  · rw [home]
    exact tidy.laidOut
  · intro key among
    have outside := createDirectories_outside (roots_plain tidy.laidOut member)
      (tidy.laidOut.apart key among root member)
    rw [home, outside]
    exact tidy.clear key among

theorem Tidy.directories (tidy : Tidy vault workspace.disk) (member : root ∈ vault.roots) :
    Tidy vault (Attempt.exec (Attempt.directories (some root)) workspace).2.disk :=
  tidy.createDirectories member

/-- The directory above a key houses it once it is created. -/
theorem IsFilePath.houses (file : IsFilePath key) :
    ∃ parent, key.parent? = some parent ∧ ∀ disk : Disk,
      (disk.createDirectories parent).1 = .ok () →
        Houses (disk.createDirectories parent).2 key := by
  obtain ⟨front, name, ends, descends⟩ := file.named
  obtain ⟨parent, above, housed⟩ := houses_of_parent file.plain ends descends
  refine ⟨parent, above, fun disk done => ?_⟩
  obtain ⟨place, leads⟩ := createDirectories_leads done
  exact housed _ place leads

/-! ## Keys -/

private theorem Tidy.write_key (tidy : Tidy vault disk) (member : key ∈ vault.keys.both)
    (houses : Houses disk key) (content : List UInt8) :
    ∃ written, disk.write key content = .ok written ∧ Tidy vault written ∧
      ∀ path, Houses disk path → Houses written path := by
  have clear := tidy.clear key member
  refine ⟨disk.put (key.place disk.home) (.file content),
    houses.write (tidy.laidOut.keyPaths key member).text clear content,
    ⟨tidy.laidOut, tidy.tree.put_file clear houses.above content, fun path among => ?_⟩,
    fun path housed => housed.keep_directories rfl fun {name} directory => ?_⟩
  · by_cases same : path.place disk.home = key.place disk.home
    · rw [home_put, same, get?_put_self clear]
      exact nofun
    · rw [home_put, get?_put_of_ne same]
      exact tidy.clear path among
  · have different : name ≠ key.place disk.home := by
      rintro rfl
      exact clear directory
    rw [get?_put_of_ne different]
    exact directory

/-- Both keys can be made where they are housed. -/
theorem Tidy.setup (tidy : Tidy vault disk)
    (houses : ∀ key ∈ vault.keys.both, Houses disk key) :
    ∃ made, Scheme.setup vault.keys disk = (.ok (), made) ∧ Tidy vault made := by
  have publicMember : vault.keys.publicKey ∈ vault.keys.both := by simp [KeyPaths.both]
  have masterMember : vault.keys.masterKey ∈ vault.keys.both := by simp [KeyPaths.both]
  obtain ⟨between, publicWritten, betweenTidy, stillHoused⟩ :=
    tidy.write_key publicMember (houses _ publicMember) (Utf8.encode "fake public parameters")
  obtain ⟨made, masterWritten, madeTidy, _⟩ := betweenTidy.write_key masterMember
    (stillHoused _ (houses _ masterMember)) (Utf8.encode "fake master secret")
  refine ⟨made, ?_, madeTidy⟩
  simp only [Scheme.setup, Scheme.writing, publicWritten, masterWritten, Scheme.finish]

/-- Removing one of its keys leaves a vault tidy. -/
theorem Tidy.removeKey (tidy : Tidy vault disk) (member : key ∈ vault.keys.both) :
    Tidy vault (disk.removeTree key) := by
  have clear := tidy.clear key member
  unfold Disk.removeTree
  split
  · rename_i place entry resolved
    obtain ⟨_, leads⟩ := resolve_eq_entry_iff.mp resolved
    obtain rfl : place = key.place disk.home := leads.destination
    refine ⟨tidy.laidOut, removeAt_isTree tidy.tree _, fun path among => ?_⟩
    change (disk.removeAt (key.place disk.home)).get? (path.place disk.home) ≠ some .directory
    by_cases same : path.place disk.home = key.place disk.home
    · rw [same, get?_removeAt_below (not_above_home clear) List.prefix_rfl]
      exact nofun
    · rw [tidy.tree.get?_removeAt clear same]
      exact tidy.clear path among
  · exact tidy

/-! ## Scratch directories -/

/-- Once a scratch directory is removed, all is as it was before it was made. -/
theorem Scratch.get?_removeTree {before : Disk} {place : Location} (tree : IsTree before)
    (working : Scratch before scratch place disk) (there : Location) :
    (disk.removeTree scratch).get? there = before.get? there := by
  by_cases below : place <+: there
  · have outside : ¬ place <+: disk.home := by
      rw [working.agrees.home]
      exact not_above_home (by simp [working.free])
    have gone : before.get? there = none := by
      by_cases same : there = place
      · rw [same]
        exact working.free
      · exact tree.nothing_below (by simp [working.free]) below same
    have resolved := resolve_eq_entry_iff.mpr ⟨working.text, working.leads⟩
    rw [gone, Disk.removeTree, resolved]
    exact get?_removeAt_below outside below
  · exact working.removeTree.get? below

/-- Once work in a scratch directory is over, nothing is left of it but the scratch root. -/
theorem inScratch_same {work : Path → Attempt α} (tree : IsTree workspace.disk)
    (keeps : ∀ number, KeepsTo (vault.scratchPath label number)
      (work (vault.scratchPath label number))) :
    Same (workspace.disk.createDirectories vault.scratchRoot).2
      (Attempt.exec (vault.inScratch label work) workspace).2.disk := by
  match made : Attempt.exec (vault.createScratch label) workspace with
  | (.error failure, between) =>
    rw [Attempt.exec_inScratch_error made, createScratch_error made]
    exact .refl _
  | (.ok scratch, between) =>
    obtain ⟨place, number, rfl, working, _⟩ := createScratch_ok made
    have worked := keeps number _ place between working
    rw [Attempt.exec_inScratch made]
    exact ⟨worked.removeTree.home, worked.get?_removeTree (createDirectories_isTree tree _)⟩

/-- Work in a scratch directory of its own leaves a vault tidy. -/
theorem Tidy.inScratch {work : Path → Attempt α} (tidy : Tidy vault workspace.disk)
    (keeps : ∀ scratch, KeepsTo scratch (work scratch)) :
    Tidy vault (Attempt.exec (vault.inScratch label work) workspace).2.disk := by
  have member : vault.scratchRoot ∈ vault.roots := by simp [roots]
  have created := tidy.createDirectories member
  have same : Same (workspace.disk.createDirectories vault.scratchRoot).2
      (Attempt.exec (vault.inScratch label work) workspace).2.disk :=
    inScratch_same tidy.tree fun _ => keeps _
  exact created.congr same.home same.get?

theorem scratchName_characters (label : String) (number : Nat) :
    (s!"{label}-{number}").toList = label.toList ++ '-' :: Nat.toDigits 10 number := by
  change (label ++ "-" ++ number.repr).toList = _
  simp [Nat.repr_eq_ofList_toDigits]

/-- Each number gives a scratch directory of its own. -/
theorem scratchName_injective (label : String) :
    Function.Injective fun number : Nat => s!"{label}-{number}" := by
  intro number other same
  have characters : (s!"{label}-{number}").toList = (s!"{label}-{other}").toList :=
    congrArg String.toList same
  rw [scratchName_characters, scratchName_characters] at characters
  have digits := (List.cons.inj (List.append_cancel_left characters)).2
  have value := congrArg (Nat.ofDigitChars 10 · 0) digits
  simpa [Nat.ofDigitChars_ten_toDigits] using value

/-- The name of a scratch directory is a single piece, and neither of the names of places that are
there anyway. -/
theorem scratchName_goes (clean : '/' ∉ label.toList) (number : Nat) :
    IsPiece s!"{label}-{number}" ∧ s!"{label}-{number}" ≠ "." ∧ s!"{label}-{number}" ≠ ".." := by
  have characters := scratchName_characters label number
  have dashed {name : String} (plain : '-' ∉ name.toList) : s!"{label}-{number}" ≠ name := by
    intro same
    rw [← same, characters] at plain
    simp at plain
  have slashless : '/' ∉ (s!"{label}-{number}").toList := by
    have digits : '/' ∉ Nat.toDigits 10 number := by
      intro member
      have digit := Nat.isDigit_of_mem_toDigits (by decide) (by decide) member
      cases digit
    rw [characters]
    simp [clean, digits]
  exact ⟨⟨dashed (by simp), slashless⟩, dashed (by decide), dashed (by decide)⟩

theorem scratch_plain (plain : vault.scratchRoot.IsPlain) (clean : '/' ∉ label.toList)
    (creates : Attempt.exec (vault.createScratch label) workspace = (.ok scratch, after)) :
    scratch.IsPlain := by
  obtain ⟨_, number, named, _⟩ := createScratch_ok creates
  rw [named]
  exact plain.child (scratchName_goes clean number).1

/-- The paths of files in a new scratch directory are plain and not too long. -/
theorem scratch_fits (laidOut : IsLaidOut vault workspace.disk.home) (clean : '/' ∉ label.toList)
    (creates : Attempt.exec (vault.createScratch label) workspace = (.ok scratch, after)) :
    scratch.IsPlain ∧ (scratch.child "sealed.cpabe").text.utf8ByteSize ≤ maxPathSize := by
  obtain ⟨place, number, named, working, _⟩ := createScratch_ok creates
  obtain ⟨piece, goes⟩ := scratchName_goes clean number
  have leads := working.leads
  rw [named, Vault.scratchPath, steps_child] at leads
  obtain ⟨_, _, _, short⟩ := leads.goesDown_last ⟨piece.1, goes⟩
  have room := laidOut.scratchRoom
  have whole := size_join_le (vault.scratchRoot.child s!"{label}-{number}").text "sealed.cpabe"
  have part := size_join_le vault.scratchRoot.text s!"{label}-{number}"
  refine ⟨scratch_plain laidOut.scratchPlain clean creates, ?_⟩
  rw [Path.text_child] at whole
  rw [named, Vault.scratchPath, Path.text_child, Path.text_child]
  omega

end RoleVault.Vault
