import RoleVault.Proofs.Vault.Noting

/-!
Contract: a vault and its files over time, whatever happens to either.

Owns:
- `Occurrence`, what may happen: a request, the making of keys, another engine, and anything else
  that removes, writes or creates something;
- `requests_leave_nothing`: no request in any run of these leaves a thing behind, and no private key
  is asked for at a path that one was asked for at before.

Does not own: which engines write nothing but what they are told to
(`RoleVault.Proofs.Vault.Confinement`).
-/

namespace RoleVault.Vault

open RoleVault.Files RoleVault.Files.Disk

/-- A vault and what it works on. -/
structure Site where
  vault : Vault
  workspace : Workspace

inductive Occurrence where
  | request (request : Request)
  | setup (force : Bool)
  /-- The engine hangs from now on or does so no longer, or is behind other tools. -/
  | engine (next : Engine) (confined : next.Confined)
  | remove (path : Path)
  | write (path : Path) (content : List UInt8)
  | createDirectory (path : Path)

namespace Site

def onDisk (site : Site) (operation : Disk → Disk) : Site :=
  { site with workspace := { site.workspace with disk := operation site.workspace.disk } }

/-- The site once something has happened; the vault is seen through `view` while it works. -/
def after (view : Vault → Vault) (site : Site) : Occurrence → Site
  | .request request =>
    { site with workspace := ((request.procedure (view site.vault)).run site.workspace).2 }
  | .setup force =>
    { site with workspace := (Attempt.exec ((view site.vault).setup force) site.workspace).2 }
  | .engine next _ => { site with vault := { site.vault with engine := next } }
  | .remove path => site.onDisk (·.removeTree path)
  | .write path content => site.onDisk fun disk => (disk.write path content).toOption.getD disk
  | .createDirectory path =>
    site.onDisk fun disk => (disk.createDirectory path).toOption.getD disk

/-- The site once some things have happened, one after the other. -/
def run (view : Vault → Vault) (site : Site) (occurrences : List Occurrence) : Site :=
  occurrences.foldl (after view) site

/-! ## What every occurrence keeps -/

variable {site twin : Site} {view : Vault → Vault}

/-- A site where engines keep to what they are told to write, and everything is in a directory. -/
structure IsSound (site : Site) : Prop where
  confined : site.vault.engine.Confined
  plain : site.vault.scratchRoot.IsPlain
  tree : IsTree site.workspace.disk

private theorem after_isSound (sound : site.IsSound) (occurrence : Occurrence) :
    (site.after id occurrence).IsSound := by
  obtain ⟨confined, plain, tree⟩ := sound
  cases occurrence with
  | request request =>
    exact ⟨confined, plain, (request_settles confined plain tree request).isTree tree⟩
  | setup force => exact ⟨confined, plain, setup_isTree confined force _ tree⟩
  | engine next nextConfined => exact ⟨nextConfined, plain, tree⟩
  | remove path => exact ⟨confined, plain, removeTree_isTree tree path⟩
  | write path content =>
    refine ⟨confined, plain, ?_⟩
    change IsTree ((site.workspace.disk.write path content).toOption.getD _)
    cases written : site.workspace.disk.write path content with
    | error failure => exact tree
    | ok disk => exact write_isTree tree written
  | createDirectory path =>
    refine ⟨confined, plain, ?_⟩
    change IsTree ((site.workspace.disk.createDirectory path).toOption.getD _)
    cases created : site.workspace.disk.createDirectory path with
    | error failure => exact tree
    | ok disk => exact createDirectory_isTree tree created

private theorem run_isSound (sound : site.IsSound) (occurrences : List Occurrence) :
    (site.run id occurrences).IsSound := by
  induction occurrences generalizing site with
  | nil => exact sound
  | cons occurrence rest inductionHypothesis =>
    exact inductionHypothesis (after_isSound sound occurrence)

private theorem run_concat (site : Site) (view : Vault → Vault) (earlier : List Occurrence)
    (occurrence : Occurrence) :
    site.run view (earlier ++ [occurrence]) = (site.run view earlier).after view occurrence :=
  List.foldl_append

private theorem scratchRoot_after (site : Site) (view : Vault → Vault) (occurrence : Occurrence) :
    (site.after view occurrence).vault.scratchRoot = site.vault.scratchRoot := by
  cases occurrence <;> rfl

private theorem scratchRoot_run (site : Site) (view : Vault → Vault)
    (occurrences : List Occurrence) :
    (site.run view occurrences).vault.scratchRoot = site.vault.scratchRoot := by
  induction occurrences generalizing site with
  | nil => rfl
  | cons occurrence rest inductionHypothesis =>
    exact (inductionHypothesis _).trans (scratchRoot_after site view occurrence)

/-! ## The same run with the engine watched -/

/-- Sites with the same vault and the same files. -/
structure Twins (site twin : Site) : Prop where
  vault : twin.vault = site.vault
  alike : Alike site.workspace twin.workspace

private theorem Twins.onDisk (twins : Twins site twin) (operation : Disk → Disk) :
    Twins (site.onDisk operation) (twin.onDisk operation) :=
  ⟨twins.vault, congrArg operation twins.alike.disk, twins.alike.nextScratch⟩

/-- Two sites that differ in their notes alone stay so. -/
theorem Twins.after (twins : Twins site twin) (sound : site.IsSound) (occurrence : Occurrence) :
    Twins (site.after id occurrence) (twin.after watched occurrence) := by
  have alike := twins.alike
  have same := twins.vault
  cases occurrence with
  | request request =>
    refine ⟨same, ?_⟩
    simp only [Site.after, same]
    exact request_watched sound.confined sound.plain request alike
  | setup force =>
    refine ⟨same, ?_⟩
    simp only [Site.after, same]
    exact (setup_watched sound.confined alike force).alike
  | engine next confined => exact ⟨by simp only [Site.after, same], alike⟩
  | remove path => exact twins.onDisk (·.removeTree path)
  | write path content =>
    exact twins.onDisk fun disk => (disk.write path content).toOption.getD disk
  | createDirectory path =>
    exact twins.onDisk fun disk => (disk.createDirectory path).toOption.getD disk

private theorem after_notes (sound : site.IsSound) (twins : Twins site twin)
    (occurrence : Occurrence) :
    NotesInOrder site.vault.scratchRoot twin.workspace
      (twin.after watched occurrence).workspace := by
  obtain ⟨confined, plain, _⟩ := sound
  rw [← twins.vault] at confined plain ⊢
  have nothing (disk : Disk) : NotesInOrder twin.vault.scratchRoot twin.workspace
      { twin.workspace with disk := disk } := .of_notes ⟨(List.append_nil _).symm, rfl⟩
  cases occurrence with
  | request request => exact request_notes confined plain request twin.workspace
  | setup force => exact .of_notes (setup_notes confined force twin.workspace)
  | engine next _ => exact nothing _
  | remove path => exact nothing _
  | write path content => exact nothing _
  | createDirectory path => exact nothing _

private theorem run_watched (sound : site.IsSound) (twins : Twins site twin)
    (occurrences : List Occurrence) :
    Twins (site.run id occurrences) (twin.run watched occurrences) ∧
      NotesInOrder site.vault.scratchRoot twin.workspace
        (twin.run watched occurrences).workspace := by
  induction occurrences generalizing site twin with
  | nil => exact ⟨twins, .of_notes (.nothing _)⟩
  | cons occurrence rest inductionHypothesis =>
    obtain ⟨still, notes⟩ :=
      inductionHypothesis (after_isSound sound occurrence) (twins.after sound occurrence)
    rw [scratchRoot_after] at notes
    exact ⟨still, (after_notes sound twins occurrence).trans notes⟩

end Site

/-- Every request leaves what it found, but that directories may have come into being on the way to the
scratch root: all files, the keys among them, whatever a path leads to, and everything in the scratch
root.  This last holds where the root is written without steps back or is a directory before the
request; a root that leads through itself may get the directories that it leads through.  All this is
so whichever way the request ends, and whatever happened before; and no two private keys that an
engine is asked for in the course of it all have the same path.  (They are those that a watched engine
notes, in a run that is otherwise the same.) -/
theorem requests_leave_nothing {site : Site} (sound : site.IsSound)
    (occurrences : List Occurrence) :
    (∀ earlier request later, occurrences = earlier ++ .request request :: later →
      LeavesNothing site.vault.scratchRoot (site.run id earlier).workspace.disk
        (site.run id (earlier ++ [.request request])).workspace.disk) ∧
    ∃ handed,
      (site.run watched occurrences).workspace.issuedKeys = site.workspace.issuedKeys ++ handed ∧
      (handed.map Path.text).Nodup ∧
      (site.run watched occurrences).workspace.disk =
        (site.run id occurrences).workspace.disk := by
  constructor
  · rintro earlier request _ rfl
    obtain ⟨confined, plain, tree⟩ := Site.run_isSound sound earlier
    have settled := (request_settles confined plain tree request).leavesNothing plain
    rw [Site.scratchRoot_run] at settled
    rw [Site.run_concat]
    exact settled
  · obtain ⟨twins, notes⟩ := Site.run_watched sound ⟨rfl, rfl, rfl⟩ occurrences
    obtain ⟨handed, noted, different⟩ := notes.nodup
    exact ⟨handed, noted, different, twins.alike.disk.symm⟩

namespace Sample

/-- Keys are made and used; then the engine hangs, is behind tools that write nothing into their
outputs, and behind tools that are not there; then one key is lost and a directory is in the place of
the other, and at last a file is in the place of the scratch root. -/
def occurrences : List Occurrence :=
  let requests : List Occurrence := [.request (.sealFor .admin "p@ssw0rd"),
    .request (.openWith .operator (sealedText .admin "p@ssw0rd")), .request (.openWith .user "%%")]
  requests ++ .setup false :: requests ++
    .engine (.inProcess true) (inProcess_confined true) :: requests ++
    .engine (.commandLine .usual (.scripted { emptyOutput := true }))
      (commandLine_confined (scripted_confined _) _) :: requests ++
    .engine (.commandLine ⟨"missing", "missing", "missing", "missing"⟩ .scheme)
      (commandLine_confined scheme_confined _) :: requests ++
    .engine (.inProcess false) (inProcess_confined false) ::
    .remove Sample.vault.keys.masterKey :: requests ++
    .remove Sample.vault.keys.publicKey :: .createDirectory Sample.vault.keys.publicKey :: requests ++
    .remove Sample.vault.scratchRoot :: .write Sample.vault.scratchRoot [] :: requests

private theorem isSound : (Site.mk Sample.vault {}).IsSound :=
  ⟨inProcess_confined false, by decide, tidy.tree⟩

end Sample

/-- Along a run with setups, another engine and a blocked root, every request leaves nothing. -/
theorem sample_requests_leave_nothing :
    (Site.mk Sample.vault {}).IsSound ∧
      (∀ earlier request later, Sample.occurrences = earlier ++ .request request :: later →
        LeavesNothing Sample.vault.scratchRoot
          ((Site.mk Sample.vault {}).run id earlier).workspace.disk
          ((Site.mk Sample.vault {}).run id (earlier ++ [.request request])).workspace.disk) ∧
      ∃ handed,
        ((Site.mk Sample.vault {}).run watched Sample.occurrences).workspace.issuedKeys = handed ∧
        (handed.map Path.text).Nodup := by
  obtain ⟨leaves, handed, noted, different, _⟩ :=
    requests_leave_nothing Sample.isSound Sample.occurrences
  exact ⟨Sample.isSound, leaves, handed, noted, different⟩

end RoleVault.Vault
