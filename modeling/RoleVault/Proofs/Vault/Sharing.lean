import Mathlib.Data.Finset.Card
import RoleVault.Proofs.Vault.Crowd
import RoleVault.Proofs.Vault.KeyFiles

/-!
Contract: several requests with scratch directories below one root.

Owns:
- `Holding`, what a request holds of the scratch root, and `Shares`, what the files are like while
  each of several requests holds what it does;
- `Fresh`, the names of scratch directories that are about to be handed out;
- that creating a directory, writing a file in it and removing it keep the files so, whichever
  request does it (`Shares.create_held`, `Shares.write_held`, `Shares.remove_held`).

Does not own: what requests ensure by this (`RoleVault.Proofs.Vault.ScratchProtocol`).
-/

namespace RoleVault.Vault

open RoleVault.Files RoleVault.Files.Disk

/-- What a request holds of the scratch root: nothing yet, the root, a directory with some files, or
nothing any more. -/
inductive Holding where
  | waiting
  | rooted
  | working (label : String) (number : Nat) (files : String → Option (List UInt8))
  | finished

namespace Holding

/-- The name of the directory that is held, if one is. -/
def name? : Holding → Option String
  | working label number _ => some s!"{label}-{number}"
  | _ => none

theorem name?_eq_some_iff {holding : Holding} {name : String} :
    holding.name? = some name ↔
      ∃ label number files, holding = working label number files ∧ name = s!"{label}-{number}" := by
  cases holding <;> simp [name?, eq_comm]

/-- Whether a directory may yet be asked for. -/
def isPending : Holding → Bool
  | waiting | rooted => true
  | _ => false

end Holding

def labels : List String := ["seal", "unseal"]

private theorem scratchName_number {label other : String} (known : label ∈ labels)
    (alsoKnown : other ∈ labels) {number second : Nat}
    (same : s!"{label}-{number}" = s!"{other}-{second}") : number = second := by
  have characters := congrArg String.toList same
  rw [scratchName_characters, scratchName_characters] at characters
  simp only [labels, List.mem_cons, List.not_mem_nil, or_false] at known alsoKnown
  rcases known with rfl | rfl <;> rcases alsoKnown with rfl | rfl
  · exact scratchName_injective "seal" same
  · simp at characters
  · simp at characters
  · exact scratchName_injective "unseal" same

/-- Names that the files in a scratch directory may have. -/
def IsShort (name : String) : Prop :=
  GoesDown name ∧ '\x00' ∉ name.toList ∧ name.utf8ByteSize ≤ "sealed.cpabe".utf8ByteSize

instance (name : String) : Decidable (IsShort name) := by
  unfold IsShort
  infer_instance

/-- A directory that holds some files and nothing else directly. -/
structure IsKept (place : Location) (files : String → Option (List UInt8)) (disk : Disk) :
    Prop where
  directory : disk.get? place = some .directory
  files : ∀ name, disk.get? (place ++ [name]) = (files name).map .file

theorem IsKept.agrees {place outside : Location} {files : String → Option (List UInt8)}
    {disk other : Disk} (kept : IsKept place files disk) (agrees : AgreesOutside outside disk other)
    (apart : ¬ outside <+: place) (beside : ∀ name, ¬ outside <+: place ++ [name]) :
    IsKept place files other where
  directory := (agrees.get? apart).trans kept.directory
  files name := (agrees.get? (beside name)).trans (kept.files name)

/-- A file in a directory is written. -/
theorem IsKept.put {place : Location} {files : String → Option (List UInt8)} {disk : Disk}
    (kept : IsKept place files disk) (name : String) (content : List UInt8) :
    IsKept place (Function.update files name (some content))
      (disk.put (place ++ [name]) (.file content)) := by
  have plain : disk.get? (place ++ [name]) ≠ some .directory := by
    rw [kept.files]
    cases files name <;> simp
  constructor
  · rw [get?_put_of_ne (by simp), kept.directory]
  · intro other
    by_cases same : other = name
    · rw [same, get?_put_self plain, Function.update_self, Option.map_some]
    · rw [get?_put_of_ne (by simpa using same), Function.update_of_ne same, kept.files]

section Shared

variable (vault : Vault) (start : Workspace) (limit : Nat)

/-- The files once the scratch root has been created. -/
def ground : Disk :=
  (start.disk.createDirectories vault.scratchRoot).2

def scratchPlace (name : String) : Location :=
  vault.scratchRoot.place start.disk.home ++ [name]

variable {vault start} in
/-- Different names in the scratch root lead to places of which none is below another. -/
theorem scratchPlace_prefix {name other : String} {rest : Location}
    (below : scratchPlace vault start name <+: scratchPlace vault start other ++ rest) :
    name = other := by
  rw [scratchPlace, scratchPlace, List.append_assoc, List.prefix_append_right_inj] at below
  simpa using below

/-- Whether the next few scratch directories, however they are labelled, would be where nothing is,
under names and paths that are not too long. -/
def Fresh : Prop :=
  ∀ label ∈ labels, ∀ number, start.nextScratch ≤ number → number < start.nextScratch + limit →
    (ground vault start).get? (scratchPlace vault start s!"{label}-{number}") = none ∧
    GoesDown s!"{label}-{number}" ∧ IsPathText (vault.scratchPath label number).text ∧
    ((vault.scratchPath label number).child "sealed.cpabe").text.utf8ByteSize ≤ maxPathSize

/-- How many of the requests may yet ask for a directory. -/
def pending (holds : Nat → Holding) : Nat :=
  ((Finset.range limit).filter fun number => (holds number).isPending).card

/-- The files, once the scratch root is there, while each request holds what it does: each directory
is held by one request alone, and besides them all is as it was. -/
structure Shares (holds : Nat → Holding) (workspace : Workspace) : Prop where
  home : workspace.disk.home = start.disk.home
  outside : ∀ place, (∀ request name, (holds request).name? = some name →
      ¬ scratchPlace vault start name <+: place) →
    workspace.disk.get? place = (ground vault start).get? place
  held : ∀ request label number files, holds request = .working label number files →
    IsKept (scratchPlace vault start s!"{label}-{number}") files workspace.disk ∧
    request < limit ∧ label ∈ labels ∧ start.nextScratch ≤ number ∧ number < workspace.nextScratch
  apart : ∀ request other name, (holds request).name? = some name →
    (holds other).name? = some name → request = other
  counts : start.nextScratch ≤ workspace.nextScratch
  room : workspace.nextScratch + pending limit holds ≤ start.nextScratch + limit

namespace Shares

variable {vault : Vault} {start workspace : Workspace} {limit request : Nat}
variable {holds : Nat → Holding} {later : Holding}

/-! ## Requests that may yet ask for a directory -/

/-- No request comes to be pending that was not. -/
theorem pending_subset (kept : later.isPending = true → (holds request).isPending = true) :
    ((Finset.range limit).filter fun number =>
      (Function.update holds request later number).isPending) ⊆
    (Finset.range limit).filter fun number => (holds number).isPending := by
  intro number member
  obtain ⟨known, waits⟩ := Finset.mem_filter.mp member
  refine Finset.mem_filter.mpr ⟨known, ?_⟩
  by_cases same : number = request
  · subst same
    rw [Function.update_self] at waits
    exact kept waits
  · rwa [Function.update_of_ne same] at waits

private theorem pending_update_le
    (kept : later.isPending = true → (holds request).isPending = true) :
    pending limit (Function.update holds request later) ≤ pending limit holds :=
  Finset.card_le_card (pending_subset kept)

private theorem pending_update_lt (known : request < limit)
    (waits : (holds request).isPending = true)
    (stops : later.isPending = false) :
    pending limit (Function.update holds request later) < pending limit holds := by
  refine Finset.card_lt_card ((Finset.ssubset_iff_of_subset ?_).mpr ⟨request, ?_, ?_⟩)
  · exact pending_subset fun waits => absurd waits (by simp [stops])
  · exact Finset.mem_filter.mpr ⟨Finset.mem_range.mpr known, waits⟩
  · simp [stops]

/-! ## Changes in one directory -/

section Change

variable (shares : Shares vault start limit holds workspace)

include shares

private theorem room_update (stops : later.isPending = true → (holds request).isPending = true) :
    workspace.nextScratch + pending limit (Function.update holds request later) ≤
      start.nextScratch + limit := by
  have fewer : pending limit (Function.update holds request later) ≤ pending limit holds :=
    pending_update_le stops
  have room := shares.room
  omega

/-- What is held in a directory that is not changed is held still. -/
theorem kept_beside {name label : String} {number : Nat} {files : String → Option (List UInt8)}
    {disk : Disk} (agrees : AgreesOutside (scratchPlace vault start name) workspace.disk disk)
    (holding : holds request = .working label number files)
    (different : (holds request).name? ≠ some name) :
    IsKept (scratchPlace vault start s!"{label}-{number}") files disk := by
  obtain ⟨kept, _⟩ := shares.held request label number files holding
  have apart : name ≠ s!"{label}-{number}" := by
    rintro rfl
    exact different (Holding.name?_eq_some_iff.mpr ⟨_, _, _, holding, rfl⟩)
  refine kept.agrees agrees (fun below => apart ?_) fun _ below => apart ?_
  · exact scratchPlace_prefix (by rwa [List.append_nil])
  · exact scratchPlace_prefix below

/-- No two requests come to hold the same directory when one of them is given one that is free. -/
theorem apart_update {name : String} (alone : ∀ held, later.name? = some held → held = name)
    (beside : ∀ other, other ≠ request → (holds other).name? ≠ some name) {one other : Nat}
    {held : String} (first : (Function.update holds request later one).name? = some held)
    (second : (Function.update holds request later other).name? = some held) : one = other := by
  by_cases mine : one = request <;> by_cases yours : other = request
  · rw [mine, yours]
  · rw [mine, Function.update_self] at first
    rw [Function.update_of_ne yours, alone held first] at second
    exact absurd second (beside other yours)
  · rw [yours, Function.update_self] at second
    rw [Function.update_of_ne mine, alone held second] at first
    exact absurd first (beside one mine)
  · rw [Function.update_of_ne mine] at first
    rw [Function.update_of_ne yours] at second
    exact shares.apart one other held first second

/-- A change in the directory of one request, which it may have been given just now or may give up,
leaves the others what they hold. -/
theorem change {name : String} {disk : Disk} {next : Nat}
    (agrees : AgreesOutside (scratchPlace vault start name) workspace.disk disk)
    (before : (holds request).name? = none ∨ (holds request).name? = some name)
    (beside : ∀ other, other ≠ request → (holds other).name? ≠ some name)
    (after : later.name? = some name ∨ later.name? = none ∧ ∀ place,
      scratchPlace vault start name <+: place → disk.get? place = (ground vault start).get? place)
    (own : ∀ label number files, later = .working label number files →
      IsKept (scratchPlace vault start s!"{label}-{number}") files disk ∧
      request < limit ∧ label ∈ labels ∧ start.nextScratch ≤ number ∧ number < next)
    (grows : workspace.nextScratch ≤ next)
    (room : next + pending limit (Function.update holds request later) ≤
      start.nextScratch + limit) (issued : List Path) :
    Shares vault start limit (Function.update holds request later) ⟨disk, next, issued⟩ where
  home := agrees.home.trans shares.home
  outside place clear := by
    by_cases below : scratchPlace vault start name <+: place
    · rcases after with same | ⟨_, gone⟩
      · exact absurd below (clear request name (by rw [Function.update_self, same]))
      · exact gone place below
    · rw [agrees.get? below]
      refine shares.outside place fun other held holding => ?_
      by_cases same : other = request
      · rw [same] at holding
        rcases before with none | mine
        · rw [none] at holding
          cases holding
        · obtain rfl := Option.some.inj (mine.symm.trans holding)
          exact below
      · exact clear other held (by rw [Function.update_of_ne same, holding])
  held other label number files holding := by
    by_cases same : other = request
    · rw [same, Function.update_self] at holding
      rw [same]
      exact own label number files holding
    · rw [Function.update_of_ne same] at holding
      obtain ⟨_, known, labelled, early, late⟩ := shares.held other label number files holding
      exact ⟨shares.kept_beside agrees holding (beside other same), known, labelled, early,
        late.trans_le grows⟩
  apart one other held first second := by
    refine shares.apart_update (fun held holding => ?_) beside first second
    rcases after with same | ⟨none, _⟩
    · exact Option.some.inj (holding.symm.trans same)
    · rw [none] at holding
      cases holding
  counts := shares.counts.trans grows
  room := room

/-- A request that holds no directory may come to hold none in another way. -/
theorem retag {disk : Disk} (idle : (holds request).name? = none)
    (still : later.name? = none) (kept : later.isPending = true → (holds request).isPending = true)
    (same : disk = workspace.disk) (issued : List Path) :
    Shares vault start limit (Function.update holds request later)
      ⟨disk, workspace.nextScratch, issued⟩ := by
  have names (other : Nat) :
      (Function.update holds request later other).name? = (holds other).name? := by
    by_cases same : other = request
    · rw [same, Function.update_self, still, idle]
    · rw [Function.update_of_ne same]
  subst same
  refine ⟨shares.home, fun place clear => ?_, fun other label number files holding => ?_,
    fun one other name => ?_, shares.counts, ?_⟩
  · exact shares.outside place fun other name held => clear other name ((names other).trans held)
  · have different : other ≠ request := by
      rintro rfl
      rw [Function.update_self] at holding
      rw [holding] at still
      cases still
    rw [Function.update_of_ne different] at holding
    exact shares.held other label number files holding
  · rw [names, names]
    exact shares.apart one other name
  · exact shares.room_update kept

variable {label : String} {files : String → Option (List UInt8)} {number : Nat}

/-- A directory in use has one of the numbers given out since the start. -/
theorem held_range (holding : holds request = .working label number files) :
    label ∈ labels ∧ start.nextScratch ≤ number ∧ number < start.nextScratch + limit := by
  obtain ⟨_, _, known, early, late⟩ := shares.held request label number files holding
  have room := shares.room
  exact ⟨known, early, by omega⟩

private theorem held_beside (holding : holds request = .working label number files) (other : Nat)
    (different : other ≠ request) : (holds other).name? ≠ some s!"{label}-{number}" := by
  intro same
  refine different (shares.apart other request _ same ?_)
  rw [holding]
  rfl

theorem congr {other : Workspace} (disk : other.disk = workspace.disk)
    (next : other.nextScratch = workspace.nextScratch) : Shares vault start limit holds other := by
  obtain ⟨otherDisk, otherNext, issued⟩ := other
  subst disk next
  exact ⟨shares.home, shares.outside, shares.held, shares.apart, shares.counts, shares.room⟩

end Change

/-! ## What a request does -/

section Steps

private theorem ground_isTree (tree : IsTree start.disk) : IsTree (ground vault start) :=
  createDirectories_isTree tree _

variable (tree : IsTree start.disk) (fresh : Fresh vault start limit)
variable (shares : Shares vault start limit holds workspace)

variable {label : String} {files : String → Option (List UInt8)} {number : Nat}

variable {name : String} {content : List UInt8}

include fresh

include shares in
private theorem text_held (holding : holds request = .working label number files)
    (short : IsShort name) :
    IsPathText ((vault.scratchPath label number).child name).text := by
  obtain ⟨known, early, late⟩ := held_range shares holding
  obtain ⟨_, _, text, fits⟩ := fresh label known number early late
  exact isPathText_child text short.2.1 short.2.2 fits

include tree

/-- Nothing was in the directories that are handed out. -/
theorem ground_below {label : String} {number : Nat} {place : Location} (known : label ∈ labels)
    (early : start.nextScratch ≤ number) (late : number < start.nextScratch + limit)
    (below : scratchPlace vault start s!"{label}-{number}" <+: place) :
    (ground vault start).get? place = none := by
  have free := (fresh label known number early late).1
  by_cases same : place = scratchPlace vault start s!"{label}-{number}"
  · rw [same]
    exact free
  · refine (ground_isTree tree).nothing_below ?_ below same
    rw [free]
    simp

include shares

theorem ground_extends : Extends (ground vault start) workspace.disk := by
  have home := (createDirectories_extends start.disk vault.scratchRoot).home
  refine ⟨shares.home.trans home.symm, fun {place entry} stands => ?_⟩
  rw [shares.outside place, stands]
  rintro request name held below
  obtain ⟨label, number, files, holding, rfl⟩ := Holding.name?_eq_some_iff.mp held
  obtain ⟨_, _, known, early, late⟩ := shares.held request label number files holding
  have room := shares.room
  rw [ground_below tree fresh known early (by omega) below] at stands
  cases stands

/-- The scratch root is there, for whoever wants to make a directory in it. -/
theorem root_leads (usable : (start.disk.createDirectories vault.scratchRoot).1 = .ok ()) :
    Leads workspace.disk (workspace.disk.origin vault.scratchRoot) vault.scratchRoot.steps
      (vault.scratchRoot.place start.disk.home) .directory := by
  have grows := ground_extends tree fresh shares
  obtain ⟨place, leads⟩ := createDirectories_leads usable
  have there : place = vault.scratchRoot.place start.disk.home := by
    rw [leads.destination, origin_congr (createDirectories_extends _ _).home]
    rfl
  rw [origin_congr grows.home, ← there]
  exact leads.extend grows

/-- The path of a directory that is held leads to it. -/
theorem scratch_leads (usable : (start.disk.createDirectories vault.scratchRoot).1 = .ok ())
    (holding : holds request = .working label number files) :
    Leads workspace.disk (workspace.disk.origin (vault.scratchPath label number))
      (vault.scratchPath label number).steps (scratchPlace vault start s!"{label}-{number}")
      .directory := by
  obtain ⟨kept, _, known, early, late⟩ := shares.held request label number files holding
  have room := shares.room
  obtain ⟨_, descends, _⟩ := fresh label known number early (by omega)
  have walks := walk_last (steps_child vault.scratchRoot s!"{label}-{number}")
    (root_leads tree fresh shares usable) descends
  rw [show vault.scratchRoot.place start.disk.home ++ [s!"{label}-{number}"] =
    scratchPlace vault start s!"{label}-{number}" from rfl, kept.directory] at walks
  exact leads_of_walk walks

variable (usable : (start.disk.createDirectories vault.scratchRoot).1 = .ok ())

include usable

/-- A request reads its own files, whatever the others do. -/
theorem read_held (holding : holds request = .working label number files) (short : IsShort name)
    (stands : files name = some content) :
    workspace.disk.read ((vault.scratchPath label number).child name) = .ok content := by
  obtain ⟨kept, _⟩ := shares.held request label number files holding
  refine read_child (scratch_leads tree fresh shares usable holding) short.1
    (text_held fresh shares holding short) ?_
  rw [kept.files, stands]
  rfl

/-- A request writes its own files, and the others keep theirs. -/
theorem write_held (holding : holds request = .working label number files) (short : IsShort name)
    (content : List UInt8) :
    ∃ disk, workspace.disk.write ((vault.scratchPath label number).child name) content = .ok disk ∧
      ∀ issued, Shares vault start limit
        (Function.update holds request
          (.working label number (Function.update files name (some content))))
        ⟨disk, workspace.nextScratch, issued⟩ := by
  obtain ⟨kept, facts⟩ := shares.held request label number files holding
  have plain : workspace.disk.get? (scratchPlace vault start s!"{label}-{number}" ++ [name]) ≠
      some .directory := by
    rw [kept.files]
    cases files name <;> simp
  refine ⟨_, write_child_ok (scratch_leads tree fresh shares usable holding) short.1
    (text_held fresh shares holding short) plain, fun issued => ?_⟩
  refine shares.change (agreesOutside_put (List.prefix_append _ [name]))
    (.inr (by rw [holding]; rfl)) (held_beside shares holding) (.inl rfl) ?_ le_rfl ?_ issued
  · rintro _ _ _ ⟨⟩
    exact ⟨kept.put name content, facts⟩
  · exact shares.room_update fun waits => absurd waits Bool.false_ne_true

/-- Once its directory is removed, a request holds nothing. -/
theorem remove_held (holding : holds request = .working label number files) (issued : List Path) :
    Shares vault start limit (Function.update holds request .finished)
      ⟨workspace.disk.removeTree (vault.scratchPath label number), workspace.nextScratch,
        issued⟩ := by
  obtain ⟨known, early, late⟩ := held_range shares holding
  obtain ⟨free, _, text, _⟩ := fresh label known number early late
  have resolved := resolve_eq_entry_iff.mpr
    ⟨text, scratch_leads tree fresh shares usable holding⟩
  have outside : ¬ scratchPlace vault start s!"{label}-{number}" <+: workspace.disk.home := by
    rw [shares.home, ← (createDirectories_extends start.disk vault.scratchRoot).home]
    intro above
    rw [ground, get?_above_home above] at free
    cases free
  rw [Disk.removeTree, resolved]
  refine shares.change agreesOutside_removeAt (.inr (by rw [holding]; rfl))
    (held_beside shares holding) (.inr ⟨rfl, fun place below => ?_⟩)
    ?_ le_rfl ?_ issued
  · rw [get?_removeAt_below outside below, ground_below tree fresh known early late below]
  · rintro _ _ _ ⟨⟩
  · exact shares.room_update fun waits => absurd waits Bool.false_ne_true

omit tree fresh shares usable in
private theorem freshNumber_eq {start : Nat} {disk : Disk}
    (vacant : disk.exists? (vault.scratchPath label start) = false) :
    vault.freshNumber label start disk = start := by
  simp [Vault.freshNumber, List.range_succ_eq_map, vacant]

omit tree fresh usable in
/-- No request holds the directory that is handed out next. -/
theorem next_beside (labelled : label ∈ labels) (other : Nat) :
    (holds other).name? ≠ some s!"{label}-{workspace.nextScratch}" := by
  intro same
  obtain ⟨second, number, files, holding, names⟩ := Holding.name?_eq_some_iff.mp same
  obtain ⟨_, _, alsoLabelled, _, before⟩ := shares.held other second number files holding
  have equal := scratchName_number labelled alsoLabelled names
  omega

omit usable in
/-- Nothing is where the next directory will be. -/
theorem next_vacant (labelled : label ∈ labels)
    (late : workspace.nextScratch < start.nextScratch + limit) {place : Location}
    (below : scratchPlace vault start s!"{label}-{workspace.nextScratch}" <+: place) :
    workspace.disk.get? place = none := by
  rw [shares.outside place, ground_below tree fresh labelled shares.counts late below]
  intro other held holding above
  obtain ⟨rest, rfl⟩ := below
  obtain rfl := scratchPlace_prefix above
  exact shares.next_beside labelled other holding

/-- A request that has the root is given the next directory, and it is empty. -/
theorem create_held (rooted : holds request = .rooted) (known : request < limit)
    (labelled : label ∈ labels) :
    vault.freshNumber label workspace.nextScratch workspace.disk = workspace.nextScratch ∧
    ∃ disk, workspace.disk.createDirectory (vault.scratchPath label workspace.nextScratch) =
        .ok disk ∧
      ∀ issued, Shares vault start limit
        (Function.update holds request (.working label workspace.nextScratch fun _ => none))
        ⟨disk, workspace.nextScratch + 1, issued⟩ := by
  have fewer : pending limit
      (Function.update holds request (.working label workspace.nextScratch fun _ => none)) <
        pending limit holds := pending_update_lt known (by rw [rooted]; rfl) rfl
  have room := shares.room
  have late : workspace.nextScratch < start.nextScratch + limit := by omega
  obtain ⟨_, descends, text, _⟩ := fresh label labelled _ shares.counts late
  have vacant {place : Location}
      (below : scratchPlace vault start s!"{label}-{workspace.nextScratch}" <+: place) :
      workspace.disk.get? place = none :=
    next_vacant tree fresh shares labelled late below
  have leads := root_leads tree fresh shares usable
  have notThere :
      workspace.disk.exists? (vault.scratchPath label workspace.nextScratch) = false := by
    rw [Disk.exists?, find?, Vault.scratchPath, resolve_child leads descends text,
      show vault.scratchRoot.place start.disk.home ++ [s!"{label}-{workspace.nextScratch}"] =
        scratchPlace vault start s!"{label}-{workspace.nextScratch}" from rfl,
      vacant List.prefix_rfl]
    rfl
  refine ⟨freshNumber_eq notThere, _,
    createDirectory_child leads descends text (vacant List.prefix_rfl), fun issued => ?_⟩
  have stands : workspace.disk.get? (scratchPlace vault start
      s!"{label}-{workspace.nextScratch}") ≠ some .directory := by
    rw [vacant List.prefix_rfl]
    simp
  refine shares.change (agreesOutside_put List.prefix_rfl) (.inl (by rw [rooted]; rfl))
    (fun other _ => shares.next_beside labelled other) (.inl rfl) ?_ (Nat.le_succ _)
    (by omega) issued
  rintro _ _ _ ⟨⟩
  refine ⟨⟨get?_put_self stands, fun name => ?_⟩, known, labelled, shares.counts,
    Nat.lt_succ_self _⟩
  rw [scratchPlace, get?_put_of_ne (by simp)]
  exact vacant (List.prefix_append _ [name])

end Steps

end Shares

end Shared

end RoleVault.Vault
