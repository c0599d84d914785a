import RoleVault.Accounts.Sessions
import RoleVault.Proofs.Accounts.Login
import RoleVault.Proofs.Session.Token

/-!
Contract: how long a session lasts, to the second and in machine words.

Owns:
- the minutes that are granted, and their reckoning in words of sixty-four bits (`grantedWord?`);
- the end of a session in words (`endWord?`), with the limit that each step has, and the window in
  which claims count (`Session.Claims.countsInWords`);
- `Lasts`, what a session of so many minutes is, and `login_lasts_exactly`, which logins begin one.

Does not own: who is let in (`RoleVault.Proofs.Accounts.Login`), and which limits the settings keep
(`RoleVault.Proofs.Settings.Validity`).

The operations reckon with numbers that have no limit.  The words say that each of these numbers
fits the word that would hold it, or is refused.
-/

namespace RoleVault.Session

open RoleVault.Time

/-- Whether claims count at a second, with the window around it in unsigned words. -/
def Claims.countsInWords (claims : Claims) (now : UInt64) : Bool :=
  now - 5 ≤ claims.expires.toUInt64 && claims.notBefore.toUInt64 ≤ now + 5

end RoleVault.Session

namespace RoleVault.Accounts

open RoleVault.Session RoleVault.Time
open RoleVault.Vault (Ready)

/-! ## Minutes -/

section Minutes

variable {standard maximum : Nat} {requested : Option Nat}

theorem one_le_effectiveTtl : 1 ≤ effectiveTtl standard maximum requested := by
  unfold effectiveTtl
  omega

/-- No session is meant to last longer than the maximum, or than a minute if that is longer. -/
theorem effectiveTtl_le : effectiveTtl standard maximum requested ≤ max maximum 1 := by
  unfold effectiveTtl
  omega

/-- What is asked for is granted where it lies between one minute and the maximum. -/
theorem effectiveTtl_of_within (some_ : 1 ≤ requested.getD standard)
    (few : requested.getD standard ≤ maximum) :
    effectiveTtl standard maximum requested = requested.getD standard := by
  unfold effectiveTtl
  omega

/-- Who asks for more is not granted less. -/
theorem effectiveTtl_mono {other : Option Nat} (order : requested.getD standard ≤ other.getD standard) :
    effectiveTtl standard maximum requested ≤ effectiveTtl standard maximum other := by
  unfold effectiveTtl
  omega

end Minutes

/-- A word brought between two bounds, which have to be in order. -/
def clampWord? (low high value : UInt64) : Option UInt64 :=
  if low ≤ high then some (if value < low then low else if high < value then high else value)
  else none

/-- The minutes that a session lasts, in words. -/
def grantedWord? (standard maximum : UInt64) (requested : Option UInt64) : Option UInt64 :=
  clampWord? 1 (max maximum 1) (requested.getD standard)

private theorem clampWord?_eq {low high : UInt64} (value : UInt64) (ordered : low ≤ high) :
    ∃ word, clampWord? low high value = some word ∧
      word.toNat = min (max value.toNat low.toNat) high.toNat := by
  refine ⟨_, if_pos ordered, ?_⟩
  simp only [UInt64.le_iff_toNat_le, UInt64.lt_iff_toNat_lt] at ordered ⊢
  split
  · omega
  · split <;> omega

/-- The bounds are always in order, and the minutes in words are the minutes. -/
theorem grantedWord?_eq (standard maximum : UInt64) (requested : Option UInt64) :
    ∃ minutes, grantedWord? standard maximum requested = some minutes ∧
      minutes.toNat =
        effectiveTtl standard.toNat maximum.toNat (requested.map UInt64.toNat) := by
  have one : (1 : UInt64).toNat = 1 := rfl
  have asked : (requested.map UInt64.toNat).getD standard.toNat =
      (requested.getD standard).toNat := by
    cases requested <;> rfl
  have ordered : 1 ≤ max maximum 1 := by
    rw [UInt64.le_iff_toNat_le, UInt64.toNat_max]
    exact Nat.le_max_right _ _
  obtain ⟨minutes, granted, value⟩ := clampWord?_eq (requested.getD standard) ordered
  rw [UInt64.toNat_max, one] at value
  exact ⟨minutes, granted, by rw [value, effectiveTtl, asked]⟩

/-! ## The end -/

/-- The most milliseconds that a span of time has. -/
def longestSpan : Int := Int64.maxValue.toInt

/-- Minutes as a signed word, if they fit. -/
def signedWord? (minutes : UInt64) : Option Int64 :=
  if (minutes.toNat : Int) ≤ Int64.maxValue.toInt then some minutes.toInt64 else none

/-- The seconds of so many minutes, if the span is not longer than the longest one. -/
def spanWord? (minutes : Int64) : Option Int64 :=
  if 60000 * minutes.toInt ≤ longestSpan then some (minutes * 60) else none

/-- The end of a session that begins now, step by step in words. -/
def endWord? (now : Instant) (minutes : UInt64) : Option Instant := do
  let signed ← signedWord? minutes
  let span ← spanWord? signed
  Instant.ofUnix? (Int64.ofInt now.seconds + span).toInt (now.nanos % nanosPerSecond)

/-- Every step of the way to the end of a session of so many minutes stays within its limit. -/
structure Reckons (now : Instant) (minutes : Nat) : Prop where
  word : (minutes : Int) ≤ Int64.maxValue.toInt
  span : 60000 * (minutes : Int) ≤ longestSpan
  calendar : now.seconds + 60 * (minutes : Int) ≤ maxSeconds

/-- The last limit is the lowest. -/
theorem reckons_iff {now : Instant} {minutes : Nat} :
    Reckons now minutes ↔ now.seconds + 60 * (minutes : Int) ≤ maxSeconds := by
  refine ⟨Reckons.calendar, fun late => ⟨?_, ?_, late⟩⟩
  all_goals
    have early := now.seconds_mem.1
    have most : Int64.maxValue.toInt = 9223372036854775807 := by decide
    simp only [longestSpan, most]
    unfold minSeconds at early
    unfold maxSeconds at late
    omega

/-- There is an end where every step stays within its limit, and none elsewhere. -/
theorem addMinutes?_of_reckons {now : Instant} {minutes : Nat} (reckons : Reckons now minutes) :
    ∃ later, now.addMinutes? minutes = some later ∧
      later.seconds = now.seconds + 60 * (minutes : Int) ∧ later.nanos < nanosPerSecond := by
  have early := now.seconds_mem.1
  have fine : now.nanos % nanosPerSecond < nanosPerSecond := Nat.mod_lt _ (by decide)
  have bounded : minSeconds ≤ now.seconds + 60 * (minutes : Int) ∧
      now.seconds + 60 * (minutes : Int) ≤ maxSeconds := ⟨by omega, reckons.calendar⟩
  refine ⟨⟨_, _, bounded, .inl fine⟩, ?_, rfl, fine⟩
  exact Rfc3339.ofUnix?_eq_some_iff.mpr ⟨rfl, rfl⟩

private theorem addMinutes?_of_not_reckons {now : Instant} {minutes : Nat}
    (refused : ¬ Reckons now minutes) : now.addMinutes? minutes = none := by
  cases found : now.addMinutes? minutes with
  | none => rfl
  | some later =>
    have ends := (Rfc3339.ofUnix?_eq_some_iff.mp found).1
    have late := later.seconds_mem.2
    exact absurd (reckons_iff.mpr (ends ▸ late)) refused

private theorem toInt_toInt64 {minutes : UInt64}
    (fits : (minutes.toNat : Int) ≤ Int64.maxValue.toInt) :
    minutes.toInt64.toInt = minutes.toNat := by
  have most : Int64.maxValue.toInt = 9223372036854775807 := by decide
  have word : minutes.toInt64 = Int64.ofNat minutes.toNat := by
    rw [← UInt64.toInt64_ofNat', UInt64.ofNat_toNat]
  rw [word, Int64.toInt_ofNat_of_lt (by omega)]

/-- No word is left: neither by the seconds of a span nor by those of its end. -/
theorem toInt_end (now : Instant) {minutes : Int64} (forward : 0 ≤ minutes.toInt)
    (span : 60000 * minutes.toInt ≤ longestSpan) :
    (Int64.ofInt now.seconds + minutes * 60).toInt = now.seconds + 60 * minutes.toInt := by
  have most : longestSpan = 9223372036854775807 := by decide
  have sixty : (60 : Int64).toInt = 60 := by decide
  have early := now.seconds_mem.1
  have late := now.seconds_mem.2
  unfold minSeconds at early
  unfold maxSeconds at late
  have seconds : (minutes * 60).toInt = 60 * minutes.toInt := by
    rw [Int64.toInt_mul, sixty, Int.bmod_eq_of_le] <;> omega
  rw [Int64.toInt_add, toInt_ofInt_seconds, seconds, Int.bmod_eq_of_le] <;> omega

/-- The steps in words lead to the same end, or to none together. -/
theorem endWord?_eq (now : Instant) (minutes : UInt64) :
    endWord? now minutes = now.addMinutes? minutes.toNat := by
  by_cases fits : (minutes.toNat : Int) ≤ Int64.maxValue.toInt
  · have value := toInt_toInt64 fits
    have signed : signedWord? minutes = some minutes.toInt64 := if_pos fits
    by_cases short : 60000 * minutes.toInt64.toInt ≤ longestSpan
    · have span : spanWord? minutes.toInt64 = some (minutes.toInt64 * 60) := if_pos short
      have reached := toInt_end now (by omega) short
      simp only [endWord?, signed, span, reached, value, Option.bind_eq_bind, Option.bind_some,
        Instant.addMinutes?]
    · have span : spanWord? minutes.toInt64 = none := if_neg short
      have refused : ¬ Reckons now minutes.toNat := fun reckons => short (value ▸ reckons.span)
      simp only [endWord?, signed, span, addMinutes?_of_not_reckons refused, Option.bind_eq_bind,
        Option.bind_some, Option.bind_none]
  · have signed : signedWord? minutes = none := if_neg fits
    have refused : ¬ Reckons now minutes.toNat := fun reckons => fits reckons.word
    simp only [endWord?, signed, addMinutes?_of_not_reckons refused, Option.bind_eq_bind,
      Option.bind_none]

private theorem toNat_toUInt64 {word : Int64} (forward : 0 ≤ word.toInt) :
    (word.toUInt64.toNat : Int) = word.toInt := by
  have zero : (0 : Int64) ≤ word := Int64.le_iff_toInt_le.mpr forward
  rw [Int64.toNat_toUInt64_of_le zero]
  exact Int.toNat_of_nonneg forward

/-- From five seconds after 1970 on, the window in words is the window. -/
theorem countsInWords_iff {claims : Session.Claims} {now : Instant} (late : 5 ≤ now.seconds)
    (expiry : 0 ≤ claims.expires.toInt) (start : 0 ≤ claims.notBefore.toInt) :
    claims.countsInWords (UInt64.ofNat now.seconds.toNat) = true ↔ claims.Counts now.seconds := by
  have bound := now.seconds_mem.2
  unfold maxSeconds at bound
  have five : (5 : UInt64).toNat = 5 := rfl
  have present : (UInt64.ofNat now.seconds.toNat).toNat = now.seconds.toNat := by
    apply UInt64.toNat_ofNat_of_lt'
    have size : UInt64.size = 18446744073709551616 := rfl
    omega
  generalize UInt64.ofNat now.seconds.toNat = word at present
  have first : (word - 5).toNat = now.seconds.toNat - 5 := by
    rw [UInt64.toNat_sub_of_le _ _ (UInt64.le_iff_toNat_le.mpr (by omega)), present, five]
  have last : (word + 5).toNat = now.seconds.toNat + 5 := by
    rw [UInt64.toNat_add, present, five]
    omega
  have ends := toNat_toUInt64 expiry
  have starts := toNat_toUInt64 start
  simp only [Session.Claims.countsInWords, Bool.and_eq_true, decide_eq_true_iff,
    UInt64.le_iff_toNat_le, first, last]
  have leeway_eq : leeway = 5 := rfl
  constructor
  · intro ⟨lasting, started⟩
    exact ⟨expiry, by omega, by omega⟩
  · intro ⟨_, started, lasting⟩
    omega

/-! ## Sessions -/

/-- A session for a caller that begins now and lasts so many minutes, and a token that resolves to it
at once. -/
structure Lasts (policy : SessionPolicy) (now : Instant) (caller : Identity) (minutes : Nat)
    (issued : IssuedToken) : Prop where
  identity : issued.session.identity = caller
  issuedAt : issued.session.issuedAt = now.truncate
  expiresAt : issued.session.expiresAt.seconds = issued.session.issuedAt.seconds + 60 * (minutes : Int)
  whole : issued.session.expiresAt.nanos = 0
  resolvesSession : policy.resolveSession now issued.token = .ok issued.session
  resolves : policy.resolve now issued.token = .ok caller

section Sessions

variable {policy : SessionPolicy} {now : Instant} {identity : Identity} {requested : Option Nat}

/-- Where the end can be reckoned, a token is issued, and it lasts exactly so long. -/
theorem issueFor_of_reckons (late : 0 ≤ now.seconds)
    (reckons : Reckons now (effectiveTtl policy.standardTtl policy.maximumTtl requested)) :
    ∃ issued, policy.issueFor now identity requested = .ok issued ∧
      Lasts policy now identity (effectiveTtl policy.standardTtl policy.maximumTtl requested)
        issued := by
  have least : 1 ≤ effectiveTtl policy.standardTtl policy.maximumTtl requested := one_le_effectiveTtl
  obtain ⟨later, found, seconds, -⟩ := addMinutes?_of_reckons reckons
  have ends : SessionPolicy.expiry now
      (effectiveTtl policy.standardTtl policy.maximumTtl requested) = .ok later := by
    rw [SessionPolicy.expiry, found]
  have order : now.isBefore later = true := by
    simp only [Instant.isBefore, Bool.or_eq_true, decide_eq_true_iff]
    exact .inl (by omega)
  have leeway_eq : leeway = 5 := rfl
  have counts : (claimsFor identity now later).Counts now.seconds :=
    counts_claimsFor (by omega) (by omega) (by omega)
  have reads : verify policy.key now.seconds ((claimsFor identity now later).sign policy.key) =
      .ok ⟨identity, now.truncate, later.truncate⟩ :=
    verify_sign counts (session_claimsFor identity now later)
  refine ⟨⟨(claimsFor identity now later).sign policy.key,
    ⟨identity, now.truncate, later.truncate⟩⟩, ?_, ?_⟩
  · simp only [SessionPolicy.issueFor, ends, issue_eq order, reads, bind, Except.bind, pure,
      Except.pure]
  · exact {
      identity := rfl
      issuedAt := rfl
      expiresAt := seconds
      whole := rfl
      resolvesSession := by rw [SessionPolicy.resolveSession, reads]; rfl
      resolves := by rw [SessionPolicy.resolve, SessionPolicy.resolveSession, reads]; rfl }

private theorem issueFor_of_not_reckons
    (refused : ¬ Reckons now (effectiveTtl policy.standardTtl policy.maximumTtl requested)) :
    ∃ reason, policy.issueFor now identity requested = .error (.invalidInput reason) := by
  have ends := addMinutes?_of_not_reckons refused
  simp only [SessionPolicy.issueFor, SessionPolicy.expiry, ends]
  exact ⟨_, rfl⟩

/-- A login whose password is accepted comes down to issuing a token. -/
theorem exec_login {context : Context} {name : String} {password : Secret} {state after : State}
    (enters : Action.exec (Users.authenticate context name password) state = (.ok identity, after)) :
    Action.exec (policy.login context name password requested) state =
      ((policy.issueFor context.now identity requested).mapError AccountsError.ofAccess, after) := by
  rw [SessionPolicy.login, Action.exec_bind_ok enters, Action.exec_check]

end Sessions

/-- In words, a lifetime is reckoned without a panic and as it is with numbers that have no limit. -/
structure ExactInWords (standard maximum : UInt64) : Prop where
  granted : ∀ requested : Option UInt64, ∃ minutes,
    grantedWord? standard maximum requested = some minutes ∧
      minutes.toNat = effectiveTtl standard.toNat maximum.toNat (requested.map UInt64.toNat)
  ends : ∀ (now : Instant) (minutes : UInt64),
    endWord? now minutes = now.addMinutes? minutes.toNat
  counts : ∀ (now : Instant) (claims : Session.Claims), 5 ≤ now.seconds →
    0 ≤ claims.expires.toInt → 0 ≤ claims.notBefore.toInt →
      (claims.countsInWords (UInt64.ofNat now.seconds.toNat) = true ↔ claims.Counts now.seconds)

/-- The lifetime of a login for every setting in words: it is reckoned without a panic or a wrap, who
asks for more is not granted less, and after an accepted password, from five seconds after 1970 on, a
login is refused for its lifetime exactly where the end cannot be reckoned.  Everywhere else it begins
a session that lasts as many minutes as were granted. -/
theorem login_lasts_exactly (key : SigningKey) (standard maximum : UInt64) :
    ExactInWords standard maximum ∧
      (∀ fewer more : Option UInt64, fewer.getD standard ≤ more.getD standard →
        effectiveTtl standard.toNat maximum.toNat (fewer.map UInt64.toNat) ≤
          effectiveTtl standard.toNat maximum.toNat (more.map UInt64.toNat)) ∧
      ∀ (requested : Option UInt64) (context : Context) (name : String) (password : Secret)
        (state after : State) (identity : Identity), 5 ≤ context.now.seconds →
        Action.exec (Users.authenticate context name password) state = (.ok identity, after) →
          let policy : SessionPolicy := ⟨key, standard.toNat, maximum.toNat⟩
          let minutes := effectiveTtl standard.toNat maximum.toNat (requested.map UInt64.toNat)
          let outcome := Action.exec
            (policy.login context name password (requested.map UInt64.toNat)) state
          ((∃ reason, outcome = (.error (.invalidInput reason), after)) ↔
              ¬ Reckons context.now minutes) ∧
            (Reckons context.now minutes → ∃ issued, outcome = (.ok issued, after) ∧
              Lasts policy context.now identity minutes issued) := by
  refine ⟨⟨grantedWord?_eq standard maximum, endWord?_eq, ?_⟩, ?_, ?_⟩
  · intro now claims late expiry start
    exact countsInWords_iff late expiry start
  · intro fewer more order
    rw [UInt64.le_iff_toNat_le] at order
    apply effectiveTtl_mono
    cases fewer <;> cases more <;> exact order
  · intro requested context name password state after identity late enters policy minutes outcome
    have ended : outcome = ((policy.issueFor context.now identity
        (requested.map UInt64.toNat)).mapError AccountsError.ofAccess, after) := exec_login enters
    by_cases reckons : Reckons context.now minutes
    · obtain ⟨issued, issues, lasts⟩ : ∃ issued,
          policy.issueFor context.now identity (requested.map UInt64.toNat) = .ok issued ∧
            Lasts policy context.now identity minutes issued :=
        issueFor_of_reckons (by omega) reckons
      have begun : outcome = (.ok issued, after) := by rw [ended, issues]; rfl
      refine ⟨?_, fun _ => ⟨issued, begun, lasts⟩⟩
      rw [begun]
      simp [reckons]
    · obtain ⟨reason, refuses⟩ : ∃ reason, policy.issueFor context.now identity
          (requested.map UInt64.toNat) = .error (.invalidInput reason) :=
        issueFor_of_not_reckons reckons
      have refused : outcome = (.error (.invalidInput reason), after) := by rw [ended, refuses]; rfl
      exact ⟨iff_of_true ⟨reason, refused⟩ reckons, fun reckoned => absurd reckoned reckons⟩

namespace Sample

/-- The vault of the small installation, five seconds after 1970 began. -/
def fiveSecondsOn : Context :=
  ⟨vault, ⟨5, 0, by decide, by decide⟩, id⟩

/-- The first operator as a caller, as the tables tell of it. -/
def loggedIn : Identity :=
  ⟨id, "root", "root", operatorGroup, tables.levelsHeld id.text⟩

theorem enters : ∃ after,
    Action.exec (Users.authenticate fiveSecondsOn "root" ⟨"password1"⟩) ⟨.opened tables, files⟩ =
      (.ok loggedIn, after) := by
  obtain ⟨store, later, leads, faithful⟩ := run_faithful now files regular_events
  obtain ⟨rfl, rfl⟩ : store = tables ∧ later = files := by
    rw [run_events] at leads
    cases leads
    exact ⟨rfl, rfl⟩
  have able : Ready fiveSecondsOn.vault files := ready
  have accepted := ((authenticate_faithful faithful able "root" "password1").1 loggedIn).mpr
    ⟨remembered_events, row, List.mem_cons_self, rfl, rfl, rfl, rfl, rfl, rfl⟩
  exact ⟨_, Prod.ext accepted rfl⟩

end Sample

/-- With no standard and no limit to speak of, the first operator gets one minute where nothing is asked
for, and is refused a lifetime of all minutes that a word can hold. -/
theorem first_operator_lasts_exactly :
    5 ≤ Sample.fiveSecondsOn.now.seconds ∧
      ∃ after, Action.exec (Users.authenticate Sample.fiveSecondsOn "root" ⟨"password1"⟩)
          ⟨.opened Sample.tables, Sample.files⟩ = (.ok Sample.loggedIn, after) ∧
        ∀ key : SigningKey,
          let policy : SessionPolicy := ⟨key, 0, 18446744073709551615⟩
          (∃ issued, Action.exec (policy.login Sample.fiveSecondsOn "root" ⟨"password1"⟩ none)
              ⟨.opened Sample.tables, Sample.files⟩ = (.ok issued, after) ∧
            issued.session.expiresAt.seconds = 65 ∧
            policy.resolve Sample.fiveSecondsOn.now issued.token = .ok Sample.loggedIn) ∧
          ∃ reason, Action.exec (policy.login Sample.fiveSecondsOn "root" ⟨"password1"⟩
              (some 18446744073709551615)) ⟨.opened Sample.tables, Sample.files⟩ =
            (.error (.invalidInput reason), after) := by
  have late : 5 ≤ Sample.fiveSecondsOn.now.seconds := by decide
  obtain ⟨after, enters⟩ := Sample.enters
  refine ⟨late, after, enters, fun key => ?_⟩
  obtain ⟨-, -, logins⟩ := login_lasts_exactly key 0 18446744073709551615
  have minute : Reckons Sample.fiveSecondsOn.now (effectiveTtl 0 18446744073709551615 none) :=
    reckons_iff.mpr (by decide)
  have all : ¬ Reckons Sample.fiveSecondsOn.now
      (effectiveTtl 0 18446744073709551615 (some 18446744073709551615)) := by
    rw [reckons_iff]
    decide
  constructor
  · obtain ⟨issued, begun, lasts⟩ :=
      (logins none Sample.fiveSecondsOn "root" ⟨"password1"⟩ _ after _ late enters).2 minute
    refine ⟨issued, begun, ?_, lasts.resolves⟩
    rw [lasts.expiresAt, lasts.issuedAt]
    decide
  · exact (logins (some 18446744073709551615) Sample.fiveSecondsOn "root" ⟨"password1"⟩ _ after _
      late enters).1.mpr all

end RoleVault.Accounts
