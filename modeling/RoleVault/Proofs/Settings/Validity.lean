import RoleVault.CommandLine.Program
import RoleVault.Proofs.Accounts.Lifetime
import RoleVault.Proofs.Settings.Layer

/-!
Contract: settings that are accepted are safe to run with.

Owns:
- `Acceptable`, the rules for a layer, each about what the layer says or else the built-in value;
- `settle_ok_iff`: finished settings come out of exactly the layers that meet them;
- `accepted_settings_are_safe`: with a secret among them, such settings give a policy under which no
  login that is let in fails for its lifetime.

Does not own: lifetimes under other policies (`RoleVault.Proofs.Accounts.Lifetime`), and where a layer
comes from (`RoleVault.Proofs.Settings.Precedence`).
-/

namespace RoleVault.Settings

open RoleVault.Accounts RoleVault.CommandLine RoleVault.Session RoleVault.Text RoleVault.Time

variable {layer : Layer} {settings : Settings}

/-! ## Rules -/

/-- What a layer may say.  Where it says only one of the two lifetimes, the other one is the built-in
one. -/
structure Acceptable (layer : Layer) : Prop where
  timeout : 0 < (Setting.timeoutSeconds.inLayer layer).getD 30
  least : 1 ≤ (Setting.standardTtl.inLayer layer).getD 30
  order : (Setting.standardTtl.inLayer layer).getD 30 ≤ (Setting.maximumTtl.inLayer layer).getD 1440
  ceiling : (Setting.maximumTtl.inLayer layer).getD 1440 ≤ 527040
  secret : ∀ secret, layer.secret? = some secret → 32 ≤ (Utf8.encode secret.expose).length

private theorem timeoutSeconds_fill (layer : Layer) :
    layer.fill.vault.timeoutSeconds = (Setting.timeoutSeconds.inLayer layer).getD 30 :=
  Setting.timeoutSeconds.inSettings_fill layer

private theorem standardTtl_fill (layer : Layer) :
    layer.fill.token.standardTtl = (Setting.standardTtl.inLayer layer).getD 30 :=
  Setting.standardTtl.inSettings_fill layer

private theorem maximumTtl_fill (layer : Layer) :
    layer.fill.token.maximumTtl = (Setting.maximumTtl.inLayer layer).getD 1440 :=
  Setting.maximumTtl.inSettings_fill layer

/-- The settings of a layer break no rule exactly where the layer is acceptable. -/
theorem inconsistency?_fill_eq_none_iff : layer.fill.inconsistency? = none ↔ Acceptable layer := by
  have limits : ttlCeiling = 527040 ∧ minSecretBytes = 32 := ⟨rfl, rfl⟩
  simp only [inconsistency?, timeoutSeconds_fill, standardTtl_fill, maximumTtl_fill, secret_fill,
    limits.1, limits.2, ite_eq_iff, reduceCtorEq, and_false, false_or]
  constructor
  · rintro ⟨timeout, least, order, ceiling, long⟩
    refine ⟨by omega, by omega, by omega, by omega, fun secret said => ?_⟩
    rw [said] at long
    simpa using long
  · rintro ⟨timeout, least, order, ceiling, long⟩
    refine ⟨by omega, by omega, by omega, by omega, ?_⟩
    cases said : layer.secret? with
    | none => rfl
    | some secret => exact if_neg (Nat.not_lt.mpr (long secret said))

/-- Settings are accepted exactly where they are filled in from an acceptable layer. -/
theorem settle_ok_iff : layer.settle = .ok settings ↔ settings = layer.fill ∧ Acceptable layer := by
  rw [← inconsistency?_fill_eq_none_iff, Layer.settle]
  cases broken : layer.fill.inconsistency? with
  | none => simp [eq_comm]
  | some inconsistency => simp

/-! ## Running -/

/-- A secret that is long enough gives a key. -/
theorem exists_key {secret : Secret} (long : 32 ≤ (Utf8.encode secret.expose).length) :
    ∃ key, SigningKey.ofSecret secret = .ok key := by
  have filled : secret.expose ≠ "" := by
    intro empty
    rw [empty] at long
    exact absurd long (by decide)
  obtain ⟨key, made, -⟩ := ofSecret_ok filled
  exact ⟨key, made⟩

/-- A login for so many minutes fails only as the check of its password does, and begins a session of
the granted length where that succeeds. -/
structure Lets (policy : SessionPolicy) (context : Context) (requested : Option Nat) : Prop where
  refuses : ∀ (name : String) (password : Secret) (state after : State) (failure : AccountsError),
    Action.exec (Users.authenticate context name password) state = (.error failure, after) →
      Action.exec (policy.login context name password requested) state = (.error failure, after)
  begins : ∀ (name : String) (password : Secret) (state after : State) (identity : Identity),
    Action.exec (Users.authenticate context name password) state = (.ok identity, after) →
      ∃ issued, Action.exec (policy.login context name password requested) state =
          (.ok issued, after) ∧
        Lasts policy context.now identity
          (effectiveTtl policy.standardTtl policy.maximumTtl requested) issued

/-- Where every step of the way stays within its limit, the login succeeds. -/
theorem lets {policy : SessionPolicy} {context : Context} {requested : Option Nat}
    (late : 5 ≤ context.now.seconds)
    (reckons : Reckons context.now (effectiveTtl policy.standardTtl policy.maximumTtl requested)) :
    Lets policy context requested where
  refuses name password state after failure refused := by
    rw [SessionPolicy.login, Action.exec_bind, refused]
  begins name password state after identity enters := by
    obtain ⟨issued, issues, lasts⟩ : ∃ issued,
        policy.issueFor context.now identity requested = .ok issued ∧
          Lasts policy context.now identity
            (effectiveTtl policy.standardTtl policy.maximumTtl requested) issued :=
      issueFor_of_reckons (by omega) reckons
    refine ⟨issued, ?_, lasts⟩
    rw [exec_login enters, issues]
    rfl

/-- The finished settings of a layer are there exactly where it keeps the rules.  With a secret among
them there is a key to sign with, and from five seconds after 1970 to a leap year before the end of all
dates, every lifetime that is asked for is brought between one minute and the maximum, the standard is
kept where none is asked for, and no login fails for its lifetime. -/
theorem accepted_settings_are_safe (layer : Layer) :
    ((∃ settings, layer.settle = .ok settings) ↔ Acceptable layer) ∧
      ∀ (settings : Settings) (secret : Secret), layer.settle = .ok settings →
        settings.token.secret = some secret →
        ∃ key, SigningKey.ofSecret secret = .ok key ∧
          let policy : SessionPolicy := ⟨key, settings.token.standardTtl, settings.token.maximumTtl⟩
          sessionPolicy settings = .ok policy ∧
          ∀ (requested : Option Nat) (context : Context), 5 ≤ context.now.seconds →
            context.now.seconds + 366 * 86400 ≤ maxSeconds →
            let minutes := effectiveTtl policy.standardTtl policy.maximumTtl requested
            1 ≤ minutes ∧ minutes ≤ settings.token.maximumTtl ∧
              (requested = none → minutes = settings.token.standardTtl) ∧
              Lets policy context requested := by
  refine ⟨by simp [settle_ok_iff], fun settings secret settled said => ?_⟩
  obtain ⟨rfl, acceptable⟩ := settle_ok_iff.mp settled
  have long := acceptable.secret secret ((secret_fill layer).symm.trans said)
  obtain ⟨key, made⟩ := exists_key long
  have least : 1 ≤ layer.fill.token.standardTtl := standardTtl_fill layer ▸ acceptable.least
  have order : layer.fill.token.standardTtl ≤ layer.fill.token.maximumTtl :=
    standardTtl_fill layer ▸ maximumTtl_fill layer ▸ acceptable.order
  have ceiling : layer.fill.token.maximumTtl ≤ 527040 := maximumTtl_fill layer ▸ acceptable.ceiling
  refine ⟨key, made, ?_, fun requested context late early => ?_⟩
  · rw [sessionPolicy, said]
    simp only [made]
  · have most : effectiveTtl layer.fill.token.standardTtl layer.fill.token.maximumTtl requested ≤
        max layer.fill.token.maximumTtl 1 := effectiveTtl_le
    refine ⟨one_le_effectiveTtl, by simp only; omega, ?_, lets late (reckons_iff.mpr ?_)⟩
    · rintro rfl
      exact effectiveTtl_of_within least order
    · simp only
      omega

/-! ## The longest lifetime at the last moment -/

namespace Sample

def longSecret : Secret := ⟨"0123456789abcdef0123456789abcdef"⟩

/-- A layer that says only the maximum, the highest one, and a secret of the fewest bytes. -/
def yearly : Layer where
  token := some { secret := some longSecret, maximumTtl := some 527040 }

/-- A leap year before the end of all dates. -/
def lastYear : Context :=
  ⟨Accounts.Sample.vault, ⟨maxSeconds - 366 * 86400, 0, by decide, by decide⟩, Accounts.Sample.id⟩

end Sample

/-- A year before the calendar ends, users can still log in for a whole year. -/
theorem yearly_settings_are_safe :
    Sample.yearly.settle = .ok Sample.yearly.fill ∧
      5 ≤ Sample.lastYear.now.seconds ∧ Sample.lastYear.now.seconds + 366 * 86400 ≤ maxSeconds ∧
      ∃ key, SigningKey.ofSecret Sample.longSecret = .ok key ∧
        effectiveTtl 30 527040 none = 30 ∧ effectiveTtl 30 527040 (some 1000000) ≤ 527040 ∧
        Lets ⟨key, 30, 527040⟩ Sample.lastYear (some 1000000) := by
  have settled : Sample.yearly.settle = .ok Sample.yearly.fill := by decide
  have late : 5 ≤ Sample.lastYear.now.seconds := by decide
  have early : Sample.lastYear.now.seconds + 366 * 86400 ≤ maxSeconds := by decide
  obtain ⟨key, made, -, safe⟩ :=
    (accepted_settings_are_safe Sample.yearly).2 _ Sample.longSecret settled rfl
  obtain ⟨-, -, standard, -⟩ := safe none Sample.lastYear late early
  obtain ⟨-, most, -, lets⟩ := safe (some 1000000) Sample.lastYear late early
  exact ⟨settled, late, early, key, made, standard rfl, most, lets⟩

end RoleVault.Settings
