import RoleVault.Proofs.Session.Token
import RoleVault.Proofs.Text.Scan

/-!
Contract: which texts verify, and why the others do not.

Owns:
- `IsSigned` and `Carries`, what a text has to be before its times count, without the verifier;
- `Claims.Describes`, the session that claims stand for;
- `accepts_exactly_signed`: a text verifies exactly where it is signed, counts and describes the
  session, and a refusal as expired is kept for signed texts that were once good.

Does not own: that what is issued is signed in this sense (`RoleVault.Proofs.Session.Token`).
-/

namespace RoleVault.Session

open RoleVault.Json RoleVault.Text RoleVault.Time

/-! ## Guarded steps -/

section Steps

variable {ε β : Type} {value : β} {failure : ε}
variable {bad : Prop} [Decidable bad] {reason : ε} {rest : Except ε β}

/-- The rest counts only behind a check that passes. -/
theorem guarded_eq_ok_iff :
    (if bad then (throw reason : Except ε Unit) >>= fun _ => rest else rest) = .ok value ↔
      ¬ bad ∧ rest = .ok value := by
  by_cases holds : bad
  · simp [holds, bind, Except.bind, throw, throwThe, MonadExceptOf.throw]
  · simp [holds]

private theorem guarded_eq_error_iff :
    (if bad then (throw reason : Except ε Unit) >>= fun _ => rest else rest) = .error failure ↔
      (bad ∧ reason = failure) ∨ (¬ bad ∧ rest = .error failure) := by
  by_cases holds : bad
  · simp [holds, bind, Except.bind, throw, throwThe, MonadExceptOf.throw]
  · simp [holds]

end Steps

/-! ## Parts -/

/-- A text is made of these parts. -/
structure Parts.Splits (parts : Parts) (text : String) : Prop where
  text_eq : text = parts.header ++ "." ++ parts.claims ++ "." ++ parts.signature
  claimsUndotted : '.' ∉ parts.claims.toList
  signatureUndotted : '.' ∉ parts.signature.toList

private theorem splitLast?_some {chars before after : List Char}
    (splits : splitLast? chars = some (before, after)) :
    chars = before ++ '.' :: after ∧ '.' ∉ after := by
  rw [splitLast?] at splits
  have whole : chars.reverse.takeWhile (· != '.') ++ chars.reverse.dropWhile (· != '.') =
      chars.reverse := List.takeWhile_append_dropWhile
  have plain : '.' ∉ chars.reverse.takeWhile (· != '.') := by
    intro member
    have passed := List.all_eq_true.mp List.all_takeWhile '.' member
    exact absurd passed (by decide)
  cases found : chars.reverse.dropWhile (· != '.') with
  | nil => simp [found] at splits
  | cons dot rest =>
    have isDot : dot = '.' := by
      have stops := List.head?_dropWhile_not (· != '.') chars.reverse
      simpa [found] using stops
    simp only [found, Option.some.injEq, Prod.mk.injEq] at splits
    obtain ⟨rfl, rfl⟩ := splits
    rw [found, isDot] at whole
    refine ⟨?_, fun member => plain (List.mem_reverse.mp member)⟩
    apply List.reverse_inj.mp
    simpa using whole.symm

private theorem ofText?_eq_some_iff {text : String} {parts : Parts} :
    Parts.ofText? text = some parts ↔ parts.Splits text := by
  constructor
  · intro splits
    simp only [Parts.ofText?, Option.bind_eq_bind, Option.bind_eq_some_iff, pure,
      Option.some.injEq] at splits
    obtain ⟨⟨body, signature⟩, outer, ⟨header, claims⟩, inner, rfl⟩ := splits
    obtain ⟨textIs, signatureUndotted⟩ := splitLast?_some outer
    obtain ⟨bodyIs, claimsUndotted⟩ := splitLast?_some inner
    refine ⟨?_, by simpa using claimsUndotted, by simpa using signatureUndotted⟩
    have bodyEq : body = header ++ '.' :: claims := bodyIs
    apply String.toList_injective
    simp [textIs, bodyEq]
  · rintro ⟨rfl, claimsUndotted, signatureUndotted⟩
    exact ofText?_join claimsUndotted signatureUndotted

/-- A text has one way to fall into parts. -/
theorem Parts.Splits.unique {parts other : Parts} {text : String} (splits : parts.Splits text)
    (otherSplits : other.Splits text) : other = parts := by
  have found := ofText?_eq_some_iff.mpr splits
  rw [ofText?_eq_some_iff.mpr otherSplits] at found
  exact Option.some.inj found

/-! ## Signed texts -/

/-- A text in three parts whose header names the one algorithm and whose last part is the keyed digest
of what stands before it. -/
structure IsSigned (key : SigningKey) (parts : Parts) (text : String) : Prop where
  splits : parts.Splits text
  algorithm : ∃ bytes, Base64.decode Base64.urlSafe parts.header = .ok bytes ∧
    decodeBytes headerDecoder bytes = .ok .hs256
  signature : parts.signature = Base64.encode Base64.urlSafe
    (Digest.Hmac.digest (Utf8.encode key.secret.expose)
      (Utf8.encode (parts.header ++ "." ++ parts.claims)))

/-- The second part holds these claims, with or without an audience. -/
def Carries (parts : Parts) (claims : Claims) (named : Bool) : Prop :=
  ∃ bytes, Base64.decode Base64.urlSafe parts.claims = .ok bytes ∧
    decodeBytes Claims.decoder bytes = .ok claims ∧ Registered.namesAudience bytes = .ok named

variable {key : SigningKey} {text : String} {parts : Parts} {claims : Claims} {named : Bool}
variable {now : Int}

/-- The header of a signed text is one whole JSON value, whose algorithm is HS256. -/
theorem IsSigned.names_hs256 (signed : IsSigned key parts text) :
    ∃ bytes, Base64.decode Base64.urlSafe parts.header = .ok bytes ∧
      (Document.read bytes).ended = true ∧ NamesHs256 (Document.read bytes).root := by
  obtain ⟨bytes, header, reads⟩ := signed.algorithm
  obtain ⟨algorithm, read, returns⟩ := bind_eq_ok_iff.mp reads
  split at returns
  · rename_i ended
    cases returns
    exact ⟨bytes, header, ended, headerDecoder_hs256 read⟩
  · cases returns

private theorem partBytes_eq_ok_iff {part : String} {bytes : List UInt8} :
    partBytes part = .ok bytes ↔ Base64.decode Base64.urlSafe part = .ok bytes := by
  rw [partBytes]
  cases Base64.decode Base64.urlSafe part <;> simp [Except.mapError]

private theorem readAs_eq_ok_iff {α : Type} {result : Except DecodeError α} {value : α} :
    readAs result = .ok value ↔ result = .ok value := by
  cases result <;> simp [readAs, Except.mapError]

private theorem signedClaims_eq_ok_iff :
    signedClaims key text = .ok (claims, named) ↔
      ∃ parts, IsSigned key parts text ∧ Carries parts claims named := by
  rw [signedClaims]
  cases found : Parts.ofText? text with
  | none =>
    have apart (parts : Parts) : ¬ parts.Splits text := by
      rw [← ofText?_eq_some_iff, found]
      rintro ⟨⟩
    constructor
    · intro ends
      cases ends
    · rintro ⟨parts, signed, -⟩
      exact absurd signed.splits (apart parts)
  | some parts =>
    have splits : parts.Splits text := ofText?_eq_some_iff.mp found
    simp only [pure_bind, bind_eq_ok_iff, guarded_eq_ok_iff, partBytes_eq_ok_iff, readAs_eq_ok_iff,
      ne_eq, Decidable.not_not]
    constructor
    · rintro ⟨headerBytes, header, _, names, rfl, signature, bytes, body, _, reads, _, audience,
        returns⟩
      cases returns
      exact ⟨parts, ⟨splits, ⟨headerBytes, header, names⟩, signature⟩, bytes, body, reads, audience⟩
    · rintro ⟨other, ⟨otherSplits, ⟨headerBytes, header, names⟩, signature⟩, bytes, body, reads, audience⟩
      obtain rfl : other = parts := splits.unique otherSplits
      exact ⟨headerBytes, header, _, names, rfl, signature, bytes, body, claims, reads, named, audience,
        rfl⟩

/-- No text is refused as expired before its times are looked at. -/
theorem signedClaims_ne_expired : signedClaims key text ≠ .error .expired := by
  have bytesAlive (part : String) : partBytes part ≠ .error .expired := by
    rw [partBytes]
    cases Base64.decode Base64.urlSafe part <;> simp [Except.mapError]
  have readAlive {α : Type} (result : Except DecodeError α) : readAs result ≠ .error .expired := by
    cases result <;> simp [readAs, Except.mapError]
  intro ends
  rw [signedClaims] at ends
  cases found : Parts.ofText? text with
  | none => simp [found, bind, Except.bind, throw, throwThe, MonadExceptOf.throw] at ends
  | some parts =>
    simp only [found, pure_bind, bind_eq_error_iff, guarded_eq_error_iff] at ends
    simp [bytesAlive, readAlive, pure, Except.pure] at ends

/-! ## Times and names -/

private theorem checkTimes_eq_ok_iff {done : Unit} :
    checkTimes claims named now = .ok done ↔ claims.Counts now ∧ named = false := by
  simp only [checkTimes, guarded_eq_ok_iff]
  cases named with
  | true => simp [throw, throwThe, MonadExceptOf.throw]
  | false =>
    simp only [Bool.false_eq_true, ↓reduceIte, pure, Except.pure, and_true]
    constructor
    · rintro ⟨expiry, lasting, started⟩
      exact ⟨by omega, by omega, by omega⟩
    · rintro ⟨expiry, started, lasting⟩
      exact ⟨by omega, by omega, by omega⟩

private theorem checkTimes_eq_expired_iff :
    checkTimes claims named now = .error .expired ↔
      0 ≤ claims.expires.toInt ∧ claims.expires.toInt < now - leeway := by
  simp only [checkTimes, guarded_eq_error_iff]
  cases named <;> simp [pure, Except.pure, throw, throwThe, MonadExceptOf.throw]

/-- The session that claims stand for: their subject, with a level for each of its role names and the
two claimed times in whole seconds. -/
structure Claims.Describes (claims : Claims) (session : Verified) : Prop where
  id : session.identity.id = claims.subject.id
  name : session.identity.name = claims.subject.name
  displayName : session.identity.displayName = claims.subject.displayName
  group : session.identity.group = claims.subject.group
  roles : claims.subject.roleNames = session.identity.roles.map Role.name
  issued : session.issuedAt.seconds = claims.issued.toInt ∧ session.issuedAt.nanos = 0
  expires : session.expiresAt.seconds = claims.expires.toInt ∧ session.expiresAt.nanos = 0

private theorem rolesOf_eq_ok_iff {names : List String} {roles : List Role} :
    rolesOf names = .ok roles ↔ names = roles.map Role.name := by
  constructor
  · intro reads
    rw [rolesOf] at reads
    induction names generalizing roles with
    | nil =>
      cases reads
      rfl
    | cons name rest inductionHypothesis =>
      rw [List.mapM_cons] at reads
      obtain ⟨role, first, reads⟩ := bind_eq_ok_iff.mp reads
      obtain ⟨others, further, returns⟩ := bind_eq_ok_iff.mp reads
      cases returns
      rw [List.map_cons, ← inductionHypothesis further]
      cases known : Role.ofName? name with
      | none => simp [known] at first
      | some found =>
        rw [known] at first
        cases first
        rw [Role.ofName?_eq_some_iff.mp known]
  · rintro rfl
    exact rolesOf_names roles

private theorem instantOf_eq_ok_iff {seconds : Int64} {instant : Instant} :
    instantOf seconds = .ok instant ↔ instant.seconds = seconds.toInt ∧ instant.nanos = 0 := by
  rw [← Rfc3339.ofUnix?_eq_some_iff, instantOf]
  cases Instant.ofUnix? seconds.toInt 0 <;> simp

private theorem session_eq_ok_iff {session : Verified} :
    claims.session = .ok session ↔ claims.Describes session := by
  simp only [Claims.session, bind_eq_ok_iff, rolesOf_eq_ok_iff, instantOf_eq_ok_iff]
  constructor
  · rintro ⟨roles, named, issued, issuedIs, expires, expiresIs, returns⟩
    cases returns
    exact ⟨rfl, rfl, rfl, rfl, named, issuedIs, expiresIs⟩
  · obtain ⟨⟨id, name, displayName, group, roles⟩, issued, expires⟩ := session
    rintro ⟨rfl, rfl, rfl, rfl, named, issuedIs, expiresIs⟩
    exact ⟨roles, named, issued, issuedIs, expires, expiresIs, rfl⟩

/-- Claims with an unknown role or a time out of range are malformed, never expired. -/
theorem session_ne_expired : claims.session ≠ .error .expired := by
  have instantAlive (seconds : Int64) : instantOf seconds ≠ .error .expired := by
    rw [instantOf]
    cases Instant.ofUnix? seconds.toInt 0 <;> simp
  have rolesAlive (names : List String) : rolesOf names ≠ .error .expired := by
    induction names with
    | nil =>
      intro ends
      cases ends
    | cons name rest inductionHypothesis =>
      intro ends
      rw [rolesOf, List.mapM_cons, bind_eq_error_iff] at ends
      rcases ends with first | ⟨_, -, ends⟩
      · cases known : Role.ofName? name <;> simp [known] at first
      · rcases bind_eq_error_iff.mp ends with others | ⟨_, -, returns⟩
        · exact inductionHypothesis others
        · cases returns
  intro ends
  simp only [Claims.session, bind_eq_error_iff, rolesAlive, instantAlive, false_or] at ends
  obtain ⟨_, -, _, -, _, -, returns⟩ := ends
  cases returns

/-! ## Verdicts -/

private theorem verify_eq_ok_iff {session : Verified} :
    verify key now text = .ok session ↔
      ∃ parts claims, IsSigned key parts text ∧ Carries parts claims false ∧ claims.Counts now ∧
        claims.Describes session := by
  have inspected : verify key now text = .ok session ↔ inspect key now text = .ok session := by
    rw [verify]
    cases inspect key now text <;> simp [Except.mapError]
  rw [inspected]
  simp only [inspect, bind_eq_ok_iff, checkTimes_eq_ok_iff, session_eq_ok_iff]
  constructor
  · rintro ⟨⟨claims, named⟩, signed, _, ⟨counts, unnamed⟩, describes⟩
    obtain ⟨parts, signs, carried⟩ := signedClaims_eq_ok_iff.mp signed
    exact ⟨parts, claims, signs, unnamed ▸ carried, counts, describes⟩
  · rintro ⟨parts, claims, signs, carried, counts, describes⟩
    exact ⟨(claims, false), signedClaims_eq_ok_iff.mpr ⟨parts, signs, carried⟩, (), ⟨counts, rfl⟩,
      describes⟩

private theorem verify_eq_expired_iff :
    verify key now text = .error .tokenExpired ↔
      ∃ parts claims named, IsSigned key parts text ∧ Carries parts claims named ∧
        0 ≤ claims.expires.toInt ∧ claims.expires.toInt < now - leeway := by
  have inspected : verify key now text = .error .tokenExpired ↔
      inspect key now text = .error .expired := by
    rw [verify]
    cases inspect key now text with
    | ok session => simp [Except.mapError]
    | error refusal => cases refusal <;> simp [Except.mapError, Refusal.toError]
  rw [inspected]
  simp only [inspect, bind_eq_error_iff, signedClaims_ne_expired, session_ne_expired, false_or,
    and_false, exists_false, or_false, checkTimes_eq_expired_iff]
  constructor
  · rintro ⟨⟨claims, named⟩, signed, past⟩
    obtain ⟨parts, signs, carried⟩ := signedClaims_eq_ok_iff.mp signed
    exact ⟨parts, claims, named, signs, carried, past⟩
  · rintro ⟨parts, claims, named, signs, carried, past⟩
    exact ⟨(claims, named), signedClaims_eq_ok_iff.mpr ⟨parts, signs, carried⟩, past⟩

/-- Only three kinds of failure leave the verifier. -/
theorem verify_error {failure : AccessError} (fails : verify key now text = .error failure) :
    failure = .tokenExpired ∨ failure = .tokenSignatureInvalid ∨
      ∃ reason, failure = .tokenMalformed reason := by
  rw [verify] at fails
  cases ended : inspect key now text with
  | ok session => simp [ended] at fails
  | error refusal =>
    rw [ended] at fails
    cases fails
    cases refusal with
    | expired => exact .inl rfl
    | signature => exact .inr (.inl rfl)
    | malformed reason => exact .inr (.inr ⟨reason.message, rfl⟩)

/-- A text verifies exactly where its header names the algorithm, its last part is the keyed digest of
the rest, and its claims are for no audience, count at the time and describe the session.  Every other
text is refused as expired, as badly signed or as malformed: as expired exactly where it is signed, its
claims read and their expiry lies in the past, and so never where the signature differs.  To name the
algorithm, the header has to be one whole JSON value that says HS256 once, under `alg` or in its place. -/
theorem accepts_exactly_signed (key : SigningKey) (now : Int) (text : String) :
    (∀ session, verify key now text = .ok session ↔
      ∃ parts claims, IsSigned key parts text ∧ Carries parts claims false ∧
        (0 ≤ claims.expires.toInt ∧ now - 5 ≤ claims.expires.toInt ∧
          claims.notBefore.toInt ≤ now + 5) ∧
        claims.Describes session) ∧
    (∀ failure, verify key now text = .error failure →
      failure = .tokenExpired ∨ failure = .tokenSignatureInvalid ∨
        ∃ reason, failure = .tokenMalformed reason) ∧
    (verify key now text = .error .tokenExpired ↔
      ∃ parts claims named, IsSigned key parts text ∧ Carries parts claims named ∧
        0 ≤ claims.expires.toInt ∧ claims.expires.toInt < now - 5) ∧
    (∀ parts : Parts, parts.Splits text →
      parts.signature ≠ Base64.encode Base64.urlSafe
        (Digest.Hmac.digest (Utf8.encode key.secret.expose)
          (Utf8.encode (parts.header ++ "." ++ parts.claims))) →
      verify key now text = .error .tokenSignatureInvalid ∨
        ∃ reason, verify key now text = .error (.tokenMalformed reason)) ∧
    (∀ parts : Parts, IsSigned key parts text →
      ∃ bytes, Base64.decode Base64.urlSafe parts.header = .ok bytes ∧
        (Document.read bytes).ended = true ∧ NamesHs256 (Document.read bytes).root) := by
  have counts_iff (claims : Claims) : claims.Counts now ↔ 0 ≤ claims.expires.toInt ∧
      now - 5 ≤ claims.expires.toInt ∧ claims.notBefore.toInt ≤ now + 5 :=
    ⟨fun ⟨expiry, started, lasting⟩ => ⟨expiry, lasting, started⟩,
      fun ⟨expiry, lasting, started⟩ => ⟨expiry, started, lasting⟩⟩
  refine ⟨?accepted, fun failure => verify_error, verify_eq_expired_iff, ?unsigned,
    fun parts => IsSigned.names_hs256⟩
  case accepted =>
    intro session
    simp only [← counts_iff]
    exact verify_eq_ok_iff
  case unsigned =>
    intro parts splits differs
    have unsigned (other : Parts) : ¬ IsSigned key other text := by
      intro signs
      obtain rfl := splits.unique signs.splits
      exact differs signs.signature
    cases ended : verify key now text with
    | ok session =>
      obtain ⟨other, _, signs, -⟩ := verify_eq_ok_iff.mp ended
      exact absurd signs (unsigned other)
    | error failure =>
      rcases verify_error ended with rfl | rfl | ⟨reason, rfl⟩
      · obtain ⟨other, _, _, signs, -⟩ := verify_eq_expired_iff.mp ended
        exact absurd signs (unsigned other)
      · exact .inl rfl
      · exact .inr ⟨reason, rfl⟩

namespace Sample

def signingKey : SigningKey := ⟨⟨"k"⟩, by decide⟩

def signed : Claims := claimsFor caller early late

end Sample

/-- A signed token is accepted up to its expiry and refused as expired from then on, and with another
last part it is not even called expired. -/
theorem escaped_caller_accepted_until_expiry :
    verify Sample.signingKey 1700000000 (Sample.signed.sign Sample.signingKey) =
        .ok ⟨Sample.caller, Sample.early.truncate, Sample.late.truncate⟩ ∧
      verify Sample.signingKey 8210266876805 (Sample.signed.sign Sample.signingKey) = .error .tokenExpired ∧
      (verify Sample.signingKey 8210266876805 "e30.e30.!" = .error .tokenSignatureInvalid ∨
        ∃ reason, verify Sample.signingKey 8210266876805 "e30.e30.!" = .error (.tokenMalformed reason)) := by
  obtain ⟨parts, signs, carried⟩ :=
    signedClaims_eq_ok_iff.mp (signedClaims_sign Sample.signingKey Sample.signed)
  have expiry : Sample.signed.expires.toInt = 8210266876799 := toInt_ofInt_seconds Sample.late
  have start : Sample.signed.notBefore.toInt = -8334601228800 := toInt_ofInt_seconds Sample.early
  have describes := session_eq_ok_iff.mp (session_claimsFor Sample.caller Sample.early Sample.late)
  have forged (bytes : List UInt8) : "!" ≠ Base64.encode Base64.urlSafe bytes := by
    intro same
    have decoded := Base64.decode_encode Base64.isLawful_urlSafe bytes
    rw [← same] at decoded
    cases decoded
  refine ⟨?accepted, ?expired, ?forgery⟩
  case accepted =>
    apply ((accepts_exactly_signed Sample.signingKey _ _).1 _).mpr
    exact ⟨parts, Sample.signed, signs, carried, by omega, describes⟩
  case expired =>
    apply (accepts_exactly_signed Sample.signingKey _ _).2.2.1.mpr
    exact ⟨parts, Sample.signed, false, signs, carried, by omega⟩
  case forgery =>
    apply (accepts_exactly_signed Sample.signingKey _ _).2.2.2.1 ⟨"e30", "e30", "!"⟩
    · exact ⟨by decide, by decide, by decide⟩
    · exact forged _

end RoleVault.Session
