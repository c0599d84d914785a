import RoleVault.Proofs.Identity
import RoleVault.Proofs.Session.Registered
import RoleVault.Proofs.Text.Base64
import RoleVault.Session.Token

/-!
Contract: signed tokens verify.

Owns:
- the parts that a signed text falls into, and what is read from them (`signedClaims_sign`);
- `verify_sign`: the session that a signed token describes, while it counts;
- `issued_token_verifies`: what is issued for a caller reads back as that caller.

Does not own: tokens that this library did not sign.
-/

namespace RoleVault.Session

open RoleVault.Json RoleVault.Text RoleVault.Time

/-! ## Parts -/

private theorem splitLast?_append {before after : List Char} (undotted : '.' ∉ after) :
    splitLast? (before ++ '.' :: after) = some (before, after) := by
  have reversed : (before ++ '.' :: after).reverse = after.reverse ++ '.' :: before.reverse := by
    simp
  have plain : ∀ char ∈ after.reverse, (char != '.') = true := by
    intro char member
    rw [bne_iff_ne]
    rintro rfl
    exact undotted (List.mem_reverse.mp member)
  rw [splitLast?, reversed, List.dropWhile_append_of_pos plain, List.takeWhile_append_of_pos plain]
  simp

/-- A text falls into its parts at the last two dots. -/
theorem ofText?_join {header claims signature : String} (claimsUndotted : '.' ∉ claims.toList)
    (signatureUndotted : '.' ∉ signature.toList) :
    Parts.ofText? (header ++ "." ++ claims ++ "." ++ signature) =
      some ⟨header, claims, signature⟩ := by
  have dot : ".".toList = ['.'] := rfl
  have chars : (header ++ "." ++ claims ++ "." ++ signature).toList =
      (header.toList ++ '.' :: claims.toList) ++ '.' :: signature.toList := by
    simp only [String.toList_append, dot, List.append_assoc, List.singleton_append]
  rw [Parts.ofText?, chars]
  simp only [splitLast?_append signatureUndotted, splitLast?_append claimsUndotted,
    String.ofList_toList, bind, Option.bind, pure]

@[simp] theorem mapError_ok {α β γ : Type} (change : β → γ) (value : α) :
    Except.mapError change (.ok value) = .ok value :=
  rfl

private theorem partBytes_part (value : Value) : partBytes (part value) = .ok value.bytes := by
  rw [partBytes, part, Base64.decode_encode Base64.isLawful_urlSafe, Value.encode_render]
  rfl

/-! ## Signed claims -/

variable {key : SigningKey} {identity : Identity} {issuedAt expiresAt : Instant}

/-- The claims of a signed token read back, whatever their times. -/
theorem signedClaims_sign (key : SigningKey) (claims : Claims) :
    signedClaims key (claims.sign key) = .ok (claims, false) := by
  have parts : Parts.ofText? (claims.sign key) =
      some ⟨part header, part claims.toValue, key.sign (part header ++ "." ++ part claims.toValue)⟩ :=
    ofText?_join (Base64.dot_not_mem_encode _) (Base64.dot_not_mem_encode _)
  have algorithm := decodeBytes_bytes isWritable_header headerDecoder_header
  have read := decodeBytes_bytes claims.isWritable_toValue claims.decoder_toValue
  have unnamed := Registered.namesAudience_toValue claims
  simp only [signedClaims, parts, partBytes_part, algorithm, read, unnamed, readAs, mapError_ok,
    Parts.body, ne_eq, not_true_eq_false, ↓reduceIte, bind, Except.bind, pure, Except.pure]

/-- The claims count at a point in time. -/
structure Claims.Counts (claims : Claims) (now : Int) : Prop where
  expiry : 0 ≤ claims.expires.toInt
  started : claims.notBefore.toInt ≤ now + leeway
  lasting : now - leeway ≤ claims.expires.toInt

private theorem checkTimes_of_counts {claims : Claims} {now : Int} (counts : claims.Counts now) :
    checkTimes claims false now = .ok () := by
  obtain ⟨expiry, started, lasting⟩ := counts
  rw [checkTimes, if_neg (by omega), if_neg (by omega), if_neg (by omega)]
  rfl

/-- A signed token verifies as the session that its claims describe, while they count. -/
theorem verify_sign {claims : Claims} {now : Int} {session : Verified} (counts : claims.Counts now)
    (describes : claims.session = .ok session) :
    verify key now (claims.sign key) = .ok session := by
  simp only [verify, inspect, signedClaims_sign, checkTimes_of_counts counts, describes, bind,
    Except.bind, mapError_ok]

/-! ## Callers -/

/-- The names of roles read back as these roles. -/
theorem rolesOf_names (roles : List Role) : rolesOf (roles.map Role.name) = .ok roles := by
  induction roles with
  | nil => rfl
  | cons role rest inductionHypothesis =>
    rw [rolesOf] at inductionHypothesis
    simp only [rolesOf, List.map_cons, List.mapM_cons, Role.ofName?_name, inductionHypothesis, bind,
      Except.bind, pure, Except.pure]

/-- The seconds of an instant fit sixty-four bits. -/
theorem toInt_ofInt_seconds (instant : Instant) :
    (Int64.ofInt instant.seconds).toInt = instant.seconds := by
  obtain ⟨early, late⟩ := instant.seconds_mem
  unfold minSeconds at early
  unfold maxSeconds at late
  apply Int64.toInt_ofInt_of_le <;> omega

private theorem instantOf_seconds (instant : Instant) :
    instantOf (Int64.ofInt instant.seconds) = .ok instant.truncate := by
  have whole := Rfc3339.ofUnix?_self instant.truncate
  rw [instantOf, toInt_ofInt_seconds]
  simp only [Instant.truncate] at whole ⊢
  rw [whole]

/-- The claims about a caller describe that caller, with times in whole seconds. -/
theorem session_claimsFor (identity : Identity) (issuedAt expiresAt : Instant) :
    (claimsFor identity issuedAt expiresAt).session =
      .ok ⟨identity, issuedAt.truncate, expiresAt.truncate⟩ := by
  simp only [Claims.session, claimsFor, rolesOf_names, instantOf_seconds, bind, Except.bind, pure,
    Except.pure]

/-- Claims count from a leeway before their beginning to a leeway after their end. -/
theorem counts_claimsFor {now : Int} (expiry : 0 ≤ expiresAt.seconds)
    (started : issuedAt.seconds ≤ now + leeway) (lasting : now - leeway ≤ expiresAt.seconds) :
    (claimsFor identity issuedAt expiresAt).Counts now := by
  constructor <;> simp only [claimsFor, toInt_ofInt_seconds] <;> assumption

/-- A token is issued where it expires after it begins. -/
theorem issue_eq (order : issuedAt.isBefore expiresAt = true) :
    issue key identity issuedAt expiresAt = .ok ((claimsFor identity issuedAt expiresAt).sign key) := by
  rw [issue, if_pos order]

/-- Every secret that is not empty gives a key. -/
theorem ofSecret_ok {secret : Secret} (filled : secret.expose ≠ "") :
    ∃ key, SigningKey.ofSecret secret = .ok key ∧ key.secret = secret := by
  have nonempty : secret.isEmpty = false := by
    simpa [Secret.isEmpty, String.isEmpty_iff] using filled
  refine ⟨⟨secret, nonempty⟩, ?_, rfl⟩
  unfold SigningKey.ofSecret
  split
  · rename_i empty
    rw [nonempty] at empty
    cases empty
  · rfl

/-- A token issued under a secret verifies under it from the time of issue up to expiry, give or take
the leeway, and names the same caller and the two times in whole seconds. -/
theorem issued_token_verifies {secret : Secret} (filled : secret.expose ≠ "") (identity : Identity)
    {issuedAt expiresAt : Instant} (order : issuedAt.isBefore expiresAt = true)
    (expiry : 0 ≤ expiresAt.seconds) :
    ∃ key token, SigningKey.ofSecret secret = .ok key ∧
      issue key identity issuedAt expiresAt = .ok token ∧
      ∀ now : Int, issuedAt.seconds ≤ now + 5 → now - 5 ≤ expiresAt.seconds →
        verify key now token = .ok ⟨identity, issuedAt.truncate, expiresAt.truncate⟩ := by
  obtain ⟨key, made, -⟩ := ofSecret_ok filled
  refine ⟨key, _, made, issue_eq order, ?_⟩
  intro now started lasting
  exact verify_sign (counts_claimsFor expiry started lasting)
    (session_claimsFor identity issuedAt expiresAt)

namespace Sample

def caller : Identity where
  id := ⟨List.replicate 16 0xAB, rfl⟩
  name := "a\"b\\c\x00\x1f\n\t"
  displayName := "Zoë 𝄞"
  group := Int64.minValue
  roles := [.operator, .user, .operator]

/-- The first instant but one. -/
def early : Instant :=
  ⟨minSeconds, 1, by decide, by decide⟩

/-- The last instant of all, which lies in a leap second. -/
def late : Instant :=
  ⟨maxSeconds, 1999999999, by decide, by decide⟩

end Sample

/-- A caller whose names need escapes is verified by its token. -/
theorem escaped_caller_verifies :
    (⟨"k"⟩ : Secret).expose ≠ "" ∧ Sample.early.isBefore Sample.late = true ∧
      0 ≤ Sample.late.seconds ∧
      ∃ key token, SigningKey.ofSecret ⟨"k"⟩ = .ok key ∧
        issue key Sample.caller Sample.early Sample.late = .ok token ∧
        verify key 1700000000 token =
          .ok ⟨Sample.caller, Sample.early.truncate, Sample.late.truncate⟩ := by
  have filled : (⟨"k"⟩ : Secret).expose ≠ "" := by decide
  have order : Sample.early.isBefore Sample.late = true := by decide
  have expiry : 0 ≤ Sample.late.seconds := by decide
  obtain ⟨key, token, made, issued, verifies⟩ :=
    issued_token_verifies filled Sample.caller order expiry
  exact ⟨filled, order, expiry, key, token, made, issued,
    verifies 1700000000 (by decide) (by decide)⟩

end RoleVault.Session
