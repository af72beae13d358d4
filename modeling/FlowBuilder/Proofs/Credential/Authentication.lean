import FlowBuilder.Credential.Bearer
import FlowBuilder.Proofs.Credential.Verified

/-!
# Authentication

What a requester must show to be known by an id. The authorization header must be the word `Bearer`,
a space and a token (`StatesToken`). Under a secret that is plain text the token must grant the id
by itself (`Token.Grants`). Without a secret the identity service must know the user, and only then
is it asked.

* `bearerToken_eq_ok_iff`: the token of a header.
* `authenticate_of_secret`, `authenticate_of_no_secret`, `authenticate_of_not_states`: the ways of
  identifying a requester.
* `authenticate_sound`: how a requester becomes known, and when the identity service is asked.
-/

namespace FlowBuilder

/-! ### Headers -/

/-- An authorization header states a token, in which there is no space. -/
structure StatesToken (header : Option String) (token : String) : Prop where
  /-- The header is the word, a space and the token. -/
  header : header = some ("Bearer " ++ token)
  /-- The token is not missing. -/
  token_ne : token ≠ ""
  /-- The token is one word. -/
  spaceless : ' ' ∉ token.toList

/-- A text is the word, a space and a token just when its first space separates these. -/
theorem eq_bearer_append_iff {text token : String} :
    text = "Bearer " ++ token ↔
      Text.splitFirst? ' ' text.toList = some ("Bearer".toList, token.toList) := by
  have hword : ("Bearer " ++ token).toList = "Bearer".toList ++ ' ' :: token.toList := by
    rw [String.toList_append]
    rfl
  rw [Text.splitFirst?_eq_some_iff, ← String.toList_inj, hword]
  exact (and_iff_left (by decide)).symm

/-- A token is taken from a header just if the header states it. -/
theorem bearerToken_eq_ok_iff {header : Option String} {token : String} :
    bearerToken header = .ok token ↔ StatesToken header token := by
  constructor
  · intro h
    unfold bearerToken at h
    split at h
    · cases h
    · cases h
    · next text _ =>
      split at h
      · cases h
      · next scheme word hsplit =>
        split at h
        · next hword =>
          obtain ⟨rfl, hne, hspace⟩ := hword
          cases h
          rw [← String.toList_ofList (l := word)] at hsplit hspace
          have htext := eq_bearer_append_iff.2 hsplit
          exact ⟨congrArg some htext, by simpa using hne, hspace⟩
        · cases h
  · rintro ⟨rfl, hne, hspace⟩
    have hsplit := eq_bearer_append_iff.1 (rfl : "Bearer " ++ token = "Bearer " ++ token)
    have hword : token.toList ≠ [] := by simpa using hne
    unfold bearerToken
    split
    · next h => cases h
    · next h =>
      -- a header without text has no space
      rw [Option.some.inj h] at hsplit
      cases hsplit
    · next h =>
      cases h
      simp only [hsplit]
      rw [if_pos ⟨trivial, hword, hspace⟩, String.ofList_toList]

/-! ### Requesters -/

/-- The identity service makes known just the user whom it names. -/
theorem requester_eq_ok_iff {reply : IdentityReply} {user : String} :
    reply.requester.mapError Failure.error = .ok user ↔ reply = .user user := by
  cases reply with
  | rejected detail =>
    rw [IdentityReply.requester]
    split <;> exact ⟨nofun, nofun⟩
  | noAnswer | noUser => exact ⟨nofun, nofun⟩
  | user id =>
    rw [IdentityReply.user.injEq]
    exact Except.ok.injEq id user ▸ Iff.rfl

section

variable {settings : AuthSettings} {header : Option String} {token : String}

/-- Where no token is stated, the requester is turned away at once. -/
theorem authenticate_of_not_states (h : ∀ token, ¬ StatesToken header token) :
    ∃ refusal, authenticate settings header = ⟨.error (.error refusal), []⟩ := by
  unfold authenticate
  split
  · next refusal _ => exact ⟨refusal, rfl⟩
  · next token htoken => exact absurd (bearerToken_eq_ok_iff.1 htoken) (h token)

/-- Where a secret is set, the token is verified under it. -/
theorem authenticate_of_secret (h : StatesToken header token) {secret : String}
    (hsecret : settings.secret = some secret) (hne : secret ≠ "") :
    authenticate settings header =
      ⟨Token.verify settings.depth secret.toList token.toList settings.now, []⟩ := by
  have hset : settings.secret.filter (· ≠ "") = some secret := by
    rw [hsecret, Option.filter_some, if_pos (decide_eq_true hne)]
  simp only [authenticate, bearerToken_eq_ok_iff.2 h, hset]

/-- Where no secret is set, the identity service is asked about the token. -/
theorem authenticate_of_no_secret (h : StatesToken header token)
    (hsecret : settings.secret = none ∨ settings.secret = some "") :
    authenticate settings header =
      ⟨(settings.identity token).requester.mapError .error, [token]⟩ := by
  have hset : settings.secret.filter (· ≠ "") = none := by
    rcases hsecret with hsecret | hsecret <;> rw [hsecret] <;> rfl
  simp only [authenticate, bearerToken_eq_ok_iff.2 h, hset]

end

/-- Whoever is known by an id has stated a token. Where a plain secret is set, just a token that
grants the id by itself makes it known, and the identity service is not asked; where none is set, it
is asked just about that token, and must know the user. Without a token it is not asked. -/
theorem authenticate_sound (settings : AuthSettings) (header : Option String) :
    (∀ user, (authenticate settings header).answer = .ok user →
      ∃ token, StatesToken header token) ∧
    (∀ token, StatesToken header token →
      (∀ secret, settings.secret = some secret → secret ≠ "" →
        (authenticate settings header).asked = [] ∧
        (Secret.IsPlain settings.depth secret → ∀ user,
          (authenticate settings header).answer = .ok user ↔
            Token.Grants settings.depth secret settings.now token user)) ∧
      (settings.secret = none ∨ settings.secret = some "" →
        (authenticate settings header).asked = [token] ∧
        ∀ user, (authenticate settings header).answer = .ok user ↔
          settings.identity token = .user user)) ∧
    ((∀ token, ¬ StatesToken header token) → (authenticate settings header).asked = []) := by
  refine ⟨fun user hanswer => ?_, fun token hstates => ⟨fun secret hsecret hne => ?_,
    fun hsecret => ?_⟩, fun hnone => ?_⟩
  -- without a token in the header there is a refusal, and nobody is asked
  · refine Classical.byContradiction fun hnone => ?_
    obtain ⟨refusal, hrefused⟩ := authenticate_of_not_states (not_exists.1 hnone)
    rw [hrefused] at hanswer
    cases hanswer
  -- a secret decides alone; without one the identity service does
  · rw [authenticate_of_secret hstates hsecret hne]
    exact ⟨rfl, fun hplain user => Token.verify_eq_ok_iff hplain⟩
  · rw [authenticate_of_no_secret hstates hsecret]
    exact ⟨rfl, fun user => requester_eq_ok_iff⟩
  · obtain ⟨refusal, hrefused⟩ := authenticate_of_not_states hnone
    rw [hrefused]

/-! ### A token -/

/-- The secret of the examples is not JSON. -/
theorem isPlain_secret : Secret.IsPlain 990 "secret" := by
  intro v hread
  have hnone : (Json.readBy Json.ofMembers Json.asWritten 990
      (Glyph.ofString "secret")).toOption.isNone := by
    decide +kernel
  rw [hread] at hnone
  cases hnone

/-- The header of a token for Ada. -/
def adaHeader : String := "eyJhbGciOiJIUzI1NiJ9"

/-- Its payload. The token expires at the time 9. -/
def adaPayload : String := "eyJzdWIiOiJhZGEiLCJleHAiOjl9"

/-- Its signature. -/
def adaSignature : String := "EYeY6tXlk8zEC7OZGpOb59QGktnihQb2s4eFqpzz4uI"

/-- A token for Ada. -/
def adaToken : String :=
  adaHeader ++ "." ++ adaPayload ++ "." ++ adaSignature

/-- The token for Ada is signed under that secret. -/
theorem isSigned_adaToken :
    Token.IsSigned 990 "secret" adaHeader.toList adaPayload.toList adaSignature.toList := by
  obtain ⟨members, hheader, halgorithm⟩ :=
    Token.exists_statesObject 990 adaHeader.toList Token.namesAlgorithm (by decide +kernel)
  exact
    { usable := by decide +kernel
      header_dotless := by decide +kernel
      signature_dotless := by decide +kernel
      algorithm := ⟨members, hheader, Token.namesAlgorithm_iff.1 halgorithm⟩
      code := by decide +kernel }

/-- It grants her id while it has not expired. -/
theorem grants_adaToken : Token.Grants 990 "secret" 9 adaToken "ada" := by
  obtain ⟨claims, hpayload, hclaims⟩ := Token.exists_statesObject 990 adaPayload.toList
    (fun claims => (Token.checkClaims 9 claims).toOption = some () ∧
      (Token.subject claims).toOption = some "ada") (by decide +kernel)
  obtain ⟨hchecks, hsubject⟩ := of_decide_eq_true hclaims
  exact ⟨adaHeader.toList, adaPayload.toList, adaSignature.toList, claims, by decide +kernel,
    isSigned_adaToken, hpayload,
    Token.claimsHold_iff.1 ⟨eq_ok_of_toOption hchecks, eq_ok_of_toOption hsubject⟩⟩

/-- The service to which the token for Ada is sent. -/
def adaSettings : AuthSettings where
  secret := some "secret"
  now := 9
  depth := 990
  identity _ := .noUser

/-- The token makes Ada known under the secret, and the identity service is not asked about it. -/
theorem authenticate_adaToken :
    (authenticate adaSettings (some ("Bearer " ++ adaToken))).asked = [] ∧
    (authenticate adaSettings (some ("Bearer " ++ adaToken))).answer = .ok "ada" := by
  have hstates : StatesToken (some ("Bearer " ++ adaToken)) adaToken :=
    ⟨rfl, by decide +kernel, by decide +kernel⟩
  obtain ⟨hasked, hanswer⟩ :=
    ((authenticate_sound adaSettings _).2.1 adaToken hstates).1 "secret" rfl (by decide)
  exact ⟨hasked, (hanswer isPlain_secret "ada").2 grants_adaToken⟩

end FlowBuilder
