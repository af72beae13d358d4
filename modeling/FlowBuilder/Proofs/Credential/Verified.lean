import FlowBuilder.Credential.Token

/-!
# Verified tokens

Which tokens are good under a secret that is plain text: those that consist of signed parts
(`Token.IsSigned`) and whose claims hold (`Token.ClaimsHold`). All ways past a check are thereby
excluded, those through a header that names another way of signing among them.

* `parts_eq_ok_iff`: the parts of a token, by its first and its last dot.
* `verifiedPayload_eq_ok_iff`: what is signed.
* `claimsHold_iff`: what the claims must say.
* `verify_eq_ok_iff`: just the tokens that grant an id (`Token.Grants`) are verified.
-/

namespace FlowBuilder

/-! ### Secrets -/

/-- A secret is not itself JSON of the given depth, so that it is taken as it is. -/
def Secret.IsPlain (depth : Nat) (secret : String) : Prop :=
  ∀ v, Json.readBy Json.ofMembers Json.asWritten depth (Glyph.ofString secret) ≠ .ok v

/-- The bytes of a plain secret are the only key that it states, if they may be one. -/
theorem Secret.IsPlain.anyKey_eq_ok_iff {depth : Nat} {secret : String} (h : IsPlain depth secret)
    {passes : List UInt8 → Bool} {b : Bool} :
    (keys depth secret.toList).bind (anyKey passes) = .ok b ↔
      PublicKey.isStatedBy secret.toList = false ∧ passes (Text.utf8Bytes secret.toList) = b := by
  have hkeys : keys depth secret.toList = .ok [.text (secret.toList.map .char)] := by
    unfold keys
    split
    · rfl
    all_goals next hread => exact absurd hread (h _)
  have hbytes : (Key.text (secret.toList.map .char)).bytes =
      if PublicKey.isStatedBy secret.toList then .error .unusableKey
      else .ok (Text.utf8Bytes secret.toList) := by
    rw [Key.bytes, ordinary, Glyph.chars?_map_char]
    rfl
  rw [hkeys]
  change anyKey passes [.text (secret.toList.map .char)] = _ ↔ _
  rw [anyKey, hbytes]
  cases PublicKey.isStatedBy secret.toList with
  | true => exact ⟨nofun, nofun⟩
  -- the key is the only one, so that it decides
  | false => cases hpasses : passes (Text.utf8Bytes secret.toList) <;> simp [anyKey, hpasses]

/-! ### Tokens -/

namespace Token

/-- A part of a token states a JSON object of the given depth: that is what its bytes hold. -/
def StatesObject (depth : Nat) (part : List Char) (members : List (List Glyph × Json)) : Prop :=
  ∃ bytes text, Base64.decode (Text.utf8Bytes part) = some bytes ∧
    String.fromUTF8? ⟨bytes.toArray⟩ = some text ∧ Json.read depth text = .ok (.object members)

/-- The parts of a token are signed under a secret. -/
structure IsSigned (depth : Nat) (secret : String) (header payload signature : List Char) :
    Prop where
  /-- The secret is not known for the text of a public key. -/
  usable : PublicKey.isStatedBy secret.toList = false
  /-- The first dot of the signed text ends the header. -/
  header_dotless : '.' ∉ header
  /-- The last dot of the token begins the signature. -/
  signature_dotless : '.' ∉ signature
  /-- The header names the way of signing. -/
  algorithm : ∃ members, StatesObject depth header members ∧
    Json.lookup? "alg" members = some (.text "HS256")
  /-- The signature is the code of the signed text. -/
  code : Base64.decode (Text.utf8Bytes signature) =
    some (Hmac.sign (Text.utf8Bytes secret.toList) (Text.utf8Bytes (header ++ '.' :: payload)))

/-- Claims hold at a time and name a user. -/
structure ClaimsHold (now : Int) (claims : Claims) (user : String) : Prop where
  /-- The token was issued at some time, if at any. -/
  issued : ∀ j, Json.lookup? "iat" claims = some j → ∃ time, timeOfJson j = .ok time
  /-- The token is in use already. -/
  begun : ∀ j, Json.lookup? "nbf" claims = some j → ∃ time, timeOfJson j = .ok time ∧ time ≤ now
  /-- The token has not expired. -/
  unexpired : ∀ j, Json.lookup? "exp" claims = some j →
    ∃ time, timeOfJson j = .ok time ∧ now ≤ time
  /-- The subject is the user. -/
  subject : (Json.lookup? "sub" claims).bind Json.string? = some user
  /-- The user has an id. -/
  user_ne : user ≠ ""
  /-- An id of the token is text. -/
  id : ∀ j, Json.lookup? "jti" claims = some j → ∃ s, j = .string s
  /-- The token is not bound to another one. -/
  unbound : Json.lookup? "at_hash" claims = none

/-- A token grants the id of a user at a time: it consists of parts that are signed under the
secret, and the payload states claims that hold. -/
def Grants (depth : Nat) (secret : String) (now : Int) (token user : String) : Prop :=
  ∃ (header payload signature : List Char) (claims : Claims),
    token.toList = header ++ '.' :: payload ++ '.' :: signature ∧
    IsSigned depth secret header payload signature ∧
    StatesObject depth payload claims ∧ ClaimsHold now claims user

variable {depth : Nat}

/-- The bytes of a part are what it encodes. -/
theorem partBytes_eq_ok_iff {part : List Char} {bytes : List UInt8} :
    partBytes part = .ok bytes ↔ Base64.decode (Text.utf8Bytes part) = some bytes := by
  unfold partBytes
  split
  · next decoded h => rw [h, Except.ok.injEq, Option.some.injEq]
  · next h =>
    rw [h]
    exact ⟨nofun, nofun⟩

/-- The members that bytes state are those of the object that their text is. -/
theorem readMembers_eq_ok_iff {bytes : List UInt8} {members : List (List Glyph × Json)} :
    readMembers depth bytes = .ok members ↔
      ∃ text, String.fromUTF8? ⟨bytes.toArray⟩ = some text ∧
        Json.read depth text = .ok (.object members) := by
  unfold readMembers
  split
  · next h => simp [h]
  · next text h =>
    rw [h]
    constructor
    · intro hread
      split at hread
      · next hobject =>
        cases hread
        exact ⟨text, rfl, hobject⟩
      · cases hread
      · cases hread
    · rintro ⟨_, hsome, hread⟩
      cases hsome
      rw [hread]

/-- A part states an object just if its bytes are read as that object. -/
theorem statesObject_iff {part : List Char} {members : List (List Glyph × Json)} :
    StatesObject depth part members ↔
      ∃ bytes, partBytes part = .ok bytes ∧ readMembers depth bytes = .ok members := by
  simp only [StatesObject, partBytes_eq_ok_iff, readMembers_eq_ok_iff, exists_and_left]

/-- A header names the way of signing by one text. -/
theorem namesAlgorithm_iff {header : List (List Glyph × Json)} :
    namesAlgorithm header = true ↔ Json.lookup? "alg" header = some (.text "HS256") := by
  unfold namesAlgorithm
  cases Json.lookup? "alg" header with
  | none => simp
  | some j => cases j <;> simp [Json.text]

/-- The parts of a token stand between its first and its last dot. -/
theorem parts_eq_ok_iff {token : List Char} {p : Parts} :
    parts depth token = .ok p ↔ ∃ header payload signature,
      token = header ++ '.' :: payload ++ '.' :: signature ∧ '.' ∉ header ∧ '.' ∉ signature ∧
      StatesObject depth header p.header ∧ partBytes payload = .ok p.payload ∧
      partBytes signature = .ok p.signature ∧ p.signed = header ++ '.' :: payload := by
  constructor
  · intro h
    unfold parts at h
    split at h
    · cases h
    · next signed signature hlast =>
      split at h
      · cases h
      · next header payload hfirst =>
        -- the last dot is cut off first, and the first dot is sought in what is left
        obtain ⟨rfl, hsignature⟩ := Text.splitLast?_eq_some_iff.1 hlast
        obtain ⟨rfl, hheader⟩ := Text.splitFirst?_eq_some_iff.1 hfirst
        obtain ⟨bytes, hbytes, h⟩ := bind_eq_ok.1 h
        obtain ⟨members, hmembers, h⟩ := bind_eq_ok.1 h
        obtain ⟨payloadBytes, hpayload, h⟩ := bind_eq_ok.1 h
        obtain ⟨code, hcode, h⟩ := bind_eq_ok.1 h
        cases h
        exact ⟨header, payload, signature, rfl, hheader, hsignature,
          statesObject_iff.2 ⟨bytes, hbytes, hmembers⟩, hpayload, hcode, rfl⟩
  · rintro ⟨header, payload, signature, rfl, hheader, hsignature, hobject, hpayload, hcode, hsigned⟩
    obtain ⟨bytes, hbytes, hmembers⟩ := statesObject_iff.1 hobject
    simp only [parts, Text.splitLast?_eq_some_iff.2 ⟨rfl, hsignature⟩,
      Text.splitFirst?_eq_some_iff.2 ⟨rfl, hheader⟩]
    refine bind_eq_ok.2 ⟨bytes, hbytes, bind_eq_ok.2 ⟨p.header, hmembers,
      bind_eq_ok.2 ⟨p.payload, hpayload, bind_eq_ok.2 ⟨p.signature, hcode, ?_⟩⟩⟩⟩
    rw [← hsigned]
    rfl

/-- Under a plain secret just the payloads of signed tokens are verified. -/
theorem verifiedPayload_eq_ok_iff {secret : String} (hplain : Secret.IsPlain depth secret)
    {token : List Char} {bytes : List UInt8} :
    verifiedPayload depth secret.toList token = .ok bytes ↔ ∃ header payload signature,
      token = header ++ '.' :: payload ++ '.' :: signature ∧
      IsSigned depth secret header payload signature ∧ partBytes payload = .ok bytes := by
  unfold verifiedPayload
  constructor
  · intro h
    obtain ⟨p, hparts, h⟩ := bind_eq_ok.1 h
    obtain ⟨header, payload, signature, htoken, hheader, hsignature, hobject, hpayload, hcode,
      hsigned⟩ := parts_eq_ok_iff.1 hparts
    split at h
    · next halgorithm =>
      split at h
      · cases h
      · next hcheck =>
        cases h
        -- the signature is compared with the code under the only key
        obtain ⟨husable, hsame⟩ := hplain.anyKey_eq_ok_iff.1 hcheck
        rw [partBytes_eq_ok_iff, ← eq_of_beq hsame, hsigned] at hcode
        exact ⟨header, payload, signature, htoken, ⟨husable, hheader, hsignature,
          ⟨p.header, hobject, namesAlgorithm_iff.1 halgorithm⟩, hcode⟩, hpayload⟩
      · cases h
    · cases h
  · rintro ⟨header, payload, signature, htoken, hsigned, hpayload⟩
    obtain ⟨members, hobject, halgorithm⟩ := hsigned.algorithm
    have hparts : parts depth token = .ok ⟨members, bytes, header ++ '.' :: payload,
        Hmac.sign (Text.utf8Bytes secret.toList) (Text.utf8Bytes (header ++ '.' :: payload))⟩ :=
      parts_eq_ok_iff.2 ⟨header, payload, signature, htoken, hsigned.header_dotless,
        hsigned.signature_dotless, hobject, hpayload, partBytes_eq_ok_iff.2 hsigned.code, rfl⟩
    have hcheck : (Secret.keys depth secret.toList).bind (Secret.anyKey fun key =>
        Hmac.sign key (Text.utf8Bytes (header ++ '.' :: payload)) ==
          Hmac.sign (Text.utf8Bytes secret.toList)
            (Text.utf8Bytes (header ++ '.' :: payload))) = .ok true :=
      hplain.anyKey_eq_ok_iff.2 ⟨hsigned.usable, beq_self_eq_true _⟩
    refine bind_eq_ok.2 ⟨_, hparts, ?_⟩
    rw [if_pos (namesAlgorithm_iff.2 halgorithm), hcheck]
    rfl

/-- The time of a claim is accepted just if it is one that holds, or there is none. -/
theorem checkTime_eq_ok_iff {name : String} {holds : Int → Bool} {refusal : Refusal}
    {claims : Claims} {u : Unit} :
    checkTime name holds refusal claims = .ok u ↔ ∀ j, Json.lookup? name claims = some j →
      ∃ time, timeOfJson j = .ok time ∧ holds time = true := by
  unfold checkTime
  -- an absent claim is not checked
  split
  · next h => simp [h]
  · next j h =>
    rw [bind_eq_ok, h]
    constructor
    · rintro ⟨time, htime, hcheck⟩ _ hj
      cases hj
      split at hcheck
      · next hholds => exact ⟨time, htime, hholds⟩
      · cases hcheck
    · intro hall
      obtain ⟨time, htime, hholds⟩ := hall j rfl
      exact ⟨time, htime, if_pos hholds⟩

/-- A claim is accepted as text just if it is text, or there is none. -/
theorem checkText_eq_ok_iff {name : String} {claims : Claims} {u : Unit} :
    checkText name claims = .ok u ↔
      ∀ j, Json.lookup? name claims = some j → ∃ s, j = .string s := by
  unfold checkText
  split
  · next h => simp [h]
  · next s h => simp [h]
  · next j hstring h =>
    rw [h]
    exact ⟨nofun, fun htext => absurd (htext j rfl) (by simpa using hstring)⟩

/-- A subject is a text that is not empty. -/
theorem subject_eq_ok_iff {claims : Claims} {user : String} :
    subject claims = .ok user ↔
      (Json.lookup? "sub" claims).bind Json.string? = some user ∧ user ≠ "" := by
  unfold subject
  split
  · next s h =>
    rw [h, Option.some.injEq]
    split
    · next hempty => exact ⟨nofun, fun ⟨hs, hne⟩ => absurd (hs ▸ hempty) hne⟩
    · next hne =>
      rw [Except.ok.injEq]
      exact (and_iff_left_of_imp fun hs => hs ▸ hne).symm
  · next h => simp [h]

/-- Claims are accepted just if each of them is. -/
theorem checkClaims_eq_ok_iff {now : Int} {claims : Claims} :
    checkClaims now claims = .ok () ↔
      checkTime "iat" (fun _ => true) .invalidToken claims = .ok () ∧
      checkTime "nbf" (fun t => t ≤ now) .invalidToken claims = .ok () ∧
      checkTime "exp" (fun t => now ≤ t) .tokenExpired claims = .ok () ∧
      checkText "sub" claims = .ok () ∧ checkText "jti" claims = .ok () ∧
      Json.lookup? "at_hash" claims = none := by
  unfold checkClaims
  constructor
  · intro h
    obtain ⟨_, hiat, h⟩ := bind_eq_ok.1 h
    obtain ⟨_, hnbf, h⟩ := bind_eq_ok.1 h
    obtain ⟨_, hexp, h⟩ := bind_eq_ok.1 h
    obtain ⟨_, hsub, h⟩ := bind_eq_ok.1 h
    obtain ⟨_, hjti, h⟩ := bind_eq_ok.1 h
    split at h
    · cases h
    · next hhash => exact ⟨hiat, hnbf, hexp, hsub, hjti, by simpa using hhash⟩
  · rintro ⟨hiat, hnbf, hexp, hsub, hjti, hhash⟩
    refine bind_eq_ok.2 ⟨_, hiat, bind_eq_ok.2 ⟨_, hnbf, bind_eq_ok.2 ⟨_, hexp,
      bind_eq_ok.2 ⟨_, hsub, bind_eq_ok.2 ⟨_, hjti, ?_⟩⟩⟩⟩⟩
    rw [hhash]
    rfl

/-- Claims are accepted for a user just when they hold. -/
theorem claimsHold_iff {now : Int} {claims : Claims} {user : String} :
    (checkClaims now claims = .ok () ∧ subject claims = .ok user) ↔
      ClaimsHold now claims user := by
  rw [checkClaims_eq_ok_iff, subject_eq_ok_iff, checkTime_eq_ok_iff, checkTime_eq_ok_iff,
    checkTime_eq_ok_iff, checkText_eq_ok_iff, checkText_eq_ok_iff]
  constructor
  · rintro ⟨⟨hiat, hnbf, hexp, -, hjti, hhash⟩, hsubject, huser⟩
    exact ⟨by simpa using hiat, by simpa using hnbf, by simpa using hexp, hsubject, huser, hjti,
      hhash⟩
  · intro h
    -- the subject from which an id is read is text, which is checked on its own
    have hsub : ∀ j, Json.lookup? "sub" claims = some j → ∃ s, j = .string s := by
      intro j hj
      have hstring : j.string? = some user := by
        have hsubject := h.subject
        rwa [hj] at hsubject
      match j, hstring with
      | .string s, _ => exact ⟨s, rfl⟩
    exact ⟨⟨by simpa using h.issued, by simpa using h.begun, by simpa using h.unexpired, hsub, h.id,
      h.unbound⟩, h.subject, h.user_ne⟩

/-- Under a plain secret just the tokens that grant an id are verified. -/
theorem verify_eq_ok_iff {secret : String} (hplain : Secret.IsPlain depth secret)
    {token user : String} {now : Int} :
    verify depth secret.toList token.toList now = .ok user ↔
      Grants depth secret now token user := by
  constructor
  · intro h
    -- the signature first, then the claims of the payload it covers
    obtain ⟨bytes, hpayload, h⟩ := bind_eq_ok.1 h
    obtain ⟨claims, hclaims, h⟩ := bind_eq_ok.1 h
    obtain ⟨_, hchecks, hsubject⟩ := bind_eq_ok.1 h
    obtain ⟨header, payload, signature, htoken, hsigned, hbytes⟩ :=
      (verifiedPayload_eq_ok_iff hplain).1 hpayload
    exact ⟨header, payload, signature, claims, htoken, hsigned,
      statesObject_iff.2 ⟨bytes, hbytes, hclaims⟩, claimsHold_iff.1 ⟨hchecks, hsubject⟩⟩
  · rintro ⟨header, payload, signature, claims, htoken, hsigned, hobject, hhold⟩
    obtain ⟨bytes, hbytes, hclaims⟩ := statesObject_iff.1 hobject
    obtain ⟨hchecks, hsubject⟩ := claimsHold_iff.2 hhold
    have hpayload : verifiedPayload depth secret.toList token.toList = .ok bytes :=
      (verifiedPayload_eq_ok_iff hplain).2 ⟨header, payload, signature, htoken, hsigned, hbytes⟩
    exact bind_eq_ok.2 ⟨bytes, hpayload, bind_eq_ok.2 ⟨claims, hclaims,
      bind_eq_ok.2 ⟨(), hchecks, hsubject⟩⟩⟩

/-- What a part states can be examined by reading it. -/
theorem exists_statesObject (depth : Nat) (part : List Char) (p : List (List Glyph × Json) → Bool)
    (h : (partBytes part >>= readMembers depth).toOption.any p = true) :
    ∃ members, StatesObject depth part members ∧ p members = true := by
  rcases hread : partBytes part >>= readMembers depth with e | members
  · rw [hread] at h
    cases h
  · rw [hread] at h
    exact ⟨members, statesObject_iff.2 (bind_eq_ok.1 hread), h⟩

end Token

end FlowBuilder
