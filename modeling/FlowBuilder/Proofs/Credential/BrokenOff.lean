import FlowBuilder.Proofs.Credential.Authentication
import FlowBuilder.Proofs.Service.Effects

/-!
# Authentication that breaks off

A requester who cannot be known is turned away with a refusal. But not everything that may be wrong
with a token is looked for: where a secret is set, verifying a token may break off
(`Token.BreaksOff`), at a part that nests too deep to be read, at a key of the secret that cannot be
used, or at a time in the claims that is none. Everyone else is known or refused, whatever the
identity service answers.

* `Secret.anyKey_eq_iff`: the key at which trying the keys of a secret ends.
* `Token.timeOfJson_eq_fault_iff`, `Token.checkClaims_eq_fault_iff`: the times at which checking
  claims breaks off.
* `Token.verify_eq_fault_iff`: the tokens at which verifying does.
* `authenticate_breaksOff_iff`: which requesters are neither known nor turned away.
* `untimedToken_unrefused`: the sender of a signed token that states no time of expiry is neither.
-/

namespace FlowBuilder

/-! ### Keys -/

namespace Secret

/-- What comes of trying a key. -/
def Key.tried (passes : List UInt8 → Bool) (key : Key) : Except Fault Bool :=
  key.bytes.map passes

/-- Trying keys ends at one of them, with its result; those before it have failed. -/
def EndsAtKey (passes : List UInt8 → Bool) (ks : List Key) (r : Except Fault Bool) : Prop :=
  ∃ front key back, ks = front ++ key :: back ∧ (∀ k ∈ front, k.tried passes = .ok false) ∧
    key.tried passes = r

variable {passes : List UInt8 → Bool} {key : Key} {ks : List Key} {r : Except Fault Bool}

/-- Behind a key that fails the next one is tried. -/
theorem anyKey_cons_of_fails (h : key.tried passes = .ok false) :
    anyKey passes (key :: ks) = anyKey passes ks := by
  rw [Key.tried] at h
  rw [anyKey]
  cases hbytes : key.bytes with
  | error f =>
    rw [hbytes] at h
    cases h
  | ok bytes =>
    rw [hbytes] at h
    exact if_neg (by rw [Except.ok.inj h]; exact Bool.false_ne_true)

/-- A key that passes or cannot be used ends the trial. -/
theorem anyKey_cons_of_ends (h : key.tried passes ≠ .ok false) :
    anyKey passes (key :: ks) = key.tried passes := by
  rw [Key.tried] at h ⊢
  rw [anyKey]
  cases hbytes : key.bytes with
  | error f => rfl
  | ok bytes =>
    have hpasses : passes bytes = true := by
      rw [hbytes] at h
      exact eq_true_of_ne_false fun hfails => h (congrArg Except.ok hfails)
    exact (if_pos hpasses).trans (congrArg Except.ok hpasses.symm)

/-- A trial ends at the first key, or goes on behind it. -/
theorem endsAtKey_cons_iff :
    EndsAtKey passes (key :: ks) r ↔
      key.tried passes = r ∨ key.tried passes = .ok false ∧ EndsAtKey passes ks r := by
  constructor
  · rintro ⟨front, last, back, h, hfront, hlast⟩
    -- the key is the one at which the trial ends, or it stands before that one and has failed
    match front, h, hfront with
    | [], h, _ =>
      obtain ⟨rfl, -⟩ := List.cons.inj h
      exact .inl hlast
    | _ :: front, h, hfront =>
      obtain ⟨rfl, rfl⟩ := List.cons.inj h
      obtain ⟨hfails, hfront⟩ := List.forall_mem_cons.1 hfront
      exact .inr ⟨hfails, front, last, back, rfl, hfront, hlast⟩
  · rintro (hlast | ⟨hfails, front, last, back, rfl, hfront, hlast⟩)
    · exact ⟨[], key, ks, rfl, nofun, hlast⟩
    · exact ⟨key :: front, last, back, rfl, List.forall_mem_cons.2 ⟨hfails, hfront⟩, hlast⟩

/-- Keys are tried up to the first that passes or cannot be used. -/
theorem anyKey_eq_iff (hr : r ≠ .ok false) : anyKey passes ks = r ↔ EndsAtKey passes ks r := by
  induction ks with
  | nil =>
    -- without keys the trial fails, so that it does not end at any
    refine ⟨fun h => absurd h.symm hr, ?_⟩
    rintro ⟨front, key, back, h, -⟩
    exact absurd h.symm (List.append_ne_nil_of_right_ne_nil front (List.cons_ne_nil key back))
  | cons key ks ih =>
    rw [endsAtKey_cons_iff, ← ih]
    by_cases hfails : key.tried passes = .ok false
    · rw [anyKey_cons_of_fails hfails]
      exact ⟨fun h => .inr ⟨hfails, h⟩,
        fun h => (h.resolve_left fun h => hr (h.symm.trans hfails)).2⟩
    · rw [anyKey_cons_of_ends hfails]
      exact ⟨.inl, fun h => h.resolve_right fun h => hfails h.1⟩

end Secret

namespace Token

/-! ### Parts -/

/-- Bytes are a text that nests too deep to be read. -/
def NestTooDeep (depth : Nat) (bytes : List UInt8) : Prop :=
  ∃ text, String.fromUTF8? ⟨bytes.toArray⟩ = some text ∧
    Json.read depth text = .error .nestingTooDeep

/-- A token is cut into its parts at its first and its last dot. -/
def IsCutInto (depth : Nat) (token : List Char) (p : Parts) : Prop :=
  ∃ header payload signature, token = header ++ '.' :: payload ++ '.' :: signature ∧
    '.' ∉ header ∧ '.' ∉ signature ∧ StatesObject depth header p.header ∧
    Base64.decode (Text.utf8Bytes payload) = some p.payload ∧
    Base64.decode (Text.utf8Bytes signature) = some p.signature ∧
    p.signed = header ++ '.' :: payload

/-- The header of a token nests too deep to be read. -/
def HeaderTooDeep (depth : Nat) (token : List Char) : Prop :=
  ∃ header payload signature bytes, token = header ++ '.' :: payload ++ '.' :: signature ∧
    '.' ∉ header ∧ '.' ∉ signature ∧ Base64.decode (Text.utf8Bytes header) = some bytes ∧
    NestTooDeep depth bytes

variable {depth : Nat} {token : List Char} {f : Fault}

/-- Reading an object breaks off just where the text nests too deep. -/
theorem readMembers_eq_fault_iff {bytes : List UInt8} :
    readMembers depth bytes = .error (.fault f) ↔
      f = .nestingTooDeep ∧ NestTooDeep depth bytes := by
  unfold readMembers NestTooDeep
  split
  · next h => simp [h]
  · next text h =>
    rw [h]
    split
    · next hread => simp [hread]
    · next hread => simp [hread, eq_comm]
    · next hread =>
      simp only [Option.some.injEq, exists_eq_left']
      exact ⟨nofun, fun hdeep => absurd hdeep.2 hread⟩

/-- Decoding a part never breaks off. -/
theorem partBytes_ne_fault {part : List Char} : partBytes part ≠ .error (.fault f) := by
  unfold partBytes
  split <;> exact nofun

/-- The parts of a token are those into which it is cut. -/
theorem parts_eq_ok_iff_isCutInto {p : Parts} :
    parts depth token = .ok p ↔ IsCutInto depth token p := by
  simp only [parts_eq_ok_iff, partBytes_eq_ok_iff, IsCutInto]

/-- Cutting a token into its parts breaks off only at a header that nests too deep. -/
theorem parts_eq_fault_iff :
    parts depth token = .error (.fault f) ↔ f = .nestingTooDeep ∧ HeaderTooDeep depth token := by
  constructor
  · intro h
    unfold parts at h
    split at h
    · cases h
    · next signed signature hlast =>
      split at h
      · cases h
      · next header payload hfirst =>
        obtain ⟨rfl, hsignature⟩ := Text.splitLast?_eq_some_iff.1 hlast
        obtain ⟨rfl, hheader⟩ := Text.splitFirst?_eq_some_iff.1 hfirst
        rcases bind_eq_error.1 h with h | ⟨bytes, hbytes, h⟩
        · exact absurd h partBytes_ne_fault
        rcases bind_eq_error.1 h with h | ⟨members, _, h⟩
        · obtain ⟨rfl, hdeep⟩ := readMembers_eq_fault_iff.1 h
          exact ⟨rfl, header, payload, signature, bytes, rfl, hheader, hsignature,
            partBytes_eq_ok_iff.1 hbytes, hdeep⟩
        -- the other parts are decoded, but not read
        rcases bind_eq_error.1 h with h | ⟨_, _, h⟩
        · exact absurd h partBytes_ne_fault
        rcases bind_eq_error.1 h with h | ⟨_, _, h⟩
        · exact absurd h partBytes_ne_fault
        cases h
  · rintro ⟨rfl, header, payload, signature, bytes, rfl, hheader, hsignature, hbytes, hdeep⟩
    simp only [parts, Text.splitLast?_eq_some_iff.2 ⟨rfl, hsignature⟩,
      Text.splitFirst?_eq_some_iff.2 ⟨rfl, hheader⟩]
    exact bind_eq_error.2 (.inr ⟨bytes, partBytes_eq_ok_iff.2 hbytes,
      bind_eq_error.2 (.inl (readMembers_eq_fault_iff.2 ⟨rfl, hdeep⟩))⟩)

/-! ### Signatures -/

/-- Whether the signature of a token is the code of what is signed under a key. -/
def Parts.isCodedBy (p : Parts) (key : List UInt8) : Bool :=
  Hmac.sign key (Text.utf8Bytes p.signed) == p.signature

/-- A token is cut into parts whose header names the way of signing, so that its signature is
checked. -/
structure IsCheckedIn (depth : Nat) (token : List Char) (p : Parts) : Prop where
  /-- These are the parts. -/
  cut : IsCutInto depth token p
  /-- The header names the way of signing. -/
  algorithm : Json.lookup? "alg" p.header = some (.text "HS256")

/-- The check of a token's signature under a secret breaks off: the secret states no keys, or one
that is tried and cannot be used. -/
def CheckBreaksOff (depth : Nat) (secret : List Char) (p : Parts) (f : Fault) : Prop :=
  Secret.keys depth secret = .error f ∨
    ∃ ks, Secret.keys depth secret = .ok ks ∧ Secret.EndsAtKey p.isCodedBy ks (.error f)

/-- The signature of a token is the code under a key of the secret. -/
def CheckPasses (depth : Nat) (secret : List Char) (p : Parts) : Prop :=
  ∃ ks, Secret.keys depth secret = .ok ks ∧ Secret.EndsAtKey p.isCodedBy ks (.ok true)

variable {secret : List Char}

/-- Trying the keys of a secret breaks off just if the check of the signature does. -/
theorem checkBreaksOff_iff {p : Parts} :
    (Secret.keys depth secret).bind (Secret.anyKey p.isCodedBy) = .error f ↔
      CheckBreaksOff depth secret p f := by
  refine bind_eq_error.trans (or_congr Iff.rfl (exists_congr fun ks => and_congr_right fun _ => ?_))
  exact Secret.anyKey_eq_iff nofun

/-- A key of the secret passes just if the check of the signature does. -/
theorem checkPasses_iff {p : Parts} :
    (Secret.keys depth secret).bind (Secret.anyKey p.isCodedBy) = .ok true ↔
      CheckPasses depth secret p := by
  refine bind_eq_ok.trans (exists_congr fun ks => and_congr_right fun _ => ?_)
  exact Secret.anyKey_eq_iff (by simp)

/-- A payload fails to be verified by a fault just when the token cannot be cut into its parts, or
the check of its signature breaks off. -/
theorem verifiedPayload_eq_fault_iff :
    verifiedPayload depth secret token = .error (.fault f) ↔
      (f = .nestingTooDeep ∧ HeaderTooDeep depth token) ∨
        ∃ p, IsCheckedIn depth token p ∧ CheckBreaksOff depth secret p f := by
  constructor
  · intro h
    rcases bind_eq_error.1 h with h | ⟨p, hparts, h⟩
    · exact .inl (parts_eq_fault_iff.1 h)
    -- another way of signing and a signature that does not fit are refused
    split at h
    · next halgorithm =>
      split at h
      · next hcheck =>
        cases h
        exact .inr ⟨p, ⟨parts_eq_ok_iff_isCutInto.1 hparts, namesAlgorithm_iff.1 halgorithm⟩,
          checkBreaksOff_iff.1 hcheck⟩
      · cases h
      · cases h
    · cases h
  · rintro (hdeep | ⟨p, hchecked, hbreaks⟩)
    · exact bind_eq_error.2 (.inl (parts_eq_fault_iff.2 hdeep))
    · have hcheck : (Secret.keys depth secret).bind (Secret.anyKey fun key =>
          Hmac.sign key (Text.utf8Bytes p.signed) == p.signature) = .error f :=
        checkBreaksOff_iff.2 hbreaks
      refine bind_eq_error.2 (.inr ⟨p, parts_eq_ok_iff_isCutInto.2 hchecked.cut, ?_⟩)
      rw [if_pos (namesAlgorithm_iff.2 hchecked.algorithm), hcheck]
      rfl

/-- The payloads that are verified are those of tokens whose signature passes the check. -/
theorem verifiedPayload_eq_ok_iff_passes {bytes : List UInt8} :
    verifiedPayload depth secret token = .ok bytes ↔
      ∃ p, IsCheckedIn depth token p ∧ CheckPasses depth secret p ∧ p.payload = bytes := by
  constructor
  · intro h
    obtain ⟨p, hparts, h⟩ := bind_eq_ok.1 h
    split at h
    · next halgorithm =>
      split at h
      · cases h
      · next hcheck =>
        cases h
        exact ⟨p, ⟨parts_eq_ok_iff_isCutInto.1 hparts, namesAlgorithm_iff.1 halgorithm⟩,
          checkPasses_iff.1 hcheck, rfl⟩
      · cases h
    · cases h
  · rintro ⟨p, hchecked, hpasses, rfl⟩
    have hcheck : (Secret.keys depth secret).bind (Secret.anyKey fun key =>
        Hmac.sign key (Text.utf8Bytes p.signed) == p.signature) = .ok true :=
      checkPasses_iff.2 hpasses
    refine bind_eq_ok.2 ⟨p, parts_eq_ok_iff_isCutInto.2 hchecked.cut, ?_⟩
    rw [if_pos (namesAlgorithm_iff.2 hchecked.algorithm), hcheck]
    rfl

/-! ### Times -/

/-- A value is no time, and reading one from it breaks off. Text without a time, and what is not a
number, are refused instead. -/
inductive NoTime : Json → Fault → Prop
  /-- Nothing is stated. -/
  | null : NoTime .null .timeNotNumber
  /-- A list. -/
  | array (items : List Json) : NoTime (.array items) .timeNotNumber
  /-- An object. -/
  | object (members : List (List Glyph × Json)) : NoTime (.object members) .timeNotNumber
  /-- A number too large for a whole one. -/
  | infinite {x : Float} {negative : Bool} (h : Decimal.Binary.ofFloat x = .infinite negative) :
    NoTime (.float x) .timeInfinite

/-- The time that claims state under a name is none. -/
def LacksTime (name : String) (claims : Claims) (f : Fault) : Prop :=
  ∃ j, Json.lookup? name claims = some j ∧ NoTime j f

/-- The time that claims state under a name, if they do, is one that holds. -/
def TimeHolds (name : String) (holds : Int → Prop) (claims : Claims) : Prop :=
  ∀ j, Json.lookup? name claims = some j → ∃ time, timeOfJson j = .ok time ∧ holds time

/-- Checking claims breaks off: of the times at which a token was issued, comes into use and
expires, one is none, and those before it hold. -/
inductive Mistimed (now : Int) (claims : Claims) (f : Fault) : Prop
  /-- The time of issue is none. -/
  | issued (h : LacksTime "iat" claims f)
  /-- The time from which the token may be used is none. -/
  | begun (hissued : TimeHolds "iat" (fun _ => True) claims) (h : LacksTime "nbf" claims f)
  /-- The time of expiry is none. -/
  | unexpired (hissued : TimeHolds "iat" (fun _ => True) claims)
    (hbegun : TimeHolds "nbf" (· ≤ now) claims) (h : LacksTime "exp" claims f)

/-- Reading a time breaks off just at values that are none. -/
theorem timeOfJson_eq_fault_iff {j : Json} :
    timeOfJson j = .error (.fault f) ↔ NoTime j f := by
  constructor
  · intro h
    unfold timeOfJson at h
    split at h
    · cases h
    · cases h
    · next x =>
      split at h
      · next hinfinite =>
        cases h
        exact .infinite hinfinite
      · split at h <;> cases h
    · split at h
      · cases h
      · split at h <;> cases h
    -- no number and no text is left: null, a list or an object
    · next hint hbool hfloat hstring =>
      cases h
      match j with
      | .null => exact .null
      | .array items => exact .array items
      | .object members => exact .object members
      | .int n => exact absurd rfl (hint n)
      | .bool b => exact absurd rfl (hbool b)
      | .float x => exact absurd rfl (hfloat x)
      | .string s => exact absurd rfl (hstring s)
  · rintro (_ | _ | _ | hinfinite)
    · rfl
    · rfl
    · rfl
    · rw [timeOfJson, hinfinite]

/-- Checking the time of a claim breaks off just if it is none. -/
theorem checkTime_eq_fault_iff {name : String} {holds : Int → Bool} {refusal : Refusal}
    {claims : Claims} :
    checkTime name holds refusal claims = .error (.fault f) ↔ LacksTime name claims f := by
  unfold checkTime LacksTime
  split
  · next h => simp [h]
  · next j h =>
    simp only [h, Option.some.injEq, exists_eq_left']
    rw [bind_eq_error, timeOfJson_eq_fault_iff]
    refine or_iff_left ?_
    -- a time that is read may be refused, but nothing breaks off any more
    rintro ⟨time, -, hcheck⟩
    split at hcheck <;> cases hcheck

/-- Checking that a claim is text never breaks off. -/
theorem checkText_ne_fault {name : String} {claims : Claims} :
    checkText name claims ≠ .error (.fault f) := by
  unfold checkText
  split <;> exact nofun

/-- Reading the subject never breaks off. -/
theorem subject_ne_fault {claims : Claims} : subject claims ≠ .error (.fault f) := by
  unfold subject
  split
  · split <;> exact nofun
  · exact nofun

/-- Checking claims breaks off only at their times. -/
theorem checkClaims_eq_fault_iff {now : Int} {claims : Claims} :
    checkClaims now claims = .error (.fault f) ↔ Mistimed now claims f := by
  have hissued : ∀ u, checkTime "iat" (fun _ => true) .invalidToken claims = .ok u ↔
      TimeHolds "iat" (fun _ => True) claims := fun u => by
    simp [checkTime_eq_ok_iff, TimeHolds]
  have hbegun : ∀ u, checkTime "nbf" (fun t => t ≤ now) .invalidToken claims = .ok u ↔
      TimeHolds "nbf" (· ≤ now) claims := fun u => by
    simp [checkTime_eq_ok_iff, TimeHolds]
  constructor
  · intro h
    unfold checkClaims at h
    rcases bind_eq_error.1 h with h | ⟨_, hiat, h⟩
    · exact .issued (checkTime_eq_fault_iff.1 h)
    rcases bind_eq_error.1 h with h | ⟨_, hnbf, h⟩
    · exact .begun ((hissued _).1 hiat) (checkTime_eq_fault_iff.1 h)
    rcases bind_eq_error.1 h with h | ⟨_, _, h⟩
    · exact .unexpired ((hissued _).1 hiat) ((hbegun _).1 hnbf) (checkTime_eq_fault_iff.1 h)
    -- what is checked behind the times is refused or not
    rcases bind_eq_error.1 h with h | ⟨_, _, h⟩
    · exact absurd h checkText_ne_fault
    rcases bind_eq_error.1 h with h | ⟨_, _, h⟩
    · exact absurd h checkText_ne_fault
    split at h <;> cases h
  · rintro (h | ⟨hiat, h⟩ | ⟨hiat, hnbf, h⟩)
    · exact bind_eq_error.2 (.inl (checkTime_eq_fault_iff.2 h))
    · exact bind_eq_error.2 (.inr ⟨(), (hissued _).2 hiat,
        bind_eq_error.2 (.inl (checkTime_eq_fault_iff.2 h))⟩)
    · exact bind_eq_error.2 (.inr ⟨(), (hissued _).2 hiat,
        bind_eq_error.2 (.inr ⟨(), (hbegun _).2 hnbf,
          bind_eq_error.2 (.inl (checkTime_eq_fault_iff.2 h))⟩)⟩)

/-! ### Tokens -/

/-- Verifying a token under a secret at a time breaks off. -/
inductive BreaksOff (depth : Nat) (secret token : List Char) (now : Int) : Fault → Prop
  /-- Its header cannot be read. -/
  | header (h : HeaderTooDeep depth token) : BreaksOff depth secret token now .nestingTooDeep
  /-- Its signature cannot be checked. -/
  | signature {p : Parts} {f : Fault} (hchecked : IsCheckedIn depth token p)
    (h : CheckBreaksOff depth secret p f) : BreaksOff depth secret token now f
  /-- It is signed, and its payload cannot be read. -/
  | payload {p : Parts} (hchecked : IsCheckedIn depth token p)
    (hpasses : CheckPasses depth secret p) (h : NestTooDeep depth p.payload) :
    BreaksOff depth secret token now .nestingTooDeep
  /-- It is signed, and one of the times that its claims state is none. -/
  | claims {p : Parts} {text : String} {claims : Claims} {f : Fault}
    (hchecked : IsCheckedIn depth token p) (hpasses : CheckPasses depth secret p)
    (htext : String.fromUTF8? ⟨p.payload.toArray⟩ = some text)
    (hclaims : Json.read depth text = .ok (.object claims)) (h : Mistimed now claims f) :
    BreaksOff depth secret token now f

/-- A token names no requester by a fault just when verifying it breaks off. -/
theorem verify_eq_fault_iff {now : Int} :
    verify depth secret token now = .error (.fault f) ↔ BreaksOff depth secret token now f := by
  constructor
  · intro h
    rcases bind_eq_error.1 h with h | ⟨bytes, hpayload, h⟩
    · rcases verifiedPayload_eq_fault_iff.1 h with ⟨rfl, hdeep⟩ | ⟨p, hchecked, hbreaks⟩
      · exact .header hdeep
      · exact .signature hchecked hbreaks
    -- from here on the token is signed
    obtain ⟨p, hchecked, hpasses, rfl⟩ := verifiedPayload_eq_ok_iff_passes.1 hpayload
    rcases bind_eq_error.1 h with h | ⟨claims, hclaims, h⟩
    · obtain ⟨rfl, hdeep⟩ := readMembers_eq_fault_iff.1 h
      exact .payload hchecked hpasses hdeep
    obtain ⟨text, htext, hread⟩ := readMembers_eq_ok_iff.1 hclaims
    rcases bind_eq_error.1 h with h | ⟨_, _, h⟩
    · exact .claims hchecked hpasses htext hread (checkClaims_eq_fault_iff.1 h)
    · exact absurd h subject_ne_fault
  · intro h
    have hverified : ∀ p, IsCheckedIn depth token p → CheckPasses depth secret p →
        verifiedPayload depth secret token = .ok p.payload := fun p hchecked hpasses =>
      verifiedPayload_eq_ok_iff_passes.2 ⟨p, hchecked, hpasses, rfl⟩
    cases h with
    | header hdeep =>
      exact bind_eq_error.2 (.inl (verifiedPayload_eq_fault_iff.2 (.inl ⟨rfl, hdeep⟩)))
    | signature hchecked hbreaks =>
      exact bind_eq_error.2 (.inl (verifiedPayload_eq_fault_iff.2 (.inr ⟨_, hchecked, hbreaks⟩)))
    | payload hchecked hpasses hdeep =>
      exact bind_eq_error.2 (.inr ⟨_, hverified _ hchecked hpasses,
        bind_eq_error.2 (.inl (readMembers_eq_fault_iff.2 ⟨rfl, hdeep⟩))⟩)
    | claims hchecked hpasses htext hread hmistimed =>
      exact bind_eq_error.2 (.inr ⟨_, hverified _ hchecked hpasses,
        bind_eq_error.2 (.inr ⟨_, readMembers_eq_ok_iff.2 ⟨_, htext, hread⟩,
          bind_eq_error.2 (.inl (checkClaims_eq_fault_iff.2 hmistimed))⟩)⟩)

end Token

/-! ### Requesters -/

/-- A requester can neither be known nor turned away: a secret is set, and verifying the requester's
token under it breaks off. -/
def AuthSettings.BreaksOff (settings : AuthSettings) (header : Option String) (f : Fault) : Prop :=
  ∃ secret token, settings.secret = some secret ∧ secret ≠ "" ∧ StatesToken header token ∧
    Token.BreaksOff settings.depth secret.toList token.toList settings.now f

/-- Whatever the identity service answers is dealt with. -/
theorem IdentityReply.requester_ne_fault {reply : IdentityReply} {f : Fault} :
    reply.requester.mapError Failure.error ≠ .error (.fault f) := by
  cases reply.requester <;> exact nofun

/-- Identifying a requester ends with a fault just if it breaks off. -/
theorem authenticate_eq_fault_iff {settings : AuthSettings} {header : Option String} {f : Fault} :
    (authenticate settings header).answer = .error (.fault f) ↔ settings.BreaksOff header f := by
  constructor
  · intro h
    by_cases hstates : ∃ token, StatesToken header token
    · obtain ⟨token, hstates⟩ := hstates
      by_cases hunset : settings.secret = none ∨ settings.secret = some ""
      · -- the identity service has been asked, and whatever it answers is looked at
        rw [authenticate_of_no_secret hstates hunset] at h
        exact absurd h IdentityReply.requester_ne_fault
      · obtain ⟨hnone, hempty⟩ := not_or.1 hunset
        obtain ⟨secret, hsecret⟩ := Option.ne_none_iff_exists'.1 hnone
        have hne : secret ≠ "" := fun h => hempty (h ▸ hsecret)
        rw [authenticate_of_secret hstates hsecret hne] at h
        exact ⟨secret, token, hsecret, hne, hstates, Token.verify_eq_fault_iff.1 h⟩
    · obtain ⟨refusal, hrefused⟩ := authenticate_of_not_states (not_exists.1 hstates)
      rw [hrefused] at h
      cases h
  · rintro ⟨secret, token, hsecret, hne, hstates, hbreaks⟩
    rw [authenticate_of_secret hstates hsecret hne]
    exact Token.verify_eq_fault_iff.2 hbreaks

/-- A requester is known or refused, unless verifying a token under a secret breaks off. The service
answers a refusal by its own response, whatever has been asked, and leaves nothing behind; it has no
such response to a fault. -/
theorem authenticate_breaksOff_iff (settings : AuthSettings) (header : Option String) :
    (∀ f, (authenticate settings header).answer = .error (.fault f) ↔
      settings.BreaksOff header f) ∧
    (((∃ user, (authenticate settings header).answer = .ok user) ∨
        ∃ refusal, (authenticate settings header).answer = .error (.error refusal)) ↔
      ∀ f, ¬ settings.BreaksOff header f) ∧
    ∀ (service : ServiceSettings) (r : HttpRequest) (payload : Payload),
      service.auth = settings → r.header? "authorization" = header →
      r.payload service.bodyDepth = .ok payload →
      (∀ refusal, (authenticate settings header).answer = .error (.error refusal) →
        serveFlow service r = (.detail 401 refusal.message, {})) ∧
      ∀ f, settings.BreaksOff header f → serveFlow service r = (.broken, {}) := by
  refine ⟨fun f => authenticate_eq_fault_iff, ?_, ?_⟩
  · simp only [← authenticate_eq_fault_iff]
    -- an answer, a refusal and a fault exclude each other
    match (authenticate settings header).answer with
    | .ok user => exact ⟨fun _ => nofun, fun _ => .inl ⟨user, rfl⟩⟩
    | .error (.error refusal) => exact ⟨fun _ => nofun, fun _ => .inr ⟨refusal, rfl⟩⟩
    | .error (.fault f) => exact ⟨by simp, fun h => absurd rfl (h f)⟩
  · rintro service r payload rfl rfl hpayload
    simp only [← authenticate_eq_fault_iff]
    refine ⟨fun refusal hrefused => ?_, fun f hfault => ?_⟩
    · simp only [serveFlow, hpayload, hrefused]
    · simp only [serveFlow, hpayload, hfault]

/-! ### A token without a time -/

/-- A token for Ada, signed under the secret. For the time at which it expires nothing is stated. -/
def untimedToken : String :=
  adaHeader ++ "." ++ "eyJzdWIiOiJhZGEiLCJleHAiOm51bGx9" ++ "." ++
    "ZCMdz_lyOuo6CfIBDHzTWrrBtHetwa4YD2JhZG7rD3c"

/-- Identifying the sender of that token ends with a fault. -/
theorem answer_untimedToken :
    (authenticate adaSettings (some ("Bearer " ++ untimedToken))).answer =
      .error (.fault .timeNotNumber) := by
  decide +kernel

/-- Verifying the token breaks off at that time, and the service has no response of its own to a
request with it. -/
theorem untimedToken_breaksOff :
    adaSettings.BreaksOff (some ("Bearer " ++ untimedToken)) .timeNotNumber ∧
    serveFlow { adaService with auth := adaSettings }
      (greetingRequest "/api/agents/flows" ("Bearer " ++ untimedToken)) = (.broken, {}) := by
  obtain ⟨hfault, -, hserved⟩ :=
    authenticate_breaksOff_iff adaSettings (some ("Bearer " ++ untimedToken))
  have hbreaks := (hfault .timeNotNumber).1 answer_untimedToken
  obtain ⟨payload, hpayload⟩ : ∃ payload,
      (greetingRequest "/api/agents/flows" ("Bearer " ++ untimedToken)).payload
        adaService.bodyDepth = .ok payload :=
    exists_eq_ok_of_isSome (by decide +kernel)
  have hanswered := hserved { adaService with auth := adaSettings } _ payload rfl
    (by decide +kernel) hpayload
  exact ⟨hbreaks, hanswered.2 _ hbreaks⟩

/-- Not everyone is known or refused. -/
theorem untimedToken_unrefused :
    ¬ ∀ (settings : AuthSettings) (header : Option String),
      (∃ user, (authenticate settings header).answer = .ok user) ∨
        ∃ refusal, (authenticate settings header).answer = .error (.error refusal) := by
  intro h
  rcases h adaSettings (some ("Bearer " ++ untimedToken)) with ⟨user, h⟩ | ⟨refusal, h⟩
  · cases answer_untimedToken.symm.trans h
  · cases answer_untimedToken.symm.trans h

end FlowBuilder
