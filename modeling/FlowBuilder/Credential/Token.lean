import FlowBuilder.Credential.Hmac
import FlowBuilder.Credential.Secret
import FlowBuilder.Decimal.Binary
import FlowBuilder.Text.Numeral

/-!
# Signed tokens

A token is three parts with dots between: a header that names the way of signing, a payload of
claims, and the signature of both. A token is good if its header names `HS256`, its signature is the
code of the signed text under the secret, and its claims hold at the present time; it then says who
the requester is.
-/

namespace FlowBuilder

/-- Why a requester is turned away. -/
inductive Refusal where
  /-- No credentials are given. -/
  | notAuthenticated
  /-- The credentials are not a bearer token. -/
  | invalidCredentials
  /-- The token is too old. -/
  | tokenExpired
  /-- The token is not good. -/
  | invalidToken
  deriving DecidableEq, Repr

/-- The wording of a refusal. -/
def Refusal.message : Refusal → String
  | .notAuthenticated => "Not authenticated"
  | .invalidCredentials => "Invalid authentication credentials"
  | .tokenExpired => "Token expired"
  | .invalidToken => "Invalid token"

namespace Token

/-- A token in its parts. -/
structure Parts where
  /-- The header, decoded. -/
  header : List (List Glyph × Json)
  /-- The payload as bytes. -/
  payload : List UInt8
  /-- The text that is signed: header and payload as they are written. -/
  signed : List Char
  /-- The signature. -/
  signature : List UInt8

/-- The members of the object that bytes state, whose values may nest so deep. -/
def readMembers (depth : Nat) (bytes : List UInt8) :
    Except (Failure Refusal) (List (List Glyph × Json)) :=
  match String.fromUTF8? ⟨bytes.toArray⟩ with
  | none => .error (.error .invalidToken)
  | some s =>
    match Json.read depth s with
    | .ok (.object members) => .ok members
    | .error .nestingTooDeep => .error (.fault .nestingTooDeep)
    | _ => .error (.error .invalidToken)

/-- The bytes of a part of a token. -/
def partBytes (cs : List Char) : Except (Failure Refusal) (List UInt8) :=
  match Base64.decode (Text.utf8Bytes cs) with
  | some bytes => .ok bytes
  | none => .error (.error .invalidToken)

/-- The parts of a token. -/
def parts (depth : Nat) (token : List Char) : Except (Failure Refusal) Parts := do
  match Text.splitLast? '.' token with
  | none => throw (.error .invalidToken)
  | some (signed, signature) =>
    match Text.splitFirst? '.' signed with
    | none => throw (.error .invalidToken)
    | some (header, payload) =>
      let header ← readMembers depth (← partBytes header)
      let payload ← partBytes payload
      let signature ← partBytes signature
      return ⟨header, payload, signed, signature⟩

/-- Whether a header names the way of signing that is accepted. -/
def namesAlgorithm (header : List (List Glyph × Json)) : Bool :=
  match Json.lookup? "alg" header with
  | some (.string s) => s == Glyph.ofString "HS256"
  | _ => false

/-- The payload of a token whose signature is good. -/
def verifiedPayload (depth : Nat) (secret token : List Char) :
    Except (Failure Refusal) (List UInt8) := do
  let p ← parts depth token
  if namesAlgorithm p.header then
    match (Secret.keys depth secret).bind
        (Secret.anyKey fun key => Hmac.sign key (Text.utf8Bytes p.signed) == p.signature) with
    | .error f => throw (.fault f)
    | .ok true => return p.payload
    | .ok false => throw (.error .invalidToken)
  else throw (.error .invalidToken)

/-- The time that a claim states, in whole seconds. -/
def timeOfJson : Json → Except (Failure Refusal) Int
  | .int n => .ok n
  | .bool b => .ok (if b then 1 else 0)
  | .float x =>
    match Decimal.Binary.ofFloat x with
    | .infinite _ => .error (.fault .timeInfinite)
    | b =>
      match b.truncate? with
      | some n => .ok n
      | none => .error (.error .invalidToken)
  | .string s =>
    match Text.signedDigits? (Glyph.toChars s) with
    | none => .error (.error .invalidToken)
    | some (negative, ds) =>
      if Decimal.digitLimit < ds.length then .error (.error .invalidToken)
      else
        let n : Int := (ds.foldl (fun n d => n * 10 + d) 0 : Nat)
        .ok (if negative then -n else n)
  | _ => .error (.fault .timeNotNumber)

/-- The claims of a payload. -/
abbrev Claims := List (List Glyph × Json)

/-- Checks the time of a claim, if there is one. -/
def checkTime (name : String) (holds : Int → Bool) (refusal : Refusal) (claims : Claims) :
    Except (Failure Refusal) Unit :=
  match Json.lookup? name claims with
  | none => .ok ()
  | some j => do
    let time ← timeOfJson j
    if holds time then return () else throw (.error refusal)

/-- Checks that a claim is text, if there is one. -/
def checkText (name : String) (claims : Claims) : Except (Failure Refusal) Unit :=
  match Json.lookup? name claims with
  | none => .ok ()
  | some (.string _) => .ok ()
  | some _ => .error (.error .invalidToken)

/-- Checks the claims at a time: the token is in use already and not expired, its subject and its id
are text, and it is not bound to another token. -/
def checkClaims (now : Int) (claims : Claims) : Except (Failure Refusal) Unit := do
  checkTime "iat" (fun _ => true) .invalidToken claims
  checkTime "nbf" (fun t => t ≤ now) .invalidToken claims
  checkTime "exp" (fun t => now ≤ t) .tokenExpired claims
  checkText "sub" claims
  checkText "jti" claims
  if (Json.lookup? "at_hash" claims).isSome then throw (.error .invalidToken)

/-- The subject of claims, which must not be empty. -/
def subject (claims : Claims) : Except (Failure Refusal) String :=
  match (Json.lookup? "sub" claims).bind Json.string? with
  | some s => if s = "" then .error (.error .invalidToken) else .ok s
  | none => .error (.error .invalidToken)

/-- The requester whom a token names. -/
def verify (depth : Nat) (secret token : List Char) (now : Int) :
    Except (Failure Refusal) String := do
  let payload ← verifiedPayload depth secret token
  let claims ← readMembers depth payload
  checkClaims now claims
  subject claims

end Token

end FlowBuilder
