import FlowBuilder.Credential.Token
import FlowBuilder.Text.Lowercase

/-!
# Bearer credentials

Who sends a request, by its authorization header: the word `Bearer`, a space, and a token without
spaces. With a secret the token is verified here; without one the identity service is asked about
it.
-/

namespace FlowBuilder

/-- What the identity service answers about a token. -/
inductive IdentityReply where
  /-- It rejects the question. -/
  | rejected (detail : String)
  /-- It gives no answer. -/
  | noAnswer
  /-- It knows no user of the token. -/
  | noUser
  /-- The user's id. -/
  | user (id : String)
  deriving DecidableEq, Repr

/-- How requesters are identified. -/
structure AuthSettings where
  /-- The secret under which tokens are signed; none, or an empty one, leaves tokens to the identity
  service. -/
  secret : Option String
  /-- The present time, in seconds. -/
  now : Int
  /-- How deep the values in a token and in the secret may nest. -/
  depth : Nat
  /-- What the identity service answers about a token. -/
  identity : String → IdentityReply

/-- What came of identifying a requester. -/
structure AuthOutcome where
  /-- The requester's id, or why it is not known. -/
  answer : Except (Failure Refusal) String
  /-- The tokens about which the identity service was asked. -/
  asked : List String

/-- The requester by the identity service's answer. A rejection that speaks of expiry means an old
token. -/
def IdentityReply.requester : IdentityReply → Except Refusal String
  | .rejected detail =>
    if Text.holds "expired".toList (Text.lower detail.toList) then .error .tokenExpired
    else .error .invalidToken
  | .noAnswer => .error .invalidToken
  | .noUser => .error .invalidToken
  | .user id => .ok id

/-- The token of an authorization header. -/
def bearerToken (header : Option String) : Except Refusal String :=
  match header with
  | none => .error .notAuthenticated
  | some "" => .error .notAuthenticated
  | some h =>
    match Text.splitFirst? ' ' h.toList with
    | none => .error .invalidCredentials
    | some (scheme, token) =>
      if scheme = "Bearer".toList ∧ token ≠ [] ∧ ' ' ∉ token then .ok (String.ofList token)
      else .error .invalidCredentials

/-- Identifies the requester of an authorization header. -/
def authenticate (settings : AuthSettings) (header : Option String) : AuthOutcome :=
  match bearerToken header with
  | .error refusal => ⟨.error (.error refusal), []⟩
  | .ok token =>
    match settings.secret.filter (· ≠ "") with
    | some secret => ⟨Token.verify settings.depth secret.toList token.toList settings.now, []⟩
    | none => ⟨((settings.identity token).requester).mapError .error, [token]⟩

end FlowBuilder
