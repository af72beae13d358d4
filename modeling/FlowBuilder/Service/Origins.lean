import FlowBuilder.Service.Message
import FlowBuilder.Text.Search

/-!
# Allowed origins

The web origins whose pages may use the service: the local development server, and those that the
environment lists with commas between. A browser asks whether a page may send a request before it
sends any (`preflight`).
-/

namespace FlowBuilder.Origins

/-- The origin of the local development server. -/
def localServer : String := "http://localhost:3000"

/-- Origins with one more, unless it is empty or among them already. -/
def add (origins : List String) (origin : String) : List String :=
  if origin = "" ∨ origin ∈ origins then origins else origins ++ [origin]

/-- The allowed origins, by the value in the environment. -/
def allowed (value : Option String) : List String :=
  ((Text.splitAll (· == ',') (Text.trim (value.getD "").toList)).map fun piece =>
    String.ofList (Text.trim piece)).foldl add [localServer]

/-- The methods that a page of an allowed origin may use. -/
def pageMethods : List String :=
  ["DELETE", "GET", "HEAD", "OPTIONS", "PATCH", "POST", "PUT", "QUERY"]

/-- The response to the question of a browser whether a page may send a request. A private network
is open to no page. -/
def preflight (origins : List String) (origin method : String) (asksPrivate : Bool) :
    HttpResponse :=
  let failures := (if origin ∈ origins then [] else ["origin"]) ++
    (if method ∈ pageMethods then [] else ["method"]) ++
    (if asksPrivate then ["private-network"] else [])
  if failures = [] then ⟨200, .text "OK"⟩
  else ⟨400, .text ("Disallowed CORS " ++ ", ".intercalate failures)⟩

end FlowBuilder.Origins
