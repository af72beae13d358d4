import FlowBuilder.Credential.Bearer
import FlowBuilder.Json.Sendable
import FlowBuilder.Record.Read
import FlowBuilder.Service.Origins
import FlowBuilder.Service.Route
import FlowBuilder.Session

/-!
# The service

What the service answers at each route. A request for a flow is checked in this order: its body can
be read, its sender is known, flows can be stored, its body is a request. Only then is anything
asked of the model or handed to the database.
-/

namespace FlowBuilder

/-- Whether the database answers a question. -/
inductive DatabaseHealth where
  /-- There is no client for it. -/
  | noClient
  /-- It answers. -/
  | reachable
  /-- It does not. -/
  | failing (detail : String)
  deriving DecidableEq, Repr

/-- The surroundings of the service. -/
structure ServiceSettings where
  /-- How requesters are identified. -/
  auth : AuthSettings
  /-- How deep the values of a request may nest. -/
  bodyDepth : Nat
  /-- How deep the values of a plan may nest. -/
  limits : DepthLimits
  /-- Whether there is a client that stores flows. -/
  hasStore : Bool
  /-- Whether the database answers. -/
  health : DatabaseHealth
  /-- The origins whose pages may use the service. -/
  origins : List String
  /-- The times at which rows are stored. -/
  now : Nat → String
  /-- The model's answers. -/
  replies : Nat → CompletionReply
  /-- The database's answers. -/
  inserts : Nat → InsertReply

/-- What came of a request to the service. -/
structure ServiceOutcome where
  /-- The response. -/
  response : HttpResponse
  /-- The origin that may read it, if it is named. -/
  allowOrigin : Option String := none
  /-- What has left the service. -/
  world : World := {}

/-- A response that states a detail. -/
def HttpResponse.detail (status : Nat) (detail : String) : HttpResponse :=
  ⟨status, .json (.obj [("detail", .text detail)])⟩

/-- The response to a request whose handling ended in a fault. -/
def HttpResponse.broken : HttpResponse :=
  ⟨500, .text "Internal Server Error"⟩

/-- The response to a request with defects in its body. -/
def HttpResponse.unprocessable (ds : List Defect) : HttpResponse :=
  ⟨422, .defects (ds.map fun d => { d with path := .key "body" :: d.path })⟩

/-- The request for a flow that a body states. -/
def Payload.flowRequest : Payload → Checked FlowRequest
  | .empty => .fail .missing
  | .json v => FlowRequest.readAs .notBodyObject v
  | .other => .fail .notBodyObject

/-- The response to a body with defects. It shows the parts in which they are found, and breaks off
where one cannot be sent. -/
def Payload.rejection (payload : Payload) (ds : List Defect) : HttpResponse :=
  match payload with
  | .json v => if ds.all fun d => (d.part v).isSendable then .unprocessable ds else .broken
  | _ => .unprocessable ds

/-- Whether a text of a plan can be sent as a build shows it. The build takes over what a string
states; any other value it spells out. -/
def Json.showsSendably : Json → Bool
  | .string s => (Glyph.chars? s).isSome
  | _ => true

/-- The values of a reply's plan that the transcript of its build may show: the name of the flow,
and the subjects of the emails in their order. -/
def shownTexts (limits : DepthLimits) (reply : Option String) : Option (Json × List Json) :=
  match locateObject limits.search reply, Plan.ofReply limits reply with
  | .ok located, .ok _ =>
    let entries := match planEntries limits located.value with
      | .ok entries => (orderedEntries entries.val).toOption.getD []
      | .error _ => []
    some (located.value.fieldD "flowName", entries.map (·.fieldD "subject"))
  | _, _ => none

/-- The replies for emails that have been kept, in their order. -/
def keptReplies : List Exchange → List (Option String)
  | .generated _ (.ok reply) :: .created _ (.ok _) :: r => reply :: keptReplies r
  | _ :: r => keptReplies r
  | [] => []

/-- Whether the transcript of a compiled request can be sent. The first exchange is for its plan,
from which the transcript has the name of the flow, and the subject of each email that was written
without one. -/
def Outcome.isSendable (limits : DepthLimits) (outcome : Outcome World) : Bool :=
  match outcome.exchanges with
  | .generated _ (.ok reply) :: rest =>
    match shownTexts limits reply with
    | some (name, subjects) =>
      name.showsSendably && ((keptReplies rest).zip subjects).all fun (reply, subject) =>
        !(EmailContent.ofReply reply "").subjectFallback || subject.showsSendably
    | none => true
  | _ => true

/-- The response to a compiled request. -/
def compiledResponse (limits : DepthLimits) (outcome : Outcome World) : HttpResponse :=
  match outcome.answer with
  | .ok transcript =>
    if outcome.isSendable limits then ⟨200, .json (FlowResponse.mk transcript).toJson⟩ else .broken
  | .error _ => .broken

/-- Serves a request for a flow. -/
def serveFlow (settings : ServiceSettings) (r : HttpRequest) : HttpResponse × World :=
  match r.payload settings.bodyDepth with
  | .error (.notJson position) => (.unprocessable [⟨.notJson, [.index position]⟩], {})
  | .error .unreadable => (.detail 400 "There was an error parsing the body", {})
  | .ok payload =>
    match (authenticate settings.auth (r.header? "authorization")).answer with
    | .error (.error refusal) => (.detail 401 refusal.message, {})
    | .error (.fault _) => (.broken, {})
    | .ok user =>
      if !settings.hasStore then (.detail 503 "Flow storage is not configured", {})
      else match payload.flowRequest with
        | .bad ds => (payload.rejection ds, {})
        | .ok request =>
          let services := numberedServices settings.limits.display settings.now settings.replies
            settings.inserts
          let history := (request.history.getD []).map Turn.entry
          let outcome := compile settings.limits services request.message user history {}
          (compiledResponse settings.limits outcome, outcome.world)

/-- The response about the state of the database. -/
def healthResponse : DatabaseHealth → HttpResponse
  | .noClient => .detail 503
      "Database client unavailable: SUPABASE_SERVICE_KEY is not configured"
  | .reachable => ⟨200, .json (.obj [("status", .text "ok"), ("database", .text "reachable")])⟩
  | .failing detail => .detail 503 ("Database connection failed: " ++ detail)

/-- Serves a request that has reached a route. -/
def serveRoute (settings : ServiceSettings) (r : HttpRequest) (route : Route) :
    HttpResponse × World :=
  if r.method ∉ route.methods then (.detail 405 "Method Not Allowed", {})
  else match route with
    -- what these pages show is not part of the service proper
    | .schema | .explorer | .explorerSignIn | .reference => (⟨200, .text ""⟩, {})
    | .root =>
      (⟨200, .json (.obj [("message", .text "Flow Builder API"), ("version", .text "0.1.0")])⟩, {})
    | .health => (⟨200, .json (.obj [("status", .text "ok")])⟩, {})
    | .databaseHealth => (healthResponse settings.health, {})
    | .flows => serveFlow settings r

/-- Serves a request by its path. A path without a route is redirected if the one that it means has
one. -/
def servePath (settings : ServiceSettings) (r : HttpRequest) : HttpResponse × World :=
  match Route.ofPath? r.path with
  | some route => serveRoute settings r route
  | none =>
    if (Route.ofPath? (Route.otherPath r.path)).isSome then (⟨307, .text ""⟩, {})
    else (.detail 404 "Not Found", {})

/-- The origin that may read a response. A response to a fault names none. -/
def allowedOrigin (settings : ServiceSettings) (r : HttpRequest) (response : HttpResponse) :
    Option String :=
  (r.header? "origin").filter fun origin => origin ∈ settings.origins ∧ response.status ≠ 500

/-- Serves a request. -/
def serve (settings : ServiceSettings) (r : HttpRequest) : ServiceOutcome :=
  match r.method, r.header? "origin", r.header? "access-control-request-method" with
  -- a browser asks before a page sends anything
  | "OPTIONS", some origin, some method =>
    let response := Origins.preflight settings.origins origin method
      (r.header? "access-control-request-private-network").isSome
    { response, allowOrigin := allowedOrigin settings r response }
  | _, _, _ =>
    let (response, world) := servePath settings r
    { response, allowOrigin := allowedOrigin settings r response, world }

end FlowBuilder
