import FlowBuilder.Proofs.Session.Rows
import FlowBuilder.Service.Api

/-!
# Effects of the service

The service asks the model and hands rows to the database for one kind of request only: one for a
flow that has passed all checks (`HttpRequest.Admitted`). Whatever else it is asked leaves nothing
behind.

* `admitted_or_world_eq`: a request is admitted, or nothing leaves the service.
* `serve_of_admitted`: an admitted request is compiled for its sender.
* `serve_touches_admitted`: which requests have an effect, for whom, and which statuses say that
  there was none.
-/

namespace FlowBuilder

/-- A prompt was sent or a row handed over. -/
def World.IsTouched (w : World) : Prop :=
  w.prompts ≠ [] ∨ w.rows ≠ []

/-- A request to the service has passed all checks: it reaches the route of requests for flows, its
body is such a request, its sender is known, and flows can be stored. -/
structure HttpRequest.Admitted (settings : ServiceSettings) (r : HttpRequest) (user : String)
    (request : FlowRequest) : Prop where
  /-- The method is the one of the route. -/
  method : r.method = "POST"
  /-- The path is the one of the route, perhaps with a line break at its end. -/
  path : r.path = "/api/agents/flows" ∨ r.path = "/api/agents/flows\n"
  /-- The body can be decoded and states the request. -/
  body : ∃ v, r.payload settings.bodyDepth = .ok (.json v) ∧
    FlowRequest.readAs .notBodyObject v = .ok request
  /-- The authorization header makes the user known. -/
  user : (authenticate settings.auth (r.header? "authorization")).answer = .ok user
  /-- There is a client that stores flows. -/
  store : settings.hasStore = true

/-- The model and the database that the service asks. -/
def ServiceSettings.services (settings : ServiceSettings) : Collaborators World :=
  numberedServices settings.limits.display settings.now settings.replies settings.inserts

/-- The conversation before a request. -/
def FlowRequest.entries (request : FlowRequest) : List HistoryEntry :=
  (request.history.getD []).map Turn.entry

/-- What comes of a request for a flow that is compiled for a user. -/
def ServiceSettings.outcome (settings : ServiceSettings) (user : String) (request : FlowRequest) :
    Outcome World :=
  compile settings.limits settings.services request.message user request.entries {}

variable {settings : ServiceSettings} {r : HttpRequest} {user : String} {request : FlowRequest}

/-! ### From the path to the checks -/

/-- The route of requests for flows has one path, perhaps with a line break at its end. -/
theorem Route.ofPath?_eq_flows_iff {path : String} :
    Route.ofPath? path = some .flows ↔
      path = "/api/agents/flows" ∨ path = "/api/agents/flows\n" := by
  constructor
  · intro h
    have hpath := List.find?_some h
    rwa [Bool.or_eq_true, decide_eq_true_iff, decide_eq_true_iff] at hpath
  · rintro (rfl | rfl) <;> rfl

/-- Only JSON states a request for a flow. -/
theorem Payload.flowRequest_eq_ok {payload : Payload} (h : payload.flowRequest = .ok request) :
    ∃ v, payload = .json v ∧ FlowRequest.readAs .notBodyObject v = .ok request := by
  match payload, h with
  | .json v, h => exact ⟨v, rfl, h⟩

/-- A request that has reached the route of requests for flows is compiled, or it fails a check and
leaves nothing behind. -/
theorem serveFlow_cases (settings : ServiceSettings) (r : HttpRequest) :
    (serveFlow settings r).2 = {} ∨ ∃ payload user request,
      r.payload settings.bodyDepth = .ok payload ∧
      (authenticate settings.auth (r.header? "authorization")).answer = .ok user ∧
      settings.hasStore = true ∧ payload.flowRequest = .ok request := by
  unfold serveFlow
  -- one case for each check that the request may fail, in their order
  split
  · exact .inl rfl
  · exact .inl rfl
  · next payload hpayload =>
    split
    · exact .inl rfl
    · exact .inl rfl
    · next user huser =>
      split
      · exact .inl rfl
      · next hstore =>
        split
        · exact .inl rfl
        · next request hrequest =>
          exact .inr ⟨payload, user, request, hpayload, huser, by simpa using hstore, hrequest⟩

/-- Only a request by the right method to the route of requests for flows leaves anything behind. -/
theorem servePath_cases (settings : ServiceSettings) (r : HttpRequest) :
    (servePath settings r).2 = {} ∨ r.method = "POST" ∧ Route.ofPath? r.path = some .flows ∧
      servePath settings r = serveFlow settings r := by
  unfold servePath
  split
  · next route hroute =>
    unfold serveRoute
    split
    · exact .inl rfl
    · next hmethod =>
      cases route with
      | flows => exact .inr ⟨List.mem_singleton.1 (not_not.1 hmethod), hroute, rfl⟩
      | schema | explorer | explorerSignIn | reference | root | health | databaseHealth =>
        exact .inl rfl
  · split <;> exact .inl rfl

/-- Nothing leaves the service before a page may send its request; any other request is served by
its path. -/
theorem serve_world_cases (settings : ServiceSettings) (r : HttpRequest) :
    (serve settings r).world = {} ∨ (serve settings r).world = (servePath settings r).2 := by
  unfold serve
  split
  · exact .inl rfl
  · exact .inr rfl

/-- A request is admitted, or nothing leaves the service. -/
theorem admitted_or_world_eq (settings : ServiceSettings) (r : HttpRequest) :
    (∃ user request, r.Admitted settings user request) ∨ (serve settings r).world = {} := by
  -- stage by stage, from the outermost inwards: what does not get past a stage has left nothing
  rcases serve_world_cases settings r with hworld | hworld
  · exact .inr hworld
  rcases servePath_cases settings r with hpath | ⟨hmethod, hroute, hpath⟩
  · exact .inr (hworld.trans hpath)
  rcases serveFlow_cases settings r with hflow | ⟨payload, user, request, hread, huser, hstore, hok⟩
  · exact .inr (hworld.trans ((congrArg Prod.snd hpath).trans hflow))
  -- what gets past all of them is admitted
  obtain ⟨v, rfl, hrequest⟩ := Payload.flowRequest_eq_ok hok
  exact .inl ⟨user, request, hmethod, Route.ofPath?_eq_flows_iff.1 hroute, ⟨v, hread, hrequest⟩,
    huser, hstore⟩

/-! ### Admitted requests -/

/-- An admitted request is compiled for its sender. -/
theorem serve_of_admitted (h : r.Admitted settings user request) :
    (serve settings r).response = compiledResponse settings.limits (settings.outcome user request) ∧
      (serve settings r).world = (settings.outcome user request).world := by
  obtain ⟨v, hpayload, hrequest⟩ := h.body
  have hflow : serveFlow settings r =
      (compiledResponse settings.limits (settings.outcome user request),
        (settings.outcome user request).world) := by
    have hok : (Payload.json v).flowRequest = .ok request := hrequest
    simp only [serveFlow, hpayload, h.user, h.store, hok]
    rfl
  have hpath : servePath settings r = serveFlow settings r := by
    have hmethod : ¬ r.method ∉ Route.flows.methods :=
      not_not.2 (List.mem_singleton.2 h.method)
    simp only [servePath, Route.ofPath?_eq_flows_iff.2 h.path, serveRoute, if_neg hmethod]
  unfold serve
  split
  -- a browser's question before a request is sent by another method
  · next hmethod _ _ => exact absurd (h.method.symm.trans hmethod) (by decide)
  · exact ⟨congrArg Prod.fst (hpath.trans hflow), congrArg Prod.snd (hpath.trans hflow)⟩

/-- Every request sends a prompt. -/
theorem Account.promptsOf_ne_nil {message owner : String} {history : List HistoryEntry}
    {reply : Except (Failure String) (Option String)} {answer : Except Fault String}
    {exchanges : List Exchange} {limits : DepthLimits}
    (h : Account limits message owner history reply answer exchanges) :
    promptsOf exchanges ≠ [] := by
  -- the plan prompt is always the first of the exchanges
  cases h <;> exact List.cons_ne_nil _ _

/-- Whatever is compiled, the model is asked for a plan. -/
theorem prompts_outcome_ne_nil (settings : ServiceSettings) (user : String)
    (request : FlowRequest) : (settings.outcome user request).world.prompts ≠ [] := by
  have haccount : settings.services.Answers {} (settings.outcome user request).exchanges
        (settings.outcome user request).world ∧
      Account settings.limits request.message user request.entries _
        (settings.outcome user request).answer (settings.outcome user request).exchanges :=
    compile_account settings.services request.message user request.entries {}
  rw [prompts_of_answers haccount.1]
  exact haccount.2.promptsOf_ne_nil

/-- The rows of a compiled request are owned by its sender. -/
theorem owned_of_mem_outcome {row : Row}
    (hrow : row ∈ (settings.outcome user request).world.rows) :
    row.content.field? "user_id" = some (.text user) := by
  have hrows : ∃ rows, (settings.outcome user request).world.rows = [] ++ rows ∧
      OwnRows settings.limits.display settings.now settings.inserts user 0 rows :=
    ownRows_compile request.message user request.entries {}
  obtain ⟨rows, heq, hown⟩ := hrows
  rw [heq, List.nil_append] at hrow
  exact hown.owned row hrow

/-- A compiled request is answered, or its handling has broken down. -/
theorem status_compiledResponse (limits : DepthLimits) (outcome : Outcome World) :
    (compiledResponse limits outcome).status = 200 ∨
      (compiledResponse limits outcome).status = 500 := by
  unfold compiledResponse
  split
  · split
    · exact .inl rfl
    · exact .inr rfl
  · exact .inr rfl

/-! ### Effects -/

/-- Just the admitted requests have an effect. -/
theorem isTouched_serve_iff :
    (serve settings r).world.IsTouched ↔ ∃ user request, r.Admitted settings user request := by
  constructor
  · intro htouched
    refine (admitted_or_world_eq settings r).resolve_right fun hworld => ?_
    rw [hworld] at htouched
    exact htouched.elim (absurd rfl) (absurd rfl)
  · rintro ⟨user, request, h⟩
    rw [(serve_of_admitted h).2]
    exact .inl (prompts_outcome_ne_nil settings user request)

/-- The service asks the model or hands a row to the database just for a request that passes all
checks, and each such row is owned by the user who is known to have sent the request. A response
with the status of a failed check comes with no effect. -/
theorem serve_touches_admitted (settings : ServiceSettings) (r : HttpRequest) :
    ((serve settings r).world.IsTouched ↔ ∃ user request, r.Admitted settings user request ∧
      ∀ row ∈ (serve settings r).world.rows,
        row.content.field? "user_id" = some (.text user)) ∧
    ((serve settings r).response.status ∈ [401, 404, 405, 422, 503] →
      (serve settings r).world.prompts = [] ∧ (serve settings r).world.rows = []) := by
  refine ⟨⟨fun htouched => ?_, fun ⟨user, request, h, _⟩ => isTouched_serve_iff.2 ⟨_, _, h⟩⟩, ?_⟩
  · obtain ⟨user, request, h⟩ := isTouched_serve_iff.1 htouched
    refine ⟨user, request, h, fun row hrow => ?_⟩
    rw [(serve_of_admitted h).2] at hrow
    exact owned_of_mem_outcome hrow
  · intro hstatus
    rcases admitted_or_world_eq settings r with ⟨user, request, h⟩ | hworld
    · -- what is admitted is not answered by any of these
      rw [(serve_of_admitted h).1] at hstatus
      have hcompiled := status_compiledResponse settings.limits (settings.outcome user request)
      rcases hcompiled with h200 | h500
      · rw [h200] at hstatus
        exact absurd hstatus (by decide)
      · rw [h500] at hstatus
        exact absurd hstatus (by decide)
    · rw [hworld]
      exact ⟨rfl, rfl⟩

/-- A service that knows everyone for Ada, and whose model always replies with the same plan. -/
def adaService : ServiceSettings where
  auth := ⟨none, 0, 990, fun _ => .user "ada"⟩
  bodyDepth := 990
  limits := .standard
  hasStore := true
  health := .reachable
  origins := []
  now := ticks
  replies _ := .ok [some greetingReply]
  inserts := numberRows

/-- A request for a flow, sent to a path with an authorization header. -/
def greetingRequest (path credentials : String) : HttpRequest where
  method := "POST"
  path := path
  headers := [("authorization", Text.utf8Bytes credentials.toList),
    ("content-type", Text.utf8Bytes "application/json".toList)]
  body := Text.utf8Bytes "\x7b\"message\": \"Greet new customers\"\x7d".toList

/-- A request that has sent two prompts leaves something behind. -/
theorem isTouched_greetingRequest (path : String)
    (h : (serve adaService (greetingRequest path "Bearer tok")).world.prompts.length = 2) :
    (serve adaService (greetingRequest path "Bearer tok")).world.IsTouched := by
  refine .inl fun hnil => ?_
  rw [hnil] at h
  cases h

/-- A request with a token is admitted, and its rows are its sender's; one with anything else in the
place of a token has no effect. -/
theorem serve_greetingRequest :
    (∃ user request, (greetingRequest "/api/agents/flows" "Bearer tok").Admitted adaService user
        request ∧
      ∀ row ∈ (serve adaService (greetingRequest "/api/agents/flows" "Bearer tok")).world.rows,
        row.content.field? "user_id" = some (.text user)) ∧
    (serve adaService (greetingRequest "/api/agents/flows" "tok")).world.prompts = [] ∧
    (serve adaService (greetingRequest "/api/agents/flows" "tok")).world.rows = [] := by
  have htouched := isTouched_greetingRequest "/api/agents/flows" (by decide +kernel)
  refine ⟨(serve_touches_admitted adaService _).1.1 htouched,
    (serve_touches_admitted adaService _).2 ?_⟩
  decide +kernel

/-- A line break at the end of the path does not keep the service from asking the model. -/
theorem serve_linebreak_touches :
    ¬ ∀ (settings : ServiceSettings) (r : HttpRequest), (serve settings r).world.IsTouched →
      r.path = "/api/agents/flows" ∧ ∃ user request, r.Admitted settings user request ∧
        ∀ row ∈ (serve settings r).world.rows,
          row.content.field? "user_id" = some (.text user) := by
  intro h
  have htouched := isTouched_greetingRequest "/api/agents/flows\n" (by decide +kernel)
  exact absurd (h _ _ htouched).1 (by decide)

end FlowBuilder
