import FlowBuilder.Proofs.Compilation.Stage

/-!
# Builds in related worlds

A build sees the world only through the answers of the services. Where two services answer alike in
related worlds and leave related worlds behind (`Collaborators.Simulates`), a build that starts in
related worlds tells the same with both, and ends in related worlds.

* `Build.Agrees.bind`: two stages that agree, one after another.
* `Build.agrees_buildFlow`: so does the build of a plan.
* `compile_simulates`: so does a request.
-/

namespace FlowBuilder

variable {limits : DepthLimits} {σ τ α β : Type} {R : σ → τ → Prop} {services : Collaborators σ}
  {other : Collaborators τ}

/-- In related worlds two services give the same answers, and leave related worlds behind. -/
structure Collaborators.Simulates (R : σ → τ → Prop) (services : Collaborators σ)
    (other : Collaborators τ) : Prop where
  /-- The model replies alike. -/
  generate : ∀ prompt w v, R w v →
    (services.generate prompt w).1 = (other.generate prompt v).1 ∧
      R (services.generate prompt w).2 (other.generate prompt v).2
  /-- The store answers alike. -/
  create : ∀ call w v, R w v →
    (services.create call w).1 = (other.create call v).1 ∧
      R (services.create call w).2 (other.create call v).2

/-- Two builds have come equally far, in related worlds. -/
structure Progress.Related (R : σ → τ → Prop) (p : Progress σ) (q : Progress τ) : Prop where
  /-- The worlds are related. -/
  world : R p.world q.world
  /-- The same was told. -/
  lines : p.lines = q.lines

namespace Build

/-- Wherever two stages start equally far, they have the same result and end equally far. -/
def Agrees (R : σ → τ → Prop) (stage : Build σ α) (other : Build τ α) : Prop :=
  ∀ p q, Progress.Related R p q → (stage.run.run p).1 = (other.run.run q).1 ∧
    Progress.Related R (stage.run.run p).2 (other.run.run q).2

/-- Stages agree one after another. -/
theorem Agrees.bind {stage : Build σ α} {stage' : Build τ α} {next : α → Build σ β}
    {next' : α → Build τ β} (h : Agrees R stage stage')
    (hnext : ∀ a, Agrees R (next a) (next' a)) :
    Agrees R (stage >>= next) (stage' >>= next') := by
  intro p q hpq
  obtain ⟨hresult, hrelated⟩ := h p q hpq
  rw [run_bind, run_bind]
  rcases hrun : stage.run.run p with ⟨r, p'⟩
  rcases hrun' : stage'.run.run q with ⟨r', q'⟩
  rw [hrun, hrun'] at hresult hrelated
  obtain rfl : r = r' := hresult
  -- the second stages run just if the first ones, which agree, gave a value
  cases r with
  | error e => exact ⟨rfl, hrelated⟩
  | ok a => exact hnext a p' q' hrelated

theorem agrees_pure (a : α) : Agrees R (pure a : Build σ α) (pure a) :=
  fun _ _ hpq => ⟨rfl, hpq⟩

theorem agrees_stop (e : BuildError) : Agrees R (stop e : Build σ α) (stop e) :=
  fun _ _ hpq => ⟨rfl, hpq⟩

theorem agrees_say (lines : List String) : Agrees R (say lines : Build σ Unit) (say lines) :=
  fun _ _ hpq => ⟨rfl, hpq.world, congrArg (· ++ lines) hpq.lines⟩

/-- Prompts agree, as the services answer alike. -/
theorem agrees_generate (h : Collaborators.Simulates R services other) (prompt : String) :
    Agrees R (generate services prompt) (generate other prompt) := by
  intro p q hpq
  obtain ⟨hanswer, hworld⟩ := h.generate prompt p.world q.world hpq.world
  exact ⟨congrArg (·.mapError (callFailure .textCompletion)) hanswer, hworld, hpq.lines⟩

/-- Calls to the store agree, as the services answer alike. -/
theorem agrees_create (h : Collaborators.Simulates R services other) (call : StoreCall) :
    Agrees R (create services call) (create other call) := by
  intro p q hpq
  obtain ⟨hanswer, hworld⟩ := h.create call p.world q.world hpq.world
  exact ⟨congrArg (·.mapError (callFailure .store)) hanswer, hworld, hpq.lines⟩

/-! ### The stages of a build -/

/-- The stage of the audience agrees. -/
theorem agrees_registerAudience (h : Collaborators.Simulates R services other) (plan : Plan)
    (rule : AudienceRule) (owner message : String) :
    Agrees R (registerAudience services plan rule owner message)
      (registerAudience other plan rule owner message) := by
  unfold registerAudience
  split
  · exact (agrees_create h _).bind fun id => agrees_pure _
  · exact agrees_pure _

/-- The stage of one email agrees. -/
theorem agrees_writeStep (h : Collaborators.Simulates R services other) (plan : Plan)
    (owner : String) (step : EmailStep) :
    Agrees R (writeStep services plan owner step) (writeStep other plan owner step) :=
  (agrees_generate h _).bind fun _ => (agrees_create h _).bind fun _ =>
    (agrees_say _).bind fun _ => agrees_pure _

/-- The stages of several emails agree. -/
theorem agrees_writeSteps (h : Collaborators.Simulates R services other) (plan : Plan)
    (owner : String) (steps : List EmailStep) :
    Agrees R (writeSteps services plan owner steps) (writeSteps other plan owner steps) := by
  induction steps with
  | nil => exact agrees_pure []
  | cons step r ih =>
    exact (agrees_writeStep h plan owner step).bind fun _ => ih.bind fun _ => agrees_pure _

/-- Assembling a graph agrees, as no service is called. -/
theorem agrees_assembleGraph (plan : Plan) (audience : TriggerAudience)
    (steps : List WrittenStep) :
    Agrees R (assembleGraph plan audience steps : Build σ FlowGraph)
      (assembleGraph plan audience steps) := by
  -- nothing outside is asked, so that both stop or go on for the same reason
  unfold assembleGraph
  split
  · exact agrees_stop _
  · split
    · exact agrees_stop _
    · exact (agrees_say _).bind fun _ => agrees_pure _

/-- A whole build agrees. -/
theorem agrees_buildFlow (h : Collaborators.Simulates R services other) (plan : Plan)
    (message owner : String) :
    Agrees R (buildFlow services plan message owner) (buildFlow other plan message owner) :=
  (agrees_say _).bind fun _ => (agrees_say _).bind fun _ =>
    (agrees_registerAudience h plan _ owner message).bind fun audience =>
      (agrees_say _).bind fun _ => (agrees_say _).bind fun _ =>
        (agrees_writeSteps h plan owner _).bind fun steps => (agrees_say _).bind fun _ =>
          (agrees_assembleGraph plan audience steps).bind fun _ => (agrees_say _).bind fun _ =>
            (agrees_create h _).bind fun _ => (agrees_say _).bind fun _ => agrees_say _

end Build

/-! ### Requests -/

/-- Builds that start alike end with the same transcript, in related worlds. -/
theorem buildTranscript_simulates (h : Collaborators.Simulates R services other) (plan : Plan)
    (message owner : String) {p : Progress σ} {q : Progress τ} (hpq : Progress.Related R p q) :
    (buildTranscript services plan message owner p).answer =
        (buildTranscript other plan message owner q).answer ∧
      R (buildTranscript services plan message owner p).world
        (buildTranscript other plan message owner q).world := by
  obtain ⟨hresult, hrelated⟩ := Build.agrees_buildFlow h plan message owner p q hpq
  rw [buildTranscript, buildTranscript]
  rcases hrun : (Build.buildFlow services plan message owner).run.run p with ⟨r, p'⟩
  rcases hrun' : (Build.buildFlow other plan message owner).run.run q with ⟨r', q'⟩
  rw [hrun, hrun'] at hresult hrelated
  obtain rfl : r = r' := hresult
  have hworld : R p'.world q'.world := hrelated.world
  have hlines : p'.lines = q'.lines := hrelated.lines
  -- the answer is made of the result and of the lines, which are the same
  match r with
  | .ok () => simp only [hlines, hworld, and_self]
  | .error (.error _) => simp only [hlines, hworld, and_self]
  | .error (.fault f) => exact ⟨rfl, hworld⟩

/-- A request that is served in related worlds by services that answer alike there is answered
alike, and leaves related worlds behind. -/
theorem compile_simulates (h : Collaborators.Simulates R services other) (message owner : String)
    (history : List HistoryEntry) {w : σ} {v : τ} (hwv : R w v) :
    (compile limits services message owner history w).answer =
        (compile limits other message owner history v).answer ∧
      R (compile limits services message owner history w).world
        (compile limits other message owner history v).world := by
  obtain ⟨hreply, hworld⟩ := h.generate (planPrompt message history) w v hwv
  rw [compile, compile]
  rcases hasked : services.generate (planPrompt message history) w with ⟨reply, w'⟩
  rcases hasked' : other.generate (planPrompt message history) v with ⟨reply', v'⟩
  rw [hasked, hasked'] at hreply hworld
  obtain rfl : reply = reply' := hreply
  -- equal replies and equal readings: only the compilation of a plan asks for anything more
  match reply with
  | .error (.error _) => exact ⟨rfl, hworld⟩
  | .error (.fault f) => exact ⟨rfl, hworld⟩
  | .ok text =>
    simp only
    match Plan.ofReply limits text with
    | .error (.error _) => exact ⟨rfl, hworld⟩
    | .error (.fault f) => exact ⟨rfl, hworld⟩
    | .ok plan => exact buildTranscript_simulates h plan message owner ⟨hworld, rfl⟩

end FlowBuilder
