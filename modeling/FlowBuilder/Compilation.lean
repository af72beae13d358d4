import FlowBuilder.Completion
import FlowBuilder.Content.Prompt
import FlowBuilder.Content.Sections
import FlowBuilder.Graph.Assembly
import FlowBuilder.Graph.Chain
import FlowBuilder.Plan.Location
import FlowBuilder.Plan.Prompt
import FlowBuilder.Store
import FlowBuilder.Transcript

/-!
# Compiling a request

From a request to a stored flow. The model is asked for a plan; the audience of the plan is kept as
a segment; each email is written by the model and kept as a template; the graph is assembled and
checked; the flow is kept as a draft. The requester is answered by the transcript of these stages.

The services outside are a parameter: `Collaborators σ` says how each call is answered in a state
`σ` of the world, and what state it leaves. A build keeps the calls that it has made, with their
answers, beside that state. Nothing is tried again or undone.
-/

namespace FlowBuilder

/-- The services on which a build calls, over states `σ` of the world. -/
structure Collaborators (σ : Type) where
  /-- The model's answer to a prompt. -/
  generate : String → σ → Except (Failure String) (Option String) × σ
  /-- The id under which something is kept. -/
  create : StoreCall → σ → Except (Failure String) String × σ

/-- A call with its answer. -/
inductive Exchange where
  /-- A prompt to the model. -/
  | generated (prompt : String) (answer : Except (Failure String) (Option String))
  /-- Something to keep. -/
  | created (call : StoreCall) (answer : Except (Failure String) String)

/-- How far a build has come. -/
structure Progress (σ : Type) where
  /-- The state of the world. -/
  world : σ
  /-- The calls so far, in order. -/
  exchanges : List Exchange := []
  /-- The transcript so far. -/
  lines : List String := []

/-- A stage of a build: it may fail, and what it has done until then stays done. -/
abbrev Build (σ : Type) := ExceptT (Failure BuildError) (StateM (Progress σ))

/-- The failure of a build by a failed call. -/
def callFailure (collaborator : Collaborator) : Failure String → Failure BuildError
  | .error detail => .error (.callFailed collaborator detail)
  | .fault f => .fault f

namespace Build

variable {σ : Type} (services : Collaborators σ)

/-- Adds lines to the transcript. -/
def say (lines : List String) : Build σ Unit :=
  modify fun p => { p with lines := p.lines ++ lines }

/-- Asks the model. -/
def generate (prompt : String) : Build σ (Option String) := do
  let p ← getThe (Progress σ)
  let (answer, world) := services.generate prompt p.world
  set { p with world, exchanges := p.exchanges ++ [Exchange.generated prompt answer] }
  ExceptT.mk (pure (answer.mapError (callFailure .textCompletion)))

/-- Keeps something. -/
def create (call : StoreCall) : Build σ String := do
  let p ← getThe (Progress σ)
  let (answer, world) := services.create call p.world
  set { p with world, exchanges := p.exchanges ++ [Exchange.created call answer] }
  ExceptT.mk (pure (answer.mapError (callFailure .store)))

/-- Fails with a build error. -/
def stop {α : Type} (e : BuildError) : Build σ α :=
  throw (.error e)

/-- Keeps the audience of a plan as a segment, if its rule has conditions. -/
def registerAudience (plan : Plan) (rule : AudienceRule) (owner message : String) :
    Build σ TriggerAudience := do
  if rule.requiresSegment then
    let name := segmentName plan.flowName
    let id ← create services (.segment owner name (segmentDescription plan.flowName)
      rule.conditions (some message))
    return { segmentId := some id, segmentName := name, conditions := rule.conditions }
  else return {}

/-- Writes an email of a plan and keeps it as a template. -/
def writeStep (plan : Plan) (owner : String) (step : EmailStep) : Build σ WrittenStep := do
  let reply ← generate services (contentPrompt plan step)
  let content := EmailContent.ofReply reply step.subject
  let templateId ← create services (.template owner
    (plan.flowName ++ " - Email " ++ step.sequence.text) content.subject content.body
    plan.flowType.value step.purpose)
  let written : WrittenStep :=
    { sequence := step.sequence, delayDays := step.delayDays, subject := content.subject
      templateId }
  say (Transcript.emailScheduled written)
  return written

/-- Writes emails of a plan in order. -/
def writeSteps (plan : Plan) (owner : String) : List EmailStep → Build σ (List WrittenStep)
  | [] => return []
  | step :: r => do
    let written ← writeStep services plan owner step
    let rest ← writeSteps plan owner r
    return written :: rest

/-- Assembles and checks the graph of a plan. -/
def assembleGraph (plan : Plan) (audience : TriggerAudience) (steps : List WrittenStep) :
    Build σ FlowGraph := do
  match assemble plan audience steps with
  | .error e => stop e
  | .ok graph =>
    match graph.check with
    | .error defect => stop (.invalidGraph defect)
    | .ok () =>
      say (Transcript.assembled graph)
      return graph

/-- Builds the flow of a plan. -/
def buildFlow (plan : Plan) (message owner : String) : Build σ Unit := do
  say (Transcript.header plan)
  say Transcript.triggerStarted
  let rule := AudienceRule.resolve plan.flowType plan.triggerType
  let audience ← registerAudience services plan rule owner message
  say (Transcript.audienceResolved rule audience)
  say Transcript.contentStarted
  let steps ← writeSteps services plan owner plan.emails
  say Transcript.contentFinished
  let graph ← assembleGraph plan audience steps
  say Transcript.savingStarted
  let flow := FlowRecord.ofPlan plan audience graph
  let _ ← create services (.flow owner flow)
  say (Transcript.saved flow)
  say (Transcript.summary plan steps audience)

end Build

/-- What is answered where the reply holds no plan. -/
def guidanceMessage : String :=
  "I need more information to build this flow. Could you describe:\n" ++
  "- What type of email sequence? (welcome, win-back, etc.)\n" ++
  "- How many emails?\n" ++
  "- Who should receive it?"

/-- What is answered where the model cannot be asked for a plan. -/
def apologyMessage : String :=
  "Sorry, I encountered an error building your flow. Please try again."

/-- What came of a request. -/
structure Outcome (σ : Type) where
  /-- The answer to the requester. -/
  answer : Except Fault String
  /-- The state of the world afterwards. -/
  world : σ
  /-- The calls that were made, in order. -/
  exchanges : List Exchange

section

variable {σ : Type} (limits : DepthLimits) (services : Collaborators σ)

/-- The transcript of the build of a plan. A build that stops says so at its end. -/
def buildTranscript (plan : Plan) (message owner : String) (start : Progress σ) : Outcome σ :=
  match (Build.buildFlow services plan message owner).run.run start with
  | (.ok (), p) => ⟨.ok (Transcript.render p.lines), p.world, p.exchanges⟩
  | (.error (.error _), p) =>
    ⟨.ok (Transcript.render (p.lines ++ Transcript.failed Transcript.failureNotice)), p.world,
      p.exchanges⟩
  | (.error (.fault f), p) => ⟨.error f, p.world, p.exchanges⟩

/-- The answer to a request. -/
def compile (message owner : String) (history : List HistoryEntry) (world : σ) : Outcome σ :=
  let prompt := planPrompt message history
  let (reply, world) := services.generate prompt world
  let exchanges := [Exchange.generated prompt reply]
  match reply with
  | .error (.error _) => ⟨.ok apologyMessage, world, exchanges⟩
  | .error (.fault f) => ⟨.error f, world, exchanges⟩
  | .ok text =>
    match Plan.ofReply limits text with
    | .error (.error _) => ⟨.ok guidanceMessage, world, exchanges⟩
    | .error (.fault f) => ⟨.error f, world, exchanges⟩
    | .ok plan => buildTranscript services plan message owner { world, exchanges }

end

end FlowBuilder
