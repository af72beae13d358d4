import FlowBuilder.Proofs.Compilation.Stage
import FlowBuilder.Proofs.Graph.Assembled

/-!
# Histories of builds

All that a build can come to. A build registers the audience of its plan, writes the emails one by
one and stores the flow, and stops at the first call that fails: `Build.History` has one constructor
for each place where it can stop, and one for a finished build. Assembling and checking are no such
place, as the graph of written emails is a chain.

* `Build.meets_writeSteps`: the emails are written and kept in order, up to the first attempt that
  fails.
* `Build.meets_buildFlow`: every build has a history.
-/

namespace FlowBuilder

/-! ### What a build calls for -/

/-- The audience rule of a plan. -/
def Plan.rule (plan : Plan) : AudienceRule :=
  AudienceRule.resolve plan.flowType plan.triggerType

/-- Just the flows that a segment triggers have an audience to keep. -/
theorem requiresSegment_rule (plan : Plan) :
    plan.rule.requiresSegment = decide (plan.triggerType = .segmentAdded) := by
  rw [Plan.rule]
  cases plan.triggerType <;> cases plan.flowType <;> rfl

/-- The segment of a plan. -/
def segmentCall (plan : Plan) (message owner : String) : StoreCall :=
  .segment owner (segmentName plan.flowName) (segmentDescription plan.flowName)
    plan.rule.conditions (some message)

/-- The audience of a plan whose segment, if it has one, is kept under the given id. -/
def Plan.audience (plan : Plan) (segmentId : String) : TriggerAudience :=
  if plan.triggerType = .segmentAdded then
    { segmentId := some segmentId, segmentName := segmentName plan.flowName,
      conditions := plan.rule.conditions }
  else {}

/-- The exchange that keeps the segment of a plan, if it has one. -/
def segmentExchanges (plan : Plan) (message owner segmentId : String) : List Exchange :=
  if plan.triggerType = .segmentAdded then
    [.created (segmentCall plan message owner) (.ok segmentId)]
  else []

/-- The template of an email. -/
def templateCall (plan : Plan) (owner : String) (step : EmailStep) (content : EmailContent) :
    StoreCall :=
  .template owner (plan.flowName ++ " - Email " ++ toString step.sequence.val) content.subject
    content.body plan.flowType.value step.purpose

/-- An email that has been written and kept. -/
structure Draft where
  /-- The planned email. -/
  step : EmailStep
  /-- The model's reply. -/
  reply : Option String
  /-- The id of its template. -/
  templateId : String

namespace Draft

/-- The email that the reply holds. -/
def content (draft : Draft) : EmailContent :=
  EmailContent.ofReply draft.reply draft.step.subject

/-- The email as the graph takes it up. -/
def written (draft : Draft) : WrittenStep where
  sequence := draft.step.sequence
  delayDays := draft.step.delayDays
  subject := draft.content.subject
  templateId := draft.templateId

/-- The exchanges by which the email came about. -/
def exchanges (plan : Plan) (owner : String) (draft : Draft) : List Exchange :=
  [.generated (contentPrompt plan draft.step) (.ok draft.reply),
    .created (templateCall plan owner draft.step draft.content) (.ok draft.templateId)]

/-- The lines that tell of the email. -/
def lines (draft : Draft) : List String :=
  Transcript.emailScheduled draft.written

end Draft

/-- The record of a plan with a kept audience and kept emails. -/
def Plan.record (plan : Plan) (segmentId : String) (drafts : List Draft) : FlowRecord :=
  FlowRecord.ofPlan plan (plan.audience segmentId)
    (assembledGraph plan.triggerType (plan.audience segmentId) (drafts.map (·.written)))

/-! ### Histories -/

namespace Build

/-- An email that was not finished: the exchanges of the attempt, and the failure at its end. -/
inductive Attempt (plan : Plan) (owner : String) (step : EmailStep) :
    List Exchange → Failure BuildError → Prop
  /-- The model does not write it. -/
  | unwritten (e : Failure String) :
      Attempt plan owner step [.generated (contentPrompt plan step) (.error e)]
        (callFailure .textCompletion e)
  /-- The store does not take it. -/
  | unkept (reply : Option String) (e : Failure String) :
      Attempt plan owner step
        [.generated (contentPrompt plan step) (.ok reply),
          .created (templateCall plan owner step (EmailContent.ofReply reply step.subject))
            (.error e)]
        (callFailure .store e)

/-- The lines before the audience is kept. -/
def openingLines (plan : Plan) : List String :=
  Transcript.header plan ++ Transcript.triggerStarted

/-- The lines up to the first email. -/
def audienceLines (plan : Plan) (segmentId : String) : List String :=
  openingLines plan ++ Transcript.audienceResolved plan.rule (plan.audience segmentId) ++
    Transcript.contentStarted

/-- The lines up to the storing of the flow. -/
def savingLines (plan : Plan) (segmentId : String) (drafts : List Draft) : List String :=
  audienceLines plan segmentId ++ drafts.flatMap (·.lines) ++ Transcript.contentFinished ++
    Transcript.assembled (plan.record segmentId drafts).graph ++ Transcript.savingStarted

/-- The lines that close a finished build. -/
def closingLines (plan : Plan) (segmentId : String) (drafts : List Draft) : List String :=
  Transcript.saved (plan.record segmentId drafts) ++
    Transcript.summary plan (drafts.map (·.written)) (plan.audience segmentId)

/-- What a build of a plan can come to: its result, its exchanges and its lines. -/
inductive History (plan : Plan) (message owner : String) :
    Except (Failure BuildError) Unit → List Exchange → List String → Prop
  /-- The store does not take the segment. -/
  | withoutSegment (e : Failure String) (h : plan.triggerType = .segmentAdded) :
      History plan message owner (.error (callFailure .store e))
        [.created (segmentCall plan message owner) (.error e)] (openingLines plan)
  /-- An email is not finished. -/
  | withoutEmail (segmentId : String) (drafts : List Draft) (step : EmailStep)
      (rest : List EmailStep) (attempt : List Exchange) (f : Failure BuildError)
      (hsteps : plan.emails = drafts.map (·.step) ++ step :: rest)
      (hattempt : Attempt plan owner step attempt f) :
      History plan message owner (.error f)
        (segmentExchanges plan message owner segmentId ++ drafts.flatMap (·.exchanges plan owner) ++
          attempt)
        (audienceLines plan segmentId ++ drafts.flatMap (·.lines))
  /-- The store does not take the flow. -/
  | withoutFlow (segmentId : String) (drafts : List Draft) (e : Failure String)
      (hsteps : plan.emails = drafts.map (·.step)) :
      History plan message owner (.error (callFailure .store e))
        (segmentExchanges plan message owner segmentId ++ drafts.flatMap (·.exchanges plan owner) ++
          [.created (.flow owner (plan.record segmentId drafts)) (.error e)])
        (savingLines plan segmentId drafts)
  /-- The flow is stored. -/
  | finished (segmentId : String) (drafts : List Draft) (flowId : String)
      (hsteps : plan.emails = drafts.map (·.step)) :
      History plan message owner (.ok ())
        (segmentExchanges plan message owner segmentId ++ drafts.flatMap (·.exchanges plan owner) ++
          [.created (.flow owner (plan.record segmentId drafts)) (.ok flowId)])
        (savingLines plan segmentId drafts ++ closingLines plan segmentId drafts)

variable {σ : Type} {services : Collaborators σ}

/-- The audience is kept, or the store does not take the segment. -/
theorem meets_registerAudience (plan : Plan) (message owner : String) :
    Meets services (registerAudience services plan plan.rule owner message)
      fun r exchanges lines => lines = [] ∧
        ((∃ segmentId, r = .ok (plan.audience segmentId) ∧
            exchanges = segmentExchanges plan message owner segmentId) ∨
          ∃ e, r = .error (callFailure .store e) ∧ plan.triggerType = .segmentAdded ∧
            exchanges = [.created (segmentCall plan message owner) (.error e)]) := by
  rw [registerAudience, requiresSegment_rule]
  by_cases h : plan.triggerType = .segmentAdded
  · rw [if_pos (decide_eq_true h)]
    refine meets_create_bind (fun segmentId => meets_pure ⟨rfl, Or.inl ⟨segmentId, ?_, ?_⟩⟩)
      fun e => ⟨rfl, Or.inr ⟨e, rfl, h, rfl⟩⟩
    · rw [Plan.audience, if_pos h]
    · rw [segmentExchanges, if_pos h]
      rfl
  · rw [if_neg (by simpa using h)]
    -- there is no segment, so that any id will do
    refine meets_pure ⟨rfl, Or.inl ⟨"", ?_, ?_⟩⟩
    · rw [Plan.audience, if_neg h]
    · rw [segmentExchanges, if_neg h]

/-- An email is written and kept, or the attempt fails. -/
theorem meets_writeStep (plan : Plan) (owner : String) (step : EmailStep) :
    Meets services (writeStep services plan owner step) fun r exchanges lines =>
      (∃ draft : Draft, draft.step = step ∧ r = .ok draft.written ∧
          exchanges = draft.exchanges plan owner ∧ lines = draft.lines) ∨
        ∃ f, r = .error f ∧ Attempt plan owner step exchanges f ∧ lines = [] := by
  refine meets_generate_bind (fun reply => ?_) fun e => Or.inr ⟨_, rfl, .unwritten e, rfl⟩
  refine meets_create_bind (fun templateId => ?_) fun e => Or.inr ⟨_, rfl, .unkept reply e, rfl⟩
  refine meets_say_bind (meets_pure (Or.inl ⟨⟨step, reply, templateId⟩, rfl, rfl, rfl, ?_⟩))
  exact List.append_nil _

/-- Emails are written and kept in order, up to the first attempt that fails. -/
theorem meets_writeSteps (plan : Plan) (owner : String) (steps : List EmailStep) :
    Meets services (writeSteps services plan owner steps) fun r exchanges lines =>
      (∃ drafts : List Draft, steps = drafts.map (·.step) ∧ r = .ok (drafts.map (·.written)) ∧
          exchanges = drafts.flatMap (·.exchanges plan owner) ∧ lines = drafts.flatMap (·.lines)) ∨
        ∃ (drafts : List Draft) (step : EmailStep) (rest : List EmailStep)
          (attempt : List Exchange) (f : Failure BuildError),
          steps = drafts.map (·.step) ++ step :: rest ∧ Attempt plan owner step attempt f ∧
            r = .error f ∧ exchanges = drafts.flatMap (·.exchanges plan owner) ++ attempt ∧
            lines = drafts.flatMap (·.lines) := by
  induction steps with
  | nil => exact meets_pure (Or.inl ⟨[], rfl, rfl, rfl, rfl⟩)
  | cons step r ih =>
    rw [writeSteps]
    refine (meets_writeStep plan owner step).bind ?_ ?_
    · rintro written exchanges lines (⟨draft, rfl, hr, rfl, rfl⟩ | ⟨f, hr, -, -⟩)
      · cases hr
        -- the first email is a draft, and stands before whatever becomes of the others
        refine ih.bind ?_ ?_
        · rintro rest _ _ (⟨drafts, rfl, hr, rfl, rfl⟩ | ⟨_, _, _, _, _, _, _, hr, _, _⟩)
          · cases hr
            exact meets_pure (Or.inl ⟨draft :: drafts, by simp⟩)
          · cases hr
        · rintro f _ _ (⟨_, _, hr, _, _⟩ | ⟨drafts, step, rest, attempt, _, rfl, ha, hr, rfl, rfl⟩)
          · cases hr
          · cases hr
            exact Or.inr ⟨draft :: drafts, step, rest, attempt, f, by simp, ha, by simp⟩
      · cases hr
    · rintro f exchanges lines (⟨_, _, hr, _, _⟩ | ⟨_, hr, ha, rfl⟩)
      · cases hr
      · cases hr
        -- the others are not tried
        exact Or.inr ⟨[], step, r, exchanges, f, rfl, ha, rfl, rfl, rfl⟩

/-- The graph of some emails is assembled, and passes the check. -/
theorem meets_assembleGraph (plan : Plan) (audience : TriggerAudience) {steps : List WrittenStep}
    (h : steps ≠ []) :
    Meets services (assembleGraph plan audience steps : Build σ FlowGraph)
      fun r exchanges lines =>
        r = .ok (assembledGraph plan.triggerType audience steps) ∧ exchanges = [] ∧
          lines = Transcript.assembled (assembledGraph plan.triggerType audience steps) := by
  -- what the checker asks of a graph holds of every assembled one
  have hcheck := FlowGraph.check_of_isChain
    (isChain_assembledGraph plan.triggerType audience steps)
  rw [assembleGraph, assemble_eq_ok h]
  simp only [hcheck]
  exact meets_say_bind (meets_pure ⟨rfl, rfl, List.append_nil _⟩)

/-- After the emails are written, only the storing of the flow can fail. -/
theorem meets_afterEmails {plan : Plan} (message : String) {owner segmentId : String}
    {drafts : List Draft} (hsteps : plan.emails = drafts.map (·.step)) :
    Meets services (do
        say Transcript.contentFinished
        let graph ← assembleGraph plan (plan.audience segmentId) (drafts.map (·.written))
        say Transcript.savingStarted
        let flow := FlowRecord.ofPlan plan (plan.audience segmentId) graph
        let _ ← create services (.flow owner flow)
        say (Transcript.saved flow)
        say (Transcript.summary plan (drafts.map (·.written)) (plan.audience segmentId)))
      fun r exchanges lines => History plan message owner r
        (segmentExchanges plan message owner segmentId ++
          drafts.flatMap (·.exchanges plan owner) ++ exchanges)
        (audienceLines plan segmentId ++ drafts.flatMap (·.lines) ++ lines) := by
  -- a plan has an email, so that there is something to assemble
  have hsome : drafts.map (·.written) ≠ [] := by
    intro hnil
    apply plan.nonempty
    rw [hsteps, List.map_eq_nil_iff.1 hnil]
    rfl
  -- the second goal, that of a failed assembly, has no case
  refine meets_say_bind ((meets_assembleGraph plan (plan.audience segmentId) hsome).bind ?_ nofun)
  rintro graph _ _ ⟨hgraph, rfl, rfl⟩
  cases hgraph
  refine meets_say_bind (meets_create_bind (fun flowId => ?_) fun e => ?_)
  · have hhistory : History plan message owner _ _ _ :=
      .finished segmentId drafts flowId hsteps
    refine meets_say_bind (meets_say ?_)
    simpa [savingLines, closingLines, Plan.record, FlowRecord.ofPlan] using hhistory
  · have hhistory : History plan message owner _ _ _ := .withoutFlow segmentId drafts e hsteps
    simpa [savingLines, Plan.record, FlowRecord.ofPlan] using hhistory

/-- Every build has a history. -/
theorem meets_buildFlow (plan : Plan) (message owner : String) :
    Meets services (buildFlow services plan message owner) (History plan message owner) := by
  rw [buildFlow]
  refine meets_say_bind (meets_say_bind ?_)
  refine (meets_registerAudience plan message owner).bind ?_ ?_
  · rintro audience exchanges lines ⟨rfl, ⟨segmentId, hr, rfl⟩ | ⟨_, hr, _, _⟩⟩
    · cases hr
      -- the audience is kept, and the emails are written one by one
      refine meets_say_bind (meets_say_bind ?_)
      refine (meets_writeSteps plan owner plan.emails).bind ?_ ?_
      · rintro steps _ _ (⟨drafts, hsteps, hr, rfl, rfl⟩ | ⟨_, _, _, _, _, _, _, hr, _, _⟩)
        · cases hr
          refine (meets_afterEmails message hsteps).imp fun r exchanges lines hhistory => ?_
          simpa [audienceLines, openingLines, Plan.rule] using hhistory
        · cases hr
      · rintro f _ _ (⟨_, _, hr, _, _⟩ | ⟨drafts, step, rest, attempt, _, hsteps, ha, hr, rfl, rfl⟩)
        · cases hr
        · cases hr
          have hhistory : History plan message owner _ _ _ :=
            .withoutEmail segmentId drafts step rest attempt f hsteps ha
          simpa [audienceLines, openingLines, Plan.rule] using hhistory
    · cases hr
  · rintro f exchanges lines ⟨rfl, ⟨_, hr, _⟩ | ⟨e, hr, h, rfl⟩⟩
    · cases hr
    · cases hr
      have hhistory : History plan message owner _ _ _ := .withoutSegment e h
      simpa [openingLines] using hhistory

end Build

end FlowBuilder
