import FlowBuilder.Proofs.Compilation.Account

/-!
# Fidelity of stored flows

A flow that a request hands to the store is the flow of its plan, made of the very templates and the
very segment that the same request has kept before. `FlowRecord.Faithful` says so part by part, with
the kept things read off the exchanges: `templateAnswers`, `segmentAnswers`.

* `faithful_record`: the record of a plan and its drafts is faithful.
* `stored_flow_faithful`: so is every record that a request hands to the store.
-/

namespace FlowBuilder

/-! ### What a run has kept -/

/-- The subject of each template that the store was given, and what it answered. -/
def templateAnswers (exchanges : List Exchange) :
    List (String × Except (Failure String) String) :=
  exchanges.filterMap fun
    | .created (.template _ _ subject _ _ _) answer => some (subject, answer)
    | _ => none

/-- The conditions of each segment that the store was given, and what it answered. -/
def segmentAnswers (exchanges : List Exchange) :
    List (List Condition × Except (Failure String) String) :=
  exchanges.filterMap fun
    | .created (.segment _ _ _ conditions _) answer => some (conditions, answer)
    | _ => none

/-- The templates of joined exchanges are those of each part. -/
theorem templateAnswers_append (first second : List Exchange) :
    templateAnswers (first ++ second) = templateAnswers first ++ templateAnswers second :=
  List.filterMap_append

/-- The segments of joined exchanges are those of each part. -/
theorem segmentAnswers_append (first second : List Exchange) :
    segmentAnswers (first ++ second) = segmentAnswers first ++ segmentAnswers second :=
  List.filterMap_append

/-- Whether an exchange hands a flow to the store. -/
def Exchange.storesFlow : Exchange → Bool
  | .created (.flow _ _) _ => true
  | _ => false

/-- Everything about a record that a plan and the exchanges of its build determine. The edges join
the nodes in their listed order, so that the emails in that order are the emails along the chain. -/
structure FlowRecord.Faithful (plan : Plan) (exchanges : List Exchange) (record : FlowRecord) :
    Prop where
  /-- The graph passes the check. -/
  accepted : record.graph.check = .ok ()
  /-- The chain visits the nodes in their listed order. -/
  chained : record.graph.links = chainEnds record.graph.ids
  /-- Every node has data of its kind. -/
  kinds : ∀ node ∈ record.graph.nodes, node.kind = node.data.kind
  /-- There is one email node for each email of the plan. -/
  emailCount : record.graph.countKind .email = plan.emails.length
  /-- The store was given one template for each email of the plan. -/
  templateCount : (templateAnswers exchanges).length = plan.emails.length
  /-- The emails along the chain are numbered from one on, and each has the subject of the template
  that the store was given for it and the id that the store answered. -/
  emails : record.graph.emails.map (fun e => (e.sequence.val, e.subject, .ok e.templateId)) =
    (List.range' 1 plan.emails.length).zip (templateAnswers exchanges)
  /-- The first email is sent at once, every other after the days that the plan states for it. -/
  schedule : record.graph.schedule =
    .ok (((templateAnswers exchanges).map (·.1)).zip (0 :: plan.emails.tail.map (·.delayDays.val)))
  /-- The one trigger has the audience of the record, and the trigger type of record and plan. -/
  trigger : ∃ node data, record.graph.nodes.filter (·.kind = .trigger) = [node] ∧
    node.data = .trigger data ∧ data.segmentId = record.audience.segmentId ∧
    data.segmentName = record.audience.segmentName ∧
    data.conditions = record.audience.conditions ∧ data.triggerType = record.triggerType ∧
    record.triggerType = plan.triggerType
  /-- A flow that a segment triggers has the audience of the one segment that the store was
  given. -/
  ofSegment : plan.triggerType = .segmentAdded →
    ∃ id, segmentAnswers exchanges = [(record.audience.conditions, .ok id)] ∧
      record.audience.segmentId = some id
  /-- Any other flow has no audience, and the store was given no segment for it. -/
  ofNoSegment : plan.triggerType ≠ .segmentAdded →
    segmentAnswers exchanges = [] ∧ record.audience.segmentId = none ∧
      record.audience.conditions = []
  /-- The record has the name and the description of the plan, and is a draft. -/
  described : record.name = plan.flowName ∧ record.description = plan.description ∧
    record.status = .draft

/-! ### The exchanges of a build -/

section

variable (plan : Plan) (message owner segmentId : String) (drafts : List Draft)

/-- The store was given one template for each draft. -/
theorem templateAnswers_drafts :
    templateAnswers (drafts.flatMap (·.exchanges plan owner)) =
      drafts.map fun draft => (draft.content.subject, .ok draft.templateId) := by
  induction drafts with
  | nil => rfl
  | cons draft r ih =>
    rw [List.flatMap_cons, templateAnswers_append, ih]
    rfl

/-- No template is kept for an audience. -/
theorem templateAnswers_segmentExchanges :
    templateAnswers (segmentExchanges plan message owner segmentId) = [] := by
  unfold segmentExchanges
  split <;> rfl

/-- The store was given no segment for a draft. -/
theorem segmentAnswers_drafts :
    segmentAnswers (drafts.flatMap (·.exchanges plan owner)) = [] := by
  induction drafts with
  | nil => rfl
  | cons draft r ih =>
    rw [List.flatMap_cons, segmentAnswers_append, ih]
    rfl

/-- The segment of a plan is kept under the id that its flow refers to, if it triggers the flow. -/
theorem segmentAnswers_segmentExchanges :
    segmentAnswers (segmentExchanges plan message owner segmentId) =
      if plan.triggerType = .segmentAdded then [(plan.rule.conditions, .ok segmentId)] else [] := by
  unfold segmentExchanges
  split <;> rfl

/-- Neither the segment nor an email stores a flow. -/
theorem storesFlow_eq_false_of_mem {e : Exchange}
    (h : e ∈ segmentExchanges plan message owner segmentId ++
      drafts.flatMap (·.exchanges plan owner)) : e.storesFlow = false := by
  rw [List.mem_append, List.mem_flatMap] at h
  rcases h with h | ⟨draft, -, h⟩
  · unfold segmentExchanges at h
    split at h
    · obtain rfl := List.mem_singleton.1 h
      rfl
    · cases h
  · rw [Draft.exchanges, List.mem_pair] at h
    rcases h with rfl | rfl <;> rfl

end

/-- An attempt at an email keeps no flow. -/
theorem Build.Attempt.storesFlow_eq_false {plan : Plan} {owner : String} {step : EmailStep}
    {attempt : List Exchange} {f : Failure BuildError} (h : Attempt plan owner step attempt f)
    {e : Exchange} (he : e ∈ attempt) : e.storesFlow = false := by
  cases h with
  | unwritten e' =>
    obtain rfl := List.mem_singleton.1 he
    rfl
  | unkept reply e' =>
    rcases List.mem_pair.1 he with rfl | rfl <;> rfl

/-- A build hands a flow to the store just at its end, and the flow is the record of its drafts. -/
theorem Build.History.exists_drafts_of_storesFlow {plan : Plan} {message owner : String}
    {r : Except (Failure BuildError) Unit} {exchanges : List Exchange} {lines : List String}
    (h : History plan message owner r exchanges lines) {e : Exchange} (he : e ∈ exchanges)
    (hflow : e.storesFlow) :
    ∃ segmentId drafts answer, plan.emails = drafts.map (·.step) ∧
      e = .created (.flow owner (plan.record segmentId drafts)) answer ∧
      exchanges = segmentExchanges plan message owner segmentId ++
        drafts.flatMap (·.exchanges plan owner) ++ [e] := by
  -- a build that stops before its last call hands no flow over
  cases h with
  | withoutSegment e' _ =>
    obtain rfl := List.mem_singleton.1 he
    cases hflow
  | withoutEmail segmentId drafts step rest attempt f _ hattempt =>
    rcases List.mem_append.1 he with he | he
    · rw [storesFlow_eq_false_of_mem plan message owner segmentId drafts he] at hflow
      cases hflow
    · rw [hattempt.storesFlow_eq_false he] at hflow
      cases hflow
  | withoutFlow segmentId drafts e' hsteps =>
    rcases List.mem_append.1 he with he | he
    · rw [storesFlow_eq_false_of_mem plan message owner segmentId drafts he] at hflow
      cases hflow
    · obtain rfl := List.mem_singleton.1 he
      exact ⟨segmentId, drafts, _, hsteps, rfl, rfl⟩
  | finished segmentId drafts flowId hsteps =>
    rcases List.mem_append.1 he with he | he
    · rw [storesFlow_eq_false_of_mem plan message owner segmentId drafts he] at hflow
      cases hflow
    · obtain rfl := List.mem_singleton.1 he
      exact ⟨segmentId, drafts, _, hsteps, rfl, rfl⟩

/-! ### The record of a build -/

section

variable {plan : Plan} {drafts : List Draft} (segmentId : String)
  (hsteps : plan.emails = drafts.map (·.step))

include hsteps

/-- Drafts of the emails of a plan are in their sequence. -/
theorem inSequence_drafts : inSequence (drafts.map (·.written)) = drafts.map (·.written) := by
  have hnumbered := plan.numbered
  rw [hsteps, List.map_map, List.length_map] at hnumbered
  refine inSequence_of_numbered (n := 1) ?_
  rw [List.map_map, List.length_map]
  exact hnumbered

/-- The drafts along the graph of a plan have the numbers, subjects and templates of the drafts. -/
theorem emails_drafts :
    (drafts.map fun d => (d.step.sequence.val, d.content.subject,
        (.ok d.templateId : Except (Failure String) String))) =
      (List.range' 1 plan.emails.length).zip
        (drafts.map fun d => (d.content.subject, .ok d.templateId)) := by
  rw [← plan.numbered, hsteps, List.map_map, List.zip_map']
  rfl

/-- The first draft is scheduled at once, every other after the days of its email. -/
theorem plannedSchedule_drafts :
    plannedSchedule (drafts.map (·.written)) =
      (drafts.map (·.content.subject)).zip (0 :: plan.emails.tail.map (·.delayDays.val)) := by
  rw [hsteps]
  cases drafts with
  | nil => rfl
  | cons draft r =>
    -- past the first, days and subjects come from one draft each
    have hlater : (r.map (·.content.subject)).zip ((r.map (·.step)).map (·.delayDays.val)) =
        (r.map (·.written)).map fun s => (s.subject, s.delayDays.val) := by
      rw [List.map_map, List.map_map, List.zip_map']
      rfl
    rw [List.map_cons, List.map_cons, List.map_cons, List.tail_cons, List.zip_cons_cons, hlater]
    rfl

end

section

variable (plan : Plan) (message owner segmentId prompt : String)
  (reply : Except (Failure String) (Option String)) (drafts : List Draft)
  (answer : Except (Failure String) String)

/-- The exchanges of a request that hands the flow of some drafts to the store. -/
def storingExchanges : List Exchange :=
  .generated prompt reply ::
    (segmentExchanges plan message owner segmentId ++ drafts.flatMap (·.exchanges plan owner) ++
      [.created (.flow owner (plan.record segmentId drafts)) answer])

/-- The store was given the templates of the drafts and no others. -/
theorem templateAnswers_storingExchanges :
    templateAnswers
        (storingExchanges plan message owner segmentId prompt reply drafts answer) =
      drafts.map fun draft => (draft.content.subject, .ok draft.templateId) := by
  -- neither the plan prompt nor the flow counts
  show templateAnswers (segmentExchanges plan message owner segmentId ++
    drafts.flatMap (·.exchanges plan owner) ++ [_]) = _
  rw [templateAnswers_append, templateAnswers_append, templateAnswers_segmentExchanges,
    templateAnswers_drafts]
  exact List.append_nil _

/-- The store was given the segment of the plan, if it has one, and no others. -/
theorem segmentAnswers_storingExchanges :
    segmentAnswers
        (storingExchanges plan message owner segmentId prompt reply drafts answer) =
      if plan.triggerType = .segmentAdded then [(plan.rule.conditions, .ok segmentId)] else [] := by
  show segmentAnswers (segmentExchanges plan message owner segmentId ++
    drafts.flatMap (·.exchanges plan owner) ++ [_]) = _
  rw [segmentAnswers_append, segmentAnswers_append, segmentAnswers_segmentExchanges,
    segmentAnswers_drafts, List.append_nil]
  exact List.append_nil _

end

/-- The record of a plan and its drafts is faithful to the exchanges that led to them. -/
theorem faithful_record {plan : Plan} {drafts : List Draft}
    (hsteps : plan.emails = drafts.map (·.step)) (message owner segmentId prompt : String)
    (reply : Except (Failure String) (Option String)) (answer : Except (Failure String) String) :
    (plan.record segmentId drafts).Faithful plan
      (storingExchanges plan message owner segmentId prompt reply drafts answer) := by
  have hgraph : (plan.record segmentId drafts).graph =
      assembledGraph plan.triggerType (plan.audience segmentId) (drafts.map (·.written)) := rfl
  have hlength : plan.emails.length = drafts.length := by rw [hsteps, List.length_map]
  have htemplates := templateAnswers_storingExchanges plan message owner segmentId prompt reply
    drafts answer
  have hsegments := segmentAnswers_storingExchanges plan message owner segmentId prompt reply
    drafts answer
  constructor
  case accepted =>
    -- the graph is a chain, whatever the emails are
    rw [hgraph]
    exact FlowGraph.check_of_isChain (isChain_assembledGraph _ _ _)
  case chained =>
    rw [hgraph]
    exact links_assembledGraph _ _ _
  case kinds =>
    intro node hnode
    rw [hgraph] at hnode
    exact kind_of_mem_assembledGraph _ _ _ hnode
  case emailCount => rw [hgraph, countKind_email_assembledGraph, List.length_map, hlength]
  case templateCount => rw [htemplates, List.length_map, hlength]
  case emails =>
    -- the drafts stand in the order of the plan, which sorting keeps
    rw [hgraph, emails_assembledGraph, inSequence_drafts hsteps, htemplates, List.map_map,
      List.map_map]
    exact emails_drafts hsteps
  case schedule =>
    rw [hgraph, schedule_assembledGraph, inSequence_drafts hsteps, plannedSchedule_drafts hsteps,
      htemplates, List.map_map]
    rfl
  case trigger =>
    refine ⟨triggerNode plan.triggerType (plan.audience segmentId), _, ?_, rfl, rfl, rfl, rfl, rfl,
      rfl⟩
    rw [hgraph]
    exact FlowGraph.filter_kind_eq_singleton (countKind_trigger_assembledGraph _ _ _)
      List.mem_cons_self rfl
  case ofSegment =>
    intro htrigger
    have haudience : (plan.record segmentId drafts).audience = ⟨some segmentId,
        segmentName plan.flowName, plan.rule.conditions⟩ := if_pos htrigger
    rw [hsegments, if_pos htrigger, haudience]
    exact ⟨segmentId, rfl, rfl⟩
  case ofNoSegment =>
    intro htrigger
    have haudience : (plan.record segmentId drafts).audience = {} := if_neg htrigger
    rw [hsegments, if_neg htrigger, haudience]
    exact ⟨rfl, rfl, rfl⟩
  case described => exact ⟨rfl, rfl, rfl⟩

/-- The exchanges of a request are what the services answered. Whenever a request hands a flow to
the store, the reply to its plan prompt holds a plan, and the flow is faithful to this plan and to
what the store was given before. -/
theorem stored_flow_faithful {σ : Type} (limits : DepthLimits) (services : Collaborators σ)
    (message owner : String) (history : List HistoryEntry) (world : σ) {caller : String}
    {record : FlowRecord} {answer : Except (Failure String) String}
    (h : .created (.flow caller record) answer ∈
      (compile limits services message owner history world).exchanges) :
    services.Answers world (compile limits services message owner history world).exchanges
        (compile limits services message owner history world).world ∧
      ∃ text plan, (services.generate (planPrompt message history) world).1 = .ok text ∧
        Plan.ofReply limits text = .ok plan ∧ caller = owner ∧
        record.Faithful plan (compile limits services message owner history world).exchanges := by
  obtain ⟨hanswers, haccount⟩ := compile_account services message owner history world
  refine ⟨hanswers, ?_⟩
  generalize (services.generate (planPrompt message history) world).1 = reply at haccount ⊢
  generalize (compile limits services message owner history world).exchanges = exchanges
    at haccount h ⊢
  generalize (compile limits services message owner history world).answer = result at haccount
  cases haccount with
  -- where there is no plan, the plan prompt is the only call
  | refused detail => cases List.mem_singleton.1 h
  | lost f => cases List.mem_singleton.1 h
  | planless text defect hplan => cases List.mem_singleton.1 h
  | unreadable text f hplan => cases List.mem_singleton.1 h
  | built text plan hplan hhistory =>
    -- the flow is not the plan prompt, so that the build has stored it
    have hmem := (List.mem_cons.1 h).resolve_left nofun
    obtain ⟨segmentId, drafts, _, hsteps, hflow, hexchanges⟩ :=
      hhistory.exists_drafts_of_storesFlow hmem rfl
    cases hflow
    refine ⟨text, plan, rfl, hplan, rfl, ?_⟩
    rw [hexchanges]
    exact faithful_record hsteps message owner segmentId _ _ answer

/-- Where no call fails, a faithful flow is stored. -/
theorem stored_greeting_faithful :
    ∃ caller record answer plan, .created (.flow caller record) answer ∈ greetingRun.exchanges ∧
      Plan.ofReply .standard (some greetingReply) = .ok plan ∧ caller = "ada" ∧
      record.Faithful plan greetingRun.exchanges := by
  obtain ⟨caller, record, id, hmem⟩ := exists_flow_greetingRun
  obtain ⟨-, text, plan, hreply, hplan, howner, hfaithful⟩ :=
    stored_flow_faithful .standard (.reciting greetingReply) "Greet new customers" "ada" [] 0 hmem
  cases hreply
  exact ⟨caller, record, .ok id, plan, hmem, hplan, howner, hfaithful⟩

end FlowBuilder
