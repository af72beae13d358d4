import FlowBuilder.Proofs.Compilation.Fidelity
import FlowBuilder.Proofs.Compilation.Protocol
import FlowBuilder.Proofs.Store.Contract

/-!
# The rows of a request

Services that answer by the number of the call write down whatever they are asked. What a request
leaves behind is thus read off its exchanges: the prompts, and one row for everything that it hands
to the store, whose answer is made of the reply to just that row.

The rows of a request are its own (`OwnRows`): each states the requester as its owner, and the
segment and the templates to which a stored flow refers are rows of the same request.

* `rows_of_answers`, `prompts_of_answers`, `answer_of_getElem?`: the exchanges and the world.
* `Build.History.owner_eq`: a build hands over only what its requester owns.
* `ownRows_compile`: the rows of a request are its own.
-/

namespace FlowBuilder

/-! ### Exchanges and the world -/

/-- The prompts among exchanges. -/
def promptsOf (exchanges : List Exchange) : List String :=
  exchanges.filterMap fun
    | .generated prompt _ => some prompt
    | .created _ _ => none

/-- What was handed to the store in exchanges, and what it answered. -/
def storeAnswers (exchanges : List Exchange) :
    List (StoreCall × Except (Failure String) String) :=
  exchanges.filterMap fun
    | .created call answer => some (call, answer)
    | .generated _ _ => none

/-- What was handed to the store. -/
def callsOf (exchanges : List Exchange) : List StoreCall :=
  (storeAnswers exchanges).map (·.1)

/-- The table in which something is kept. -/
def StoreCall.table : StoreCall → Table
  | .segment .. => .segments
  | .template .. => .emailTemplates
  | .flow .. => .flows

/-- The table of a row is that of its call, at whatever time. -/
theorem StoreCall.table_row (call : StoreCall) (now : String) :
    (call.row now).table = call.table := by
  cases call <;> rfl

/-- A call to the store comes before those of later exchanges. -/
theorem callsOf_created (call : StoreCall) (answer : Except (Failure String) String)
    (rest : List Exchange) : callsOf (.created call answer :: rest) = call :: callsOf rest := rfl

/-- What is answered for something is so in an exchange. -/
theorem mem_storeAnswers_iff {exchanges : List Exchange} {call : StoreCall}
    {answer : Except (Failure String) String} :
    (call, answer) ∈ storeAnswers exchanges ↔ .created call answer ∈ exchanges := by
  rw [storeAnswers, List.mem_filterMap]
  constructor
  · rintro ⟨e, he, hsome⟩
    match e, hsome with
    | .created _ _, rfl => exact he
  · intro h
    exact ⟨_, h, rfl⟩

section

variable {room : Nat} {now : Nat → String} {replies : Nat → CompletionReply}
  {inserts : Nat → InsertReply} {w w' : World} {exchanges : List Exchange}

/-- Exchanges add the rows of what was handed over, each at the time of its own number. -/
theorem rows_of_answers (h : (numberedServices room now replies inserts).Answers w exchanges w') :
    w'.rows = w.rows ++ rowsOf now w.rows.length (callsOf exchanges) := by
  induction h with
  | nil => exact (List.append_nil _).symm
  | generated _ ih => exact ih
  | @created w _ call rest _ ih =>
    -- the row of the call is the first one after those that were there
    have hrow : ((numberedServices room now replies inserts).create call w).2.rows =
        w.rows ++ [call.row (now w.rows.length)] := rfl
    rw [ih, hrow, callsOf_created, rowsOf_cons, List.length_append, List.length_singleton,
      List.append_assoc]
    rfl

/-- Exchanges add their prompts. -/
theorem prompts_of_answers
    (h : (numberedServices room now replies inserts).Answers w exchanges w') :
    w'.prompts = w.prompts ++ promptsOf exchanges := by
  induction h with
  | nil => exact (List.append_nil _).symm
  | @generated w _ prompt rest _ ih =>
    have hprompt : ((numberedServices room now replies inserts).generate prompt w).2.prompts =
        w.prompts ++ [prompt] := rfl
    rw [ih, hprompt, List.append_assoc]
    rfl
  | created _ ih => exact ih

/-- What was handed over is answered from the reply to its own row. -/
theorem answer_of_getElem? (h : (numberedServices room now replies inserts).Answers w exchanges w')
    {k : Nat} {call : StoreCall} {answer : Except (Failure String) String}
    (hk : (storeAnswers exchanges)[k]? = some (call, answer)) :
    answer = insertedId room call.table (inserts (w.rows.length + k)) := by
  induction h generalizing k with
  | nil => cases hk
  | generated _ ih => exact ih hk
  | @created w _ first rest _ ih =>
    cases k with
    | zero =>
      cases hk
      rw [← call.table_row (now w.rows.length)]
      rfl
    | succ k =>
      -- the row of the first call stands before those of the others
      have hrow : ((numberedServices room now replies inserts).create first w).2.rows.length =
          w.rows.length + 1 := List.length_append
      have hrest : (storeAnswers rest)[k]? = some (call, answer) := hk
      rw [ih hrest, hrow, Nat.add_right_comm, Nat.add_assoc]

end

/-! ### Owners -/

/-- The row of a call states the owner, at whatever time. -/
theorem field?_user_id_row (now : String) (call : StoreCall) :
    (call.row now).content.field? "user_id" = some (.text call.owner) := by
  cases call <;> simp [StoreCall.row, Json.obj, Json.field?, StoreCall.owner]

/-- A segment is kept for its requester. -/
theorem owner_of_mem_segmentExchanges {plan : Plan} {message owner segmentId : String}
    {call : StoreCall} {answer : Except (Failure String) String}
    (h : .created call answer ∈ segmentExchanges plan message owner segmentId) :
    call.owner = owner := by
  unfold segmentExchanges at h
  split at h
  · cases List.mem_singleton.1 h
    rfl
  · cases h

/-- A build hands over only what its requester owns, if it finishes. -/
theorem owner_of_mem_buildScript {plan : Plan} {message owner segmentId flowId : String}
    {drafts : List Draft} {call : StoreCall} {answer : Except (Failure String) String}
    (h : .created call answer ∈ buildScript plan message owner segmentId drafts flowId) :
    call.owner = owner := by
  rw [buildScript, List.mem_append, List.mem_append, List.mem_singleton, List.mem_flatMap] at h
  rcases h with (h | ⟨draft, -, h⟩) | h
  · exact owner_of_mem_segmentExchanges h
  · rw [Draft.exchanges, List.mem_pair] at h
    rcases h with h | h
    · cases h
    · cases h
      rfl
  · cases h
    rfl

/-- A build hands over only what its requester owns, wherever it stops. -/
theorem Build.History.owner_eq {plan : Plan} {message owner : String}
    {r : Except (Failure BuildError) Unit} {exchanges : List Exchange} {lines : List String}
    (h : History plan message owner r exchanges lines) {call : StoreCall}
    {answer : Except (Failure String) String} (hmem : .created call answer ∈ exchanges) :
    call.owner = owner := by
  obtain ⟨segmentId, drafts, flowId, -, rfl | hbreaks⟩ := h.eq_or_breaksOff
  · exact owner_of_mem_buildScript hmem
  · obtain ⟨done, failing, answered, rest, rfl, hscript, hcall, -⟩ := hbreaks
    -- the last call is one of the script too, though it was not answered like that
    have hin : ∀ e ∈ done ++ answered :: rest, ∀ call answer, e = .created call answer →
        call.owner = owner := by
      rintro _ he call answer rfl
      rw [← hscript] at he
      exact owner_of_mem_buildScript he
    rcases List.mem_append.1 hmem with hmem | hmem
    · exact hin _ (List.mem_append_left _ hmem) call answer rfl
    · obtain rfl := List.mem_singleton.1 hmem
      match answered, hcall with
      | .created _ answer', rfl =>
        exact hin (.created call answer') (List.mem_append_right _ List.mem_cons_self) call
          answer' rfl

/-! ### The ids in a stored flow -/

/-- The segment to which the data of a node refer. -/
def NodeData.segmentId? : NodeData → Option String
  | .trigger d => d.segmentId
  | _ => none

namespace FlowRecord

/-- The segments to which a flow refers, by their ids. -/
def segmentIds (record : FlowRecord) : List String :=
  record.audience.segmentId.toList ++ record.graph.nodes.filterMap (·.data.segmentId?)

/-- The templates to which a flow refers, by their ids. -/
def templateIds (record : FlowRecord) : List String :=
  record.graph.emails.map (·.templateId)

end FlowRecord

/-- Whatever segment an assembled graph refers to, it is that of its audience. -/
theorem segmentId_of_mem_assembledGraph {triggerType : TriggerType} {audience : TriggerAudience}
    {steps : List WrittenStep} {node : Node}
    (hmem : node ∈ (assembledGraph triggerType audience steps).nodes) {id : String}
    (hid : node.data.segmentId? = some id) : audience.segmentId = some id := by
  have htriggers : (assembledGraph triggerType audience steps).nodes.filter
      (·.kind = .trigger) = [triggerNode triggerType audience] :=
    FlowGraph.filter_kind_eq_singleton (countKind_trigger_assembledGraph _ _ _)
      List.mem_cons_self rfl
  -- only a trigger refers to a segment, and there is one trigger
  have hkind : node.kind = .trigger := by
    rw [kind_of_mem_assembledGraph _ _ _ hmem]
    cases hdata : node.data with
    | trigger d => rfl
    | delay d => rw [hdata] at hid; cases hid
    | email e => rw [hdata] at hid; cases hid
  have honly : node ∈ [triggerNode triggerType audience] := by
    rw [← htriggers]
    exact List.mem_filter.2 ⟨hmem, decide_eq_true hkind⟩
  obtain rfl := List.mem_singleton.1 honly
  exact hid

section

variable {plan : Plan} {segmentId : String} {drafts : List Draft} {id : String}

/-- A segment to which the flow of a build refers was kept in the same build. -/
theorem created_of_mem_segmentIds {message owner : String}
    (h : id ∈ (plan.record segmentId drafts).segmentIds) :
    .created (segmentCall plan message owner) (.ok id) ∈
      segmentExchanges plan message owner segmentId := by
  -- the segment of the record, and of its trigger, is that of the audience
  have haudience : (plan.audience segmentId).segmentId = some id := by
    rw [FlowRecord.segmentIds, List.mem_append, Option.mem_toList, List.mem_filterMap] at h
    rcases h with h | ⟨node, hnode, hid⟩
    · exact h
    · exact segmentId_of_mem_assembledGraph hnode hid
  by_cases htrigger : plan.triggerType = .segmentAdded
  · rw [Plan.audience, if_pos htrigger] at haudience
    cases haudience
    rw [segmentExchanges, if_pos htrigger]
    exact List.mem_singleton_self _
  · rw [Plan.audience, if_neg htrigger] at haudience
    cases haudience

/-- A template to which the flow of a build refers was kept in the same build. -/
theorem created_of_mem_templateIds (owner : String)
    (h : id ∈ (plan.record segmentId drafts).templateIds) :
    ∃ draft : Draft, .created (templateCall plan owner draft.step draft.content) (.ok id) ∈
      drafts.flatMap (·.exchanges plan owner) := by
  have hgraph : (plan.record segmentId drafts).graph =
      assembledGraph plan.triggerType (plan.audience segmentId) (drafts.map (·.written)) := rfl
  rw [FlowRecord.templateIds, hgraph, emails_assembledGraph, List.map_map] at h
  obtain ⟨step, hstep, rfl⟩ := List.mem_map.1 h
  rw [inSequence, List.mem_mergeSort] at hstep
  obtain ⟨draft, hdraft, rfl⟩ := List.mem_map.1 hstep
  refine ⟨draft, List.mem_flatMap.2 ⟨draft, hdraft, ?_⟩⟩
  exact List.mem_pair.2 (Or.inr rfl)

end

/-! ### Requests -/

section

variable {message owner : String} {history : List HistoryEntry}
  {reply : Except (Failure String) (Option String)} {answer : Except Fault String}
  {exchanges : List Exchange} {limits : DepthLimits}

/-- A request hands over only what its requester owns. -/
theorem Account.owner_eq (h : Account limits message owner history reply answer exchanges)
    {call : StoreCall} {stored : Except (Failure String) String}
    (hmem : .created call stored ∈ exchanges) : call.owner = owner := by
  cases h with
  -- where there is no plan, nothing is handed over
  | refused detail => cases List.mem_singleton.1 hmem
  | lost f => cases List.mem_singleton.1 hmem
  | planless text defect hplan => cases List.mem_singleton.1 hmem
  | unreadable text f hplan => cases List.mem_singleton.1 hmem
  | built text plan hplan hhistory =>
    exact hhistory.owner_eq ((List.mem_cons.1 hmem).resolve_left nofun)

/-- A flow that a request hands over refers only to what the same request has kept. -/
theorem Account.kept_of_flow (h : Account limits message owner history reply answer exchanges)
    {caller : String} {record : FlowRecord} {stored : Except (Failure String) String}
    (hmem : .created (.flow caller record) stored ∈ exchanges) :
    ∃ plan : Plan,
      (∀ id ∈ record.segmentIds, .created (segmentCall plan message owner) (.ok id) ∈ exchanges) ∧
      ∀ id ∈ record.templateIds, ∃ draft : Draft,
        .created (templateCall plan owner draft.step draft.content) (.ok id) ∈ exchanges := by
  -- a flow is stored in a history that came that far only
  cases h with
  | refused detail => cases List.mem_singleton.1 hmem
  | lost f => cases List.mem_singleton.1 hmem
  | planless text defect hplan => cases List.mem_singleton.1 hmem
  | unreadable text f hplan => cases List.mem_singleton.1 hmem
  | built text plan hplan hhistory =>
    obtain ⟨segmentId, drafts, _, -, hflow, rfl⟩ :=
      hhistory.exists_drafts_of_storesFlow ((List.mem_cons.1 hmem).resolve_left nofun) rfl
    cases hflow
    refine ⟨plan, fun id hid => ?_, fun id hid => ?_⟩
    · have hkept : .created (segmentCall plan message owner) (.ok id) ∈
          segmentExchanges plan message owner segmentId := created_of_mem_segmentIds hid
      exact List.mem_cons_of_mem _ (List.mem_append_left _ (List.mem_append_left _ hkept))
    · obtain ⟨draft, hkept⟩ := created_of_mem_templateIds owner hid
      exact ⟨draft, List.mem_cons_of_mem _ (List.mem_append_left _ (List.mem_append_right _ hkept))⟩

end

/-! ### The rows of a request -/

/-- An id was returned for one of some rows of the given table. The first of these rows is the one
with the number `position` in all. -/
def IsReturnedId (room : Nat) (inserts : Nat → InsertReply) (position : Nat) (rows : List Row)
    (table : Table) (id : String) : Prop :=
  ∃ k row, rows[k]? = some row ∧ row.table = table ∧
    insertedId room table (inserts (position + k)) = .ok id

/-- Rows are all from one owner and refer to each other only. -/
structure OwnRows (room : Nat) (now : Nat → String) (inserts : Nat → InsertReply) (owner : String)
    (position : Nat) (rows : List Row) : Prop where
  /-- Each row states the owner. -/
  owned : ∀ row ∈ rows, row.content.field? "user_id" = some (.text owner)
  /-- The row of a flow refers to segments and templates by ids that were returned for rows among
  these. -/
  ids : ∀ k row, rows[k]? = some row → row.table = .flows → ∃ record : FlowRecord,
    row = (StoreCall.flow owner record).row (now (position + k)) ∧
      (∀ id ∈ record.segmentIds, IsReturnedId room inserts position rows .segments id) ∧
      ∀ id ∈ record.templateIds, IsReturnedId room inserts position rows .emailTemplates id

section

variable {limits : DepthLimits} {room : Nat} {now : Nat → String}
  {replies : Nat → CompletionReply} {inserts : Nat → InsertReply}

/-- The rows of some calls are theirs in order, at the times of their numbers. -/
theorem exists_call_of_getElem?_rowsOf {n k : Nat} {exchanges : List Exchange} {row : Row}
    (h : (rowsOf now n (callsOf exchanges))[k]? = some row) :
    ∃ call answer, .created call answer ∈ exchanges ∧ row = call.row (now (n + k)) := by
  rw [getElem?_rowsOf, callsOf, List.getElem?_map, Option.map_map, Option.map_eq_some_iff] at h
  obtain ⟨⟨call, answer⟩, hk, rfl⟩ := h
  exact ⟨call, answer, mem_storeAnswers_iff.1 (List.mem_of_getElem? hk), rfl⟩

/-- The id of something that was kept is returned for its row. -/
theorem isReturnedId_of_created {w w' : World} {exchanges : List Exchange}
    (hanswers : (numberedServices room now replies inserts).Answers w exchanges w')
    {call : StoreCall} {id : String} (h : .created call (.ok id) ∈ exchanges) :
    IsReturnedId room inserts w.rows.length (rowsOf now w.rows.length (callsOf exchanges))
      call.table id := by
  obtain ⟨k, hk⟩ := List.mem_iff_getElem?.1 (mem_storeAnswers_iff.2 h)
  refine ⟨k, call.row (now (w.rows.length + k)), ?_, call.table_row _,
    (answer_of_getElem? hanswers hk).symm⟩
  rw [getElem?_rowsOf, callsOf, List.getElem?_map, hk]
  rfl

/-- The rows of a request are its own. -/
theorem ownRows_compile (message owner : String) (history : List HistoryEntry) (w : World) :
    ∃ rows,
      (compile limits (numberedServices room now replies inserts) message owner history
          w).world.rows = w.rows ++ rows ∧
        OwnRows room now inserts owner w.rows.length rows := by
  obtain ⟨hanswers, haccount⟩ :=
    compile_account (numberedServices room now replies inserts) message owner history w
  refine ⟨_, rows_of_answers hanswers, ?_, ?_⟩
  · intro row hrow
    obtain ⟨k, hk⟩ := List.mem_iff_getElem?.1 hrow
    obtain ⟨call, answer, hmem, rfl⟩ := exists_call_of_getElem?_rowsOf hk
    rw [field?_user_id_row, haccount.owner_eq hmem]
  · intro k row hk htable
    obtain ⟨call, answer, hmem, rfl⟩ := exists_call_of_getElem?_rowsOf hk
    -- the row of a flow refers to what the calls before it returned
    match call, htable with
    | .flow caller record, _ =>
      obtain rfl : caller = owner := haccount.owner_eq hmem
      obtain ⟨plan, hsegments, htemplates⟩ := haccount.kept_of_flow hmem
      refine ⟨record, rfl, fun id hid => isReturnedId_of_created hanswers (hsegments id hid),
        fun id hid => ?_⟩
      obtain ⟨draft, hdraft⟩ := htemplates id hid
      exact isReturnedId_of_created hanswers hdraft

end

/-- A clock on which a second passes from row to row. -/
def ticks (n : Nat) : String := "2024-01-02T03:04:0" ++ toString n ++ "+00:00"

/-- A store that numbers the rows. -/
def numberRows (n : Nat) : InsertReply :=
  .ok (.array [.obj [("id", .int n)]])

end FlowBuilder
