import Mathlib
import FlowBuilder.Proofs.Graph.Walk

/-!
# Assembled graphs

What `assemble` builds: a chain over its nodes in their listed order, with one email for each
written step. It grows node by node, and is a chain at every step (`GraphDraft.IsChainOver`).

* `GraphDraft.IsChainOver.append`, `GraphDraft.IsChainOver.addEmails`: what one node and what all
  emails make of a draft.
* `assemble_eq_ok`: some steps are all that assembling asks for.
* `isChain_assembledGraph`: the ids are distinct, the trigger is the first node and the only one of
  its kind, and the edges join each node to the next; so the checker accepts the graph.
* `emails_assembledGraph`: the emails along the nodes are the steps in their sequence.
* `schedule_assembledGraph`: the schedule states the days of each step, and none for the first.
-/

namespace FlowBuilder

/-! ### Ids -/

/-- Delays at different positions have different ids. -/
theorem delayId_injective {i j : Nat} (h : delayId i = delayId j) : i = j :=
  Nat.repr_injective ((String.append_right_inj "delay-").1 h)

/-- Emails at different positions have different ids. -/
theorem emailId_injective {i j : Nat} (h : emailId i = emailId j) : i = j :=
  Nat.repr_injective ((String.append_right_inj "email-").1 h)

/-- The first letter of an id tells the kind of its node. -/
theorem delayId_ne_emailId (i j : Nat) : delayId i ≠ emailId j := by
  intro h
  have hchars := congrArg String.toList h
  simp [delayId, emailId] at hchars

/-- The trigger has the id of no delay. -/
theorem triggerId_ne_delayId (i : Nat) : triggerId ≠ delayId i := by
  intro h
  have hchars := congrArg String.toList h
  simp [triggerId, delayId] at hchars

/-- The trigger has the id of no email. -/
theorem triggerId_ne_emailId (i : Nat) : triggerId ≠ emailId i := by
  intro h
  have hchars := congrArg String.toList h
  simp [triggerId, emailId] at hchars

/-! ### Parts -/

/-- The delays and emails of a list of emails, the first of which is at the given position. -/
def stepParts (position : Nat) : List WrittenStep → List Unplaced
  | [] => []
  | step :: r =>
    (delayPart? position step).toList ++ emailPart position step :: stepParts (position + 1) r

/-- Nodes with their places, the first of which is the `i`-th below the trigger. -/
def placeParts (i : Nat) : List Unplaced → List Node
  | [] => []
  | (id, data) :: r => ⟨id, data.kind, data, stepPosition i⟩ :: placeParts (i + 1) r

/-- The edges of a chain: one from each node to the next. -/
def chainEdges : List String → List Edge
  | a :: b :: r => .between a b :: chainEdges (b :: r)
  | _ => []

/-- The ids of a delay, if there is one. -/
theorem map_fst_delayPart? (position : Nat) (step : WrittenStep) :
    (delayPart? position step).toList.map (·.1) =
      if 1 < position ∧ 0 < step.delayDays.val then [delayId position] else [] := by
  unfold delayPart?
  split <;> rfl

/-- The parts of the emails from a position on have ids that count from there. -/
theorem exists_position_of_mem {id : String} {position : Nat} {steps : List WrittenStep}
    (h : id ∈ (stepParts position steps).map (·.1)) :
    ∃ k, position ≤ k ∧ (id = delayId k ∨ id = emailId k) := by
  induction steps generalizing position with
  | nil => simp [stepParts] at h
  | cons step r ih =>
    rw [stepParts, List.map_append, map_fst_delayPart?, List.map_cons, List.mem_append,
      List.mem_cons] at h
    rcases h with h | h | h
    · split at h
      · exact ⟨position, le_rfl, Or.inl (by simpa using h)⟩
      · simp at h
    · exact ⟨position, le_rfl, Or.inr h⟩
    · obtain ⟨k, hk, hid⟩ := ih h
      exact ⟨k, by omega, hid⟩

/-- No two parts share an id. -/
theorem nodup_map_fst_stepParts (position : Nat) (steps : List WrittenStep) :
    ((stepParts position steps).map (·.1)).Nodup := by
  induction steps generalizing position with
  | nil => simp [stepParts]
  | cons step r ih =>
    -- the ids further on count from the next position
    have hemail : emailId position ∉ (stepParts (position + 1) r).map (·.1) := by
      intro h
      obtain ⟨k, hk, hid | hid⟩ := exists_position_of_mem h
      · exact delayId_ne_emailId k position hid.symm
      · have := emailId_injective hid
        omega
    have hdelay : delayId position ∉ (stepParts (position + 1) r).map (·.1) := by
      intro h
      obtain ⟨k, hk, hid | hid⟩ := exists_position_of_mem h
      · have := delayId_injective hid
        omega
      · exact delayId_ne_emailId position k hid
    have hrest : (emailId position :: (stepParts (position + 1) r).map (·.1)).Nodup :=
      List.nodup_cons.2 ⟨hemail, ih (position + 1)⟩
    rw [stepParts, List.map_append, map_fst_delayPart?, List.map_cons]
    split
    · refine List.nodup_cons.2 ⟨?_, hrest⟩
      intro h
      rcases List.mem_cons.1 h with h | h
      · exact delayId_ne_emailId position position h
      · exact hdelay h
    · exact hrest

/-- The trigger shares its id with no part. -/
theorem triggerId_notMem_stepParts (position : Nat) (steps : List WrittenStep) :
    triggerId ∉ (stepParts position steps).map (·.1) := by
  intro h
  obtain ⟨k, -, hid | hid⟩ := exists_position_of_mem h
  · exact triggerId_ne_delayId k hid
  · exact triggerId_ne_emailId k hid

/-! ### Placed parts -/

/-- Placing nodes keeps their ids. -/
@[simp]
theorem map_id_placeParts (i : Nat) (parts : List Unplaced) :
    (placeParts i parts).map (·.id) = parts.map (·.1) := by
  induction parts generalizing i with
  | nil => rfl
  | cons part r ih => simp [placeParts, ih]

/-- Placing nodes keeps their number. -/
@[simp]
theorem length_placeParts (i : Nat) (parts : List Unplaced) :
    (placeParts i parts).length = parts.length := by
  induction parts generalizing i with
  | nil => rfl
  | cons part r ih => simp [placeParts, ih]

/-- Placed nodes are of the kind of their data. -/
theorem kind_of_mem_placeParts {i : Nat} {parts : List Unplaced} {node : Node}
    (h : node ∈ placeParts i parts) : node.kind = node.data.kind := by
  induction parts generalizing i with
  | nil => simp [placeParts] at h
  | cons part r ih =>
    rw [placeParts] at h
    rcases List.mem_cons.1 h with rfl | h
    · rfl
    · exact ih h

/-- Placing keeps the data. -/
theorem map_data_placeParts (i : Nat) (parts : List Unplaced) :
    (placeParts i parts).map (·.data) = parts.map (·.2) := by
  induction parts generalizing i with
  | nil => rfl
  | cons part r ih => simp [placeParts, ih]

/-! ### Emails along nodes -/

/-- What an email node holds. -/
def NodeData.email? : NodeData → Option EmailData
  | .email e => some e
  | _ => none

/-- The emails of a graph in the order of its nodes. -/
def FlowGraph.emails (g : FlowGraph) : List EmailData :=
  g.nodes.filterMap (·.data.email?)

/-- What the node of a written step holds. -/
def WrittenStep.emailData (step : WrittenStep) : EmailData where
  name := "Email " ++ step.sequence.text
  templateId := step.templateId
  subject := step.subject
  sequence := step.sequence.toPositive

/-- The delay of a step is no email. -/
theorem filterMap_email?_delayPart? (position : Nat) (step : WrittenStep) :
    (delayPart? position step).toList.filterMap (·.2.email?) = [] := by
  unfold delayPart?
  split <;> rfl

/-- Each step has one email among the parts. -/
theorem filterMap_email?_stepParts (position : Nat) (steps : List WrittenStep) :
    (stepParts position steps).filterMap (·.2.email?) = steps.map (·.emailData) := by
  induction steps generalizing position with
  | nil => rfl
  | cons step r ih =>
    rw [stepParts, List.filterMap_append, filterMap_email?_delayPart?, List.nil_append,
      List.filterMap_cons, ih]
    rfl

/-- No part is a trigger. -/
theorem kind_ne_trigger_of_mem_stepParts {position : Nat} {steps : List WrittenStep}
    {part : Unplaced} (h : part ∈ stepParts position steps) : part.2.kind ≠ .trigger := by
  induction steps generalizing position with
  | nil => simp [stepParts] at h
  | cons step r ih =>
    rw [stepParts, List.mem_append, List.mem_cons] at h
    rcases h with h | rfl | h
    · unfold delayPart? at h
      split at h
      · obtain rfl : part = _ := by simpa using h
        nofun
      · simp at h
    · nofun
    · exact ih h

/-! ### Drafts -/

/-- One more node behind others stands in the next place. -/
theorem placeParts_append_singleton (i : Nat) (parts : List Unplaced) (part : Unplaced) :
    placeParts i (parts ++ [part]) = placeParts i parts ++
      [⟨part.1, part.2.kind, part.2, stepPosition (i + parts.length)⟩] := by
  induction parts generalizing i with
  | nil => rfl
  | cons first r ih =>
    rw [List.cons_append, placeParts, placeParts, ih, List.length_cons, Nat.add_right_comm,
      Nat.add_assoc, List.cons_append]

/-- One more id behind others is joined to the last one. -/
theorem chainEdges_append_singleton {ids : List String} {last : String}
    (hlast : ids.getLast? = some last) (id : String) :
    chainEdges (ids ++ [id]) = chainEdges ids ++ [.between last id] := by
  fun_induction chainEdges ids with
  | case1 a b r ih =>
    have hrest : (b :: r).getLast? = some last := by rwa [List.getLast?_cons_cons] at hlast
    show Edge.between a b :: chainEdges (b :: r ++ [id]) = _
    rw [ih hrest, List.cons_append]
  | case2 ids hshort =>
    match ids with
    | [] => cases hlast
    | [a] =>
      cases hlast
      rfl
    | a :: b :: r => exact absurd rfl (hshort a b r)

namespace GraphDraft

variable {trigger : Node} {d : GraphDraft} {parts : List Unplaced}

/-- What is true of a draft whenever a node has been appended: the given parts stand behind the
trigger in their places, each node is joined to the next one, and the draft keeps the id of the last
one at hand. -/
structure IsChainOver (trigger : Node) (parts : List Unplaced) (d : GraphDraft) : Prop where
  /-- The nodes are the trigger and the parts. -/
  nodes : d.nodes = trigger :: placeParts 0 parts
  /-- The edges join each node to the next one. -/
  edges : d.edges = chainEdges (trigger.id :: parts.map (·.1))
  /-- The id at hand is that of the last node. -/
  cursor : (trigger.id :: parts.map (·.1)).getLast? = some d.cursor
  /-- All parts have been counted. -/
  placed : d.placed = parts.length

/-- A trigger alone is a chain. -/
theorem isChainOver_start (trigger : Node) : IsChainOver trigger [] (start trigger) :=
  ⟨rfl, rfl, rfl, rfl⟩

/-- A part that is appended goes on with the chain. -/
theorem IsChainOver.append (h : IsChainOver trigger parts d) (part : Unplaced) :
    IsChainOver trigger (parts ++ [part]) (d.append part) where
  nodes := by
    rw [placeParts_append_singleton, Nat.zero_add, ← h.placed, ← List.cons_append, ← h.nodes]
    rfl
  edges := by
    rw [List.map_append, List.map_singleton, ← List.cons_append,
      chainEdges_append_singleton h.cursor, ← h.edges]
    rfl
  cursor := by
    rw [List.map_append, List.map_singleton, ← List.cons_append, List.getLast?_concat]
    rfl
  placed := by
    rw [List.length_append, List.length_singleton, ← h.placed]
    rfl

/-- So do the delay and the node of an email. -/
theorem IsChainOver.addEmail (h : IsChainOver trigger parts d) (position : Nat)
    (step : WrittenStep) :
    IsChainOver trigger (parts ++ (delayPart? position step).toList ++ [emailPart position step])
      (d.addEmail position step) := by
  unfold GraphDraft.addEmail
  cases delayPart? position step with
  | none => simpa using h.append (emailPart position step)
  | some delay => exact (h.append delay).append (emailPart position step)

/-- Emails that are added one after another go on with the chain. -/
theorem IsChainOver.addEmails (h : IsChainOver trigger parts d) (position : Nat)
    (steps : List WrittenStep) :
    IsChainOver trigger (parts ++ stepParts position steps) (d.addEmails position steps) := by
  induction steps generalizing parts d position with
  | nil => rwa [stepParts, List.append_nil]
  | cons step r ih =>
    have hrest := ih (h.addEmail position step) (position + 1)
    rwa [List.append_assoc, List.append_assoc, List.singleton_append] at hrest

end GraphDraft

/-! ### The assembled graph -/

/-- The chain of a trigger and written steps. -/
def assembledGraph (triggerType : TriggerType) (audience : TriggerAudience)
    (steps : List WrittenStep) : FlowGraph where
  nodes := triggerNode triggerType audience :: placeParts 0 (stepParts 1 (inSequence steps))
  edges := chainEdges (triggerId :: (stepParts 1 (inSequence steps)).map (·.1))

/-- Some steps are all that assembling asks for, and the chain over them is what it gives. -/
theorem assemble_eq_ok {plan : Plan} {audience : TriggerAudience} {steps : List WrittenStep}
    (h : steps ≠ []) :
    assemble plan audience steps = .ok (assembledGraph plan.triggerType audience steps) := by
  have hempty : steps.isEmpty = false := by simpa using h
  have hchain := (GraphDraft.isChainOver_start (triggerNode plan.triggerType audience)).addEmails 1
    (inSequence steps)
  rw [assemble, hempty, if_neg Bool.false_ne_true]
  simp only [hchain.nodes, hchain.edges]
  rfl

variable (triggerType : TriggerType) (audience : TriggerAudience) (steps : List WrittenStep)

/-- The ids of an assembled graph are the trigger and those of the steps, in sequence. -/
theorem ids_assembledGraph :
    (assembledGraph triggerType audience steps).ids =
      triggerId :: (stepParts 1 (inSequence steps)).map (·.1) := by
  rw [FlowGraph.ids, assembledGraph, List.map_cons, map_id_placeParts]
  rfl

/-- The ids of an assembled graph are distinct. -/
theorem nodup_ids_assembledGraph : (assembledGraph triggerType audience steps).ids.Nodup := by
  rw [ids_assembledGraph]
  exact List.nodup_cons.2
    ⟨triggerId_notMem_stepParts 1 (inSequence steps), nodup_map_fst_stepParts 1 (inSequence steps)⟩

/-- The edges of a chain join the ends of the chain. -/
theorem chainEdges_eq_map (ids : List String) :
    chainEdges ids = (chainEnds ids).map fun ends => Edge.between ends.1 ends.2 := by
  fun_induction chainEdges ids with
  | case1 a b r ih => rw [ih, chainEnds, List.map_cons]
  | case2 ids h => rw [chainEnds.eq_2 ids h, List.map_nil]

/-- The edges of a chain go from each id to the next one. -/
theorem map_ends_chainEdges (ids : List String) :
    ((chainEdges ids).map fun e => (e.source, e.target)) = chainEnds ids := by
  rw [chainEdges_eq_map, List.map_map]
  exact List.map_id _

/-- The edges join the nodes in their listed order. -/
theorem links_assembledGraph :
    (assembledGraph triggerType audience steps).links =
      chainEnds (assembledGraph triggerType audience steps).ids := by
  rw [ids_assembledGraph]
  exact map_ends_chainEdges _

/-- The trigger is the only one. -/
theorem countKind_trigger_assembledGraph :
    (assembledGraph triggerType audience steps).countKind .trigger = 1 := by
  have hnone : (placeParts 0 (stepParts 1 (inSequence steps))).countP
      (fun n => decide (n.kind = .trigger)) = 0 := by
    rw [List.countP_eq_zero]
    intro node hmem hkind
    have hdata : node.data ∈ (stepParts 1 (inSequence steps)).map (·.2) := by
      rw [← map_data_placeParts 0]
      exact List.mem_map_of_mem hmem
    obtain ⟨part, hpart, hdata⟩ := List.mem_map.1 hdata
    apply kind_ne_trigger_of_mem_stepParts hpart
    rw [hdata, ← kind_of_mem_placeParts hmem]
    simpa using hkind
  rw [FlowGraph.countKind, assembledGraph, List.countP_cons, hnone]
  rfl

/-- An assembled graph is a chain over its nodes in their listed order. -/
theorem isChain_assembledGraph : (assembledGraph triggerType audience steps).IsChain := by
  refine ⟨nodup_ids_assembledGraph triggerType audience steps,
    countKind_trigger_assembledGraph triggerType audience steps,
    (assembledGraph triggerType audience steps).nodes, List.Perm.refl _, rfl, ?_⟩
  exact List.Perm.of_eq (links_assembledGraph triggerType audience steps)

/-- The emails along an assembled graph are the steps in their sequence. -/
theorem emails_assembledGraph :
    (assembledGraph triggerType audience steps).emails =
      (inSequence steps).map (·.emailData) := by
  have hplaced : (placeParts 0 (stepParts 1 (inSequence steps))).filterMap (·.data.email?) =
      (stepParts 1 (inSequence steps)).filterMap (·.2.email?) := by
    have h := congrArg (List.filterMap NodeData.email?)
      (map_data_placeParts 0 (stepParts 1 (inSequence steps)))
    rwa [List.filterMap_map, List.filterMap_map] at h
  rw [FlowGraph.emails, assembledGraph, List.filterMap_cons_none rfl, hplaced,
    filterMap_email?_stepParts]

/-- Nodes that are of the kind of their data are emails just when they hold one. -/
theorem countP_email_eq_length {nodes : List Node} (h : ∀ n ∈ nodes, n.kind = n.data.kind) :
    nodes.countP (·.kind = .email) = (nodes.filterMap (·.data.email?)).length := by
  induction nodes with
  | nil => rfl
  | cons node r ih =>
    have hrest := ih fun n hn => h n (List.mem_cons_of_mem node hn)
    have hkind := h node List.mem_cons_self
    rw [List.countP_cons, hrest, hkind]
    cases hdata : node.data <;>
      simp [NodeData.kind, NodeData.email?, hdata]

/-- Every node of an assembled graph is of the kind of its data. -/
theorem kind_of_mem_assembledGraph {node : Node}
    (h : node ∈ (assembledGraph triggerType audience steps).nodes) :
    node.kind = node.data.kind := by
  rcases List.mem_cons.1 h with rfl | h
  · rfl
  · exact kind_of_mem_placeParts h

/-- There is one email node for each step. -/
theorem countKind_email_assembledGraph :
    (assembledGraph triggerType audience steps).countKind .email = steps.length := by
  have hcount := countP_email_eq_length fun n hn =>
    kind_of_mem_assembledGraph triggerType audience steps hn
  have hemails := congrArg List.length (emails_assembledGraph triggerType audience steps)
  rw [List.length_map, inSequence, List.length_mergeSort] at hemails
  exact hcount.trans hemails

/-! ### The schedule -/

/-- An email takes the days that are pending. -/
theorem scheduleAlong_emailPart (pending i position : Nat) (step : WrittenStep)
    (parts : List Unplaced) :
    scheduleAlong pending (placeParts i (emailPart position step :: parts)) =
      (scheduleAlong 0 (placeParts (i + 1) parts)).map ((step.subject, pending) :: ·) := rfl

/-- A step past the first position takes its own days, which its delay makes pending if there are
any. -/
theorem scheduleAlong_delayPart? {position : Nat} (hposition : 1 < position) (i : Nat)
    (step : WrittenStep) (parts : List Unplaced) :
    ∃ j, scheduleAlong 0 (placeParts i ((delayPart? position step).toList ++ parts)) =
      scheduleAlong step.delayDays.val (placeParts j parts) := by
  by_cases hdelay : 0 < step.delayDays.val
  · refine ⟨i + 1, ?_⟩
    rw [delayPart?, dif_pos ⟨hposition, hdelay⟩]
    show scheduleAlong (0 + step.delayDays.val) (placeParts (i + 1) parts) = _
    rw [Nat.zero_add]
  · refine ⟨i, ?_⟩
    rw [delayPart?, dif_neg fun h => hdelay h.2, Nat.eq_zero_of_not_pos hdelay]
    rfl

/-- Past the first position every step waits for its own days. -/
theorem scheduleAlong_stepParts {position : Nat} (hposition : 1 < position) (i : Nat)
    (steps : List WrittenStep) :
    scheduleAlong 0 (placeParts i (stepParts position steps)) =
      .ok (steps.map fun s => (s.subject, s.delayDays.val)) := by
  induction steps generalizing position i with
  | nil => rfl
  | cons step r ih =>
    obtain ⟨j, hdelay⟩ := scheduleAlong_delayPart? hposition i step
      (emailPart position step :: stepParts (position + 1) r)
    rw [stepParts, hdelay, scheduleAlong_emailPart, ih (Nat.lt_succ_of_lt hposition)]
    rfl

/-- The subject and the days of each step; the first step does not wait. -/
def plannedSchedule : List WrittenStep → Schedule
  | [] => []
  | step :: r => (step.subject, 0) :: r.map fun s => (s.subject, s.delayDays.val)

/-- The parts of all steps give the planned schedule. -/
theorem scheduleAlong_stepParts_one (i : Nat) (steps : List WrittenStep) :
    scheduleAlong 0 (placeParts i (stepParts 1 steps)) = .ok (plannedSchedule steps) := by
  cases steps with
  | nil => rfl
  | cons step r =>
    have hnone : delayPart? 1 step = none := by
      rw [delayPart?, dif_neg fun h => absurd h.1 (Nat.lt_irrefl 1)]
    rw [stepParts, hnone, Option.toList_none, List.nil_append, scheduleAlong_emailPart,
      scheduleAlong_stepParts (Nat.lt_succ_self 1)]
    rfl

/-- The schedule of an assembled graph is the planned one. -/
theorem schedule_assembledGraph :
    (assembledGraph triggerType audience steps).schedule =
      .ok (plannedSchedule (inSequence steps)) := by
  have hnodup := nodup_ids_assembledGraph triggerType audience steps
  have hlinks := links_assembledGraph triggerType audience steps
  have hleads : (assembledGraph triggerType audience steps).Leads
      (assembledGraph triggerType audience steps).ids :=
    FlowGraph.leads_of_perm hnodup (List.Perm.of_eq hlinks)
  -- the walk gets a step for every edge, and the chain has one edge for every node behind its start
  have hlength : (assembledGraph triggerType audience steps).edges.length =
      (stepParts 1 (inSequence steps)).length := by
    have hends := congrArg List.length
      (map_fst_chainEnds (assembledGraph triggerType audience steps).ids)
    rw [← hlinks, ids_assembledGraph] at hends
    simpa [FlowGraph.links] using hends
  rw [FlowGraph.schedule, ← scheduleAlong_stepParts_one 0 (inSequence steps)]
  refine FlowGraph.scheduleFrom_of_leads hleads (fun n hn => ?_) ?_
  · exact FlowGraph.node?_of_mem hnodup (List.mem_cons_of_mem _ hn)
  · rw [hlength, length_placeParts]

/-- Steps that are numbered in order stay as they are. -/
theorem inSequence_of_numbered {steps : List WrittenStep} {n : Nat}
    (h : steps.map (·.sequence.val) = List.range' n steps.length) : inSequence steps = steps := by
  refine List.mergeSort_of_pairwise ?_
  have hsorted : (steps.map (·.sequence.val)).Pairwise (· < ·) := by
    rw [h]
    exact List.pairwise_lt_range'
  rw [List.pairwise_map] at hsorted
  exact hsorted.imp fun hlt => decide_eq_true (Nat.le_of_lt hlt)

end FlowBuilder
