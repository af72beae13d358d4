import Mathlib
import FlowBuilder.Proofs.Graph.Sequence

/-!
# The layout of assembled graphs

Which nodes and edges `assemble` lists, and in what order. After the trigger come the emails in
their sequence; each email but the first that waits has its delay right before it. Each edge joins
the node in its place of the list with the next one. `FlowGraph.LaysOut` says so part by part.

* `source_eq_of_id_eq`: the id of an edge tells its source, as the id of a node is a word and a
  number.
* `countKind_add_countKind_add_countKind`: every node is a trigger, a delay or an email.
* `delay_infix_stepParts`: the delay of an email that waits stands right before it.
* `laysOut_assembledGraph`, `assemble_lays_out`: assembled graphs are laid out like this.
-/

namespace FlowBuilder

/-! ### Ids of edges -/

/-- Ids like those of the nodes of assembled graphs: a word and a number, with a hyphen between. -/
def IsNodeId (id : String) : Prop :=
  ∃ word number, id = word ++ "-" ++ number ∧ '-' ∉ word.toList ∧ '-' ∉ number.toList

/-- No digit is a hyphen. -/
theorem hyphen_notMem_toString (n : Nat) : '-' ∉ (toString n).toList := by
  intro h
  have hdigit := Nat.isDigit_of_mem_toDigits (by decide) (by decide) (Nat.toList_repr ▸ h)
  revert hdigit
  decide

/-- The id of the trigger is one of a node. -/
theorem isNodeId_triggerId : IsNodeId triggerId :=
  ⟨"trigger", "1", rfl, by decide, by decide⟩

/-- The id of a delay is one of a node. -/
theorem isNodeId_delayId (position : Nat) : IsNodeId (delayId position) :=
  ⟨"delay", toString position, rfl, by decide, hyphen_notMem_toString position⟩

/-- The id of an email is one of a node. -/
theorem isNodeId_emailId (position : Nat) : IsNodeId (emailId position) :=
  ⟨"email", toString position, rfl, by decide, hyphen_notMem_toString position⟩

/-- Of two equal texts the parts before the first hyphen are equal, and so are those after it. -/
theorem append_hyphen_inj {first first' rest rest' : List Char} (hfirst : '-' ∉ first)
    (hfirst' : '-' ∉ first') (h : first ++ '-' :: rest = first' ++ '-' :: rest') :
    first = first' ∧ rest = rest' := by
  induction first generalizing first' with
  | nil =>
    match first' with
    | [] => exact ⟨rfl, (List.cons.inj h).2⟩
    | c :: _ =>
      obtain ⟨rfl, -⟩ := List.cons.inj h
      exact absurd List.mem_cons_self hfirst'
  | cons c r ih =>
    match first' with
    | [] =>
      obtain ⟨rfl, -⟩ := List.cons.inj h
      exact absurd List.mem_cons_self hfirst
    | c' :: r' =>
      obtain ⟨rfl, htail⟩ := List.cons.inj h
      obtain ⟨rfl, hrest⟩ := ih (List.not_mem_of_not_mem_cons hfirst)
        (List.not_mem_of_not_mem_cons hfirst') htail
      exact ⟨rfl, hrest⟩

/-- The id of an edge tells its source, which ends at the third hyphen. -/
theorem source_eq_of_id_eq {a b c d : String} (ha : IsNodeId a) (hc : IsNodeId c)
    (h : (Edge.between a b).id = (Edge.between c d).id) : a = c := by
  obtain ⟨word, number, rfl, hword, hnumber⟩ := ha
  obtain ⟨word', number', rfl, hword', hnumber'⟩ := hc
  have hchars := congrArg String.toList h
  have hhyphen : "-".toList = ['-'] := rfl
  simp only [Edge.between, String.toList_append, List.append_assoc, List.append_cancel_left_eq,
    hhyphen, List.cons_append, List.nil_append] at hchars
  -- the first hyphen ends the words, and the second ends the numbers
  obtain ⟨hwords, hrest⟩ := append_hyphen_inj hword hword' hchars
  obtain ⟨hnumbers, -⟩ := append_hyphen_inj hnumber hnumber' hrest
  rw [String.toList_injective hwords, String.toList_injective hnumbers]

/-- A chain has one edge fewer than ids. -/
theorem length_chainEdges (ids : List String) : (chainEdges ids).length = ids.length - 1 := by
  rw [chainEdges_eq_map, List.length_map, length_chainEnds]

/-- Each edge of a chain joins the id in its place with the next one. -/
theorem getElem?_chainEdges {ids : List String} {k : Nat} {e : Edge} :
    (chainEdges ids)[k]? = some e ↔
      ∃ a b, ids[k]? = some a ∧ ids[k + 1]? = some b ∧ .between a b = e := by
  rw [chainEdges_eq_map, chainEnds_eq_zip, List.map_zip_eq_zipWith,
    List.getElem?_zipWith_eq_some]
  simp only [List.getElem?_tail, Function.curry]

/-- The edges of a chain over distinct ids of nodes have distinct ids. -/
theorem nodup_map_id_chainEdges {ids : List String} (hnodup : ids.Nodup)
    (hids : ∀ id ∈ ids, IsNodeId id) : ((chainEdges ids).map (·.id)).Nodup := by
  -- the sources are all ids but the last, and the id of an edge tells its source
  have hsources : ((chainEdges ids).map (·.source)).Nodup := by
    have hends := congrArg (List.map Prod.fst) (map_ends_chainEdges ids)
    rw [List.map_map, map_fst_chainEnds] at hends
    exact hends ▸ hnodup.sublist (List.dropLast_sublist ids)
  have hbetween : ∀ e ∈ chainEdges ids, ∃ a b, IsNodeId a ∧ .between a b = e := by
    intro e he
    obtain ⟨k, hk⟩ := List.mem_iff_getElem?.1 he
    obtain ⟨a, b, ha, -, heq⟩ := getElem?_chainEdges.1 hk
    exact ⟨a, b, hids a (List.mem_of_getElem? ha), heq⟩
  rw [List.Nodup, List.pairwise_map] at hsources ⊢
  refine hsources.imp_of_mem ?_
  intro e e' he he' hne hid
  apply hne
  obtain ⟨a, b, ha, rfl⟩ := hbetween e he
  obtain ⟨c, d, hc, rfl⟩ := hbetween e' he'
  exact source_eq_of_id_eq ha hc hid

/-! ### Parts in their places -/

/-- Placing nodes adds only their positions. -/
theorem map_fst_snd_placeParts (i : Nat) (parts : List Unplaced) :
    (placeParts i parts).map (fun n => (n.id, n.data)) = parts := by
  induction parts generalizing i with
  | nil => rfl
  | cons part r ih => rw [placeParts, List.map_cons, ih]

/-- The parts of some emails and of others after them. -/
theorem stepParts_append (position : Nat) (first second : List WrittenStep) :
    stepParts position (first ++ second) =
      stepParts position first ++ stepParts (position + first.length) second := by
  induction first generalizing position with
  | nil => rfl
  | cons step r ih =>
    have hposition : position + 1 + r.length = position + (r.length + 1) := by omega
    rw [List.cons_append, stepParts, stepParts, ih, List.append_assoc, List.cons_append,
      List.length_cons, hposition]

/-- How many emails wait: the first never does. -/
def waitCount (steps : List WrittenStep) : Nat :=
  steps.tail.countP (0 < ·.delayDays.val)

/-- Past the first position there is a delay for each email that has days to wait. -/
theorem length_stepParts {position : Nat} (hposition : 1 < position) (steps : List WrittenStep) :
    (stepParts position steps).length = steps.length + steps.countP (0 < ·.delayDays.val) := by
  induction steps generalizing position with
  | nil => rfl
  | cons step r ih =>
    -- no position from here on is the first, so that the days alone decide
    have hdelay : (delayPart? position step).toList.length =
        if 0 < step.delayDays.val then 1 else 0 := by
      have hids := congrArg List.length (map_fst_delayPart? position step)
      rw [List.length_map] at hids
      rw [hids]
      simp only [hposition, true_and]
      split <;> rfl
    rw [stepParts, List.length_append, List.length_cons, List.length_cons, List.countP_cons,
      ih (Nat.lt_succ_of_lt hposition), hdelay]
    simp only [decide_eq_true_eq]
    omega

/-- Each step gives an email, and a delay if it waits and is not the first. -/
theorem length_stepParts_one (steps : List WrittenStep) :
    (stepParts 1 steps).length = steps.length + waitCount steps := by
  cases steps with
  | nil => rfl
  | cons step r =>
    -- the first email comes without a delay, and the others are past the first position
    have hnone : delayPart? 1 step = none := by
      rw [delayPart?, dif_neg fun h => absurd h.1 (Nat.lt_irrefl 1)]
    rw [stepParts, hnone, Option.toList_none, List.nil_append, List.length_cons,
      length_stepParts (Nat.lt_succ_self 1), waitCount, List.tail_cons, List.length_cons]
    omega

/-- The delay of an email that waits stands right before the email. -/
theorem delay_infix_stepParts {steps : List WrittenStep} {i : Nat} {step : WrittenStep}
    (hstep : steps[i]? = some step) (hfirst : 0 < i) (hdays : 0 < step.delayDays.val) :
    ∃ wait : DelayData, wait.delayDays.val = step.delayDays.val ∧
      [(delayId (i + 1), .delay wait), (emailId (i + 1), .email step.emailData)] <:+:
        stepParts 1 steps := by
  obtain ⟨before, after, rfl, rfl⟩ :
      ∃ before after, steps = before ++ step :: after ∧ before.length = i := by
    obtain ⟨hi, rfl⟩ := List.getElem?_eq_some_iff.1 hstep
    refine ⟨steps.take i, steps.drop (i + 1), ?_, List.length_take_of_le (Nat.le_of_lt hi)⟩
    rw [← List.drop_eq_getElem_cons hi, List.take_append_drop]
  -- the emails before this one take the parts before its delay
  have hdelay : 1 < before.length + 1 ∧ 0 < step.delayDays.val :=
    ⟨Nat.lt_add_of_pos_left hfirst, hdays⟩
  refine ⟨⟨"Wait " ++ daysText step.delayDays, ⟨step.delayDays.val, hdays⟩, 0⟩, rfl, ?_⟩
  rw [stepParts_append, Nat.add_comm 1, stepParts, delayPart?, dif_pos hdelay]
  exact List.infix_append' _ [_, _] _

/-! ### The layout -/

/-- Each node is of one kind. -/
theorem FlowGraph.countKind_add_countKind_add_countKind (g : FlowGraph) :
    g.countKind .trigger + g.countKind .delay + g.countKind .email = g.nodes.length := by
  simp only [countKind]
  induction g.nodes with
  | nil => rfl
  | cons node r ih =>
    simp only [List.countP_cons, List.length_cons]
    -- the first node adds one to the count of its own kind
    cases node.kind <;> simp <;> omega

/-- How a graph lists the nodes and edges of a chain over emails in their sequence. -/
structure FlowGraph.LaysOut (sorted : List WrittenStep) (g : FlowGraph) : Prop where
  /-- No two nodes share an id. -/
  nodup_ids : g.ids.Nodup
  /-- No two edges share an id. -/
  nodup_edgeIds : (g.edges.map (·.id)).Nodup
  /-- Each edge joins the node in its place with the next. -/
  joined : ∀ (k : Nat) (e : Edge), g.edges[k]? = some e →
    ∃ a b, g.nodes[k]? = some a ∧ g.nodes[k + 1]? = some b ∧ e.source = a.id ∧ e.target = b.id
  /-- The first node is a trigger, and no other is. -/
  trigger : ∃ first rest, g.nodes = first :: rest ∧ first.kind = .trigger ∧
    ∀ node ∈ rest, node.kind ≠ .trigger
  /-- Each node has data of its kind. -/
  kinds : ∀ node ∈ g.nodes, node.kind = node.data.kind
  /-- There are the trigger, the emails and the delays. -/
  nodeCount : g.nodes.length = 1 + sorted.length + waitCount sorted
  /-- There is one edge less. -/
  edgeCount : g.edges.length = sorted.length + waitCount sorted
  /-- The emails are in their sequence. -/
  emails : g.emails = sorted.map (·.emailData)
  /-- There is a delay for each email that waits. -/
  delayCount : g.countKind .delay = waitCount sorted
  /-- The delay of an email that waits has its days, and stands right before it. -/
  delays : ∀ (i : Nat) (step : WrittenStep), sorted[i]? = some step → 0 < i →
    0 < step.delayDays.val → ∃ wait : DelayData, wait.delayDays.val = step.delayDays.val ∧
      [(delayId (i + 1), .delay wait), (emailId (i + 1), .email step.emailData)] <:+:
        g.nodes.map fun node => (node.id, node.data)

section

variable (triggerType : TriggerType) (audience : TriggerAudience) (steps : List WrittenStep)

/-- Every id of an assembled graph is one of a node. -/
theorem isNodeId_of_mem_assembledGraph {id : String}
    (h : id ∈ (assembledGraph triggerType audience steps).ids) : IsNodeId id := by
  rw [ids_assembledGraph] at h
  rcases List.mem_cons.1 h with rfl | h
  · exact isNodeId_triggerId
  · obtain ⟨k, -, rfl | rfl⟩ := exists_position_of_mem h
    · exact isNodeId_delayId k
    · exact isNodeId_emailId k

/-- An assembled graph is laid out over its emails in their sequence. -/
theorem laysOut_assembledGraph :
    (assembledGraph triggerType audience steps).LaysOut (inSequence steps) := by
  have hids := ids_assembledGraph triggerType audience steps
  have hnodup := nodup_ids_assembledGraph triggerType audience steps
  have hedges : (assembledGraph triggerType audience steps).edges =
      chainEdges (assembledGraph triggerType audience steps).ids := by
    rw [hids]
    rfl
  have hnodes : (assembledGraph triggerType audience steps).nodes.length =
      1 + (inSequence steps).length + waitCount (inSequence steps) := by
    rw [assembledGraph, List.length_cons, length_placeParts, length_stepParts_one]
    omega
  have hemails := countKind_email_assembledGraph triggerType audience steps
  constructor
  case nodup_ids => exact hnodup
  case nodup_edgeIds =>
    rw [hedges]
    exact nodup_map_id_chainEdges hnodup fun _ => isNodeId_of_mem_assembledGraph _ _ _
  case joined =>
    intro k e he
    rw [hedges] at he
    obtain ⟨_, _, ha, hb, rfl⟩ := getElem?_chainEdges.1 he
    rw [FlowGraph.ids, List.getElem?_map, Option.map_eq_some_iff] at ha hb
    obtain ⟨a, ha, rfl⟩ := ha
    obtain ⟨b, hb, rfl⟩ := hb
    exact ⟨a, b, ha, hb, rfl, rfl⟩
  case trigger =>
    refine ⟨_, _, rfl, rfl, ?_⟩
    intro node hmem hkind
    -- there is one node of this kind, and the first is one
    have hcount := countKind_trigger_assembledGraph triggerType audience steps
    rw [FlowGraph.countKind, assembledGraph, List.countP_cons_of_pos rfl, Nat.succ_inj,
      List.countP_eq_zero] at hcount
    exact hcount node hmem (decide_eq_true hkind)
  case kinds => exact fun _ => kind_of_mem_assembledGraph _ _ _
  case nodeCount => exact hnodes
  case edgeCount =>
    rw [assembledGraph, length_chainEdges, List.length_cons, List.length_map,
      length_stepParts_one, Nat.add_sub_cancel]
  case emails => exact emails_assembledGraph _ _ _
  case delayCount =>
    -- what is neither the trigger nor an email
    have hkinds := (assembledGraph triggerType audience steps).countKind_add_countKind_add_countKind
    have hsorted : (inSequence steps).length = steps.length := List.length_mergeSort steps
    rw [countKind_trigger_assembledGraph, hemails, hnodes, hsorted] at hkinds
    omega
  case delays =>
    intro i step hstep hfirst hdays
    obtain ⟨wait, hwait, hinfix⟩ := delay_infix_stepParts hstep hfirst hdays
    refine ⟨wait, hwait, ?_⟩
    rw [assembledGraph, List.map_cons, map_fst_snd_placeParts]
    exact hinfix.trans (List.suffix_cons _ _).isInfix

end

/-- Assembling fails just if there is no email. Otherwise the graph passes the check, and is laid
out over the emails in their stable order. -/
theorem assemble_lays_out (plan : Plan) (audience : TriggerAudience) (steps : List WrittenStep) :
    (assemble plan audience steps = .error (.emptyPlan (Text.quotedString plan.flowName)) ↔
      steps = []) ∧
    (steps = [] ∨ ∃ graph sorted, assemble plan audience steps = .ok graph ∧
      StableOrder steps sorted ∧ graph.check = .ok () ∧ graph.LaysOut sorted) := by
  by_cases hsome : steps = []
  · subst hsome
    exact ⟨⟨fun _ => rfl, fun _ => rfl⟩, Or.inl rfl⟩
  · have hok : assemble plan audience steps =
        .ok (assembledGraph plan.triggerType audience steps) := assemble_eq_ok hsome
    refine ⟨⟨?_, ?_⟩, Or.inr ?_⟩
    · intro herror
      rw [hok] at herror
      cases herror
    · intro hempty
      exact absurd hempty hsome
    -- the assembled graph is laid out by the sorted steps, and a chain passes the check
    · exact ⟨_, inSequence steps, hok, stableOrder_inSequence steps,
        FlowGraph.check_of_isChain (isChain_assembledGraph _ _ _), laysOut_assembledGraph _ _ _⟩

end FlowBuilder
