import FlowBuilder.Proofs.Graph.Visits

/-!
# Waiting times along a chain

What the schedule of an accepted graph says. The walk from the start comes to an end after fewer
moves than there are nodes, and finds every node that it comes to. The nodes on its way fall into
legs, each of which ends at an email: an email waits for the delays of its own leg, and what lies
behind the last email does not count.

* `scheduleAlong_legs`: the schedule of nodes that are given leg by leg.
* `exists_legs`: nodes fall into legs.
* `accepted_schedule_sums_delays`: the walk over an accepted graph ends, and if the start is the
  trigger, the schedule pairs each email with the days of its leg.
-/

namespace FlowBuilder

/-- The days that pass at a node. Only a delay takes any. -/
def Node.days (node : Node) : Nat :=
  match node.data with
  | .delay d => d.delayDays.val
  | _ => 0

/-- The days of the delays among nodes. -/
def totalDays (nodes : List Node) : Nat :=
  (nodes.map (·.days)).sum

/-- A leg of a chain: an email, and the nodes between it and the email before. -/
structure Leg where
  /-- The nodes before the email. -/
  before : List Node
  /-- The node of the email. -/
  node : Node
  /-- The email. -/
  email : EmailData
  /-- The node holds the email. -/
  holds : node.data = .email email
  /-- No node before it holds one. -/
  noEmail : ∀ n ∈ before, n.data.email? = none

namespace Leg

/-- The nodes of a leg. -/
def nodes (leg : Leg) : List Node :=
  leg.before ++ [leg.node]

/-- What the schedule says of a leg: the subject of the email, and the days before it. -/
def entry (leg : Leg) : String × Nat :=
  (leg.email.subject, totalDays leg.before)

/-- The email of a leg is the only one among its nodes. -/
theorem filterMap_email?_nodes (leg : Leg) :
    leg.nodes.filterMap (·.data.email?) = [leg.email] := by
  have hbefore : leg.before.filterMap (·.data.email?) = [] :=
    List.filterMap_eq_nil_iff.2 leg.noEmail
  rw [nodes, List.filterMap_append, hbefore, List.nil_append,
    List.filterMap_cons_some (by rw [leg.holds]; rfl), List.filterMap_nil]

end Leg

/-- The emails of legs, one of each. -/
theorem filterMap_email?_legs (legs : List Leg) :
    (legs.flatMap Leg.nodes).filterMap (·.data.email?) = legs.map (·.email) := by
  induction legs with
  | nil => rfl
  | cons leg r ih =>
    rw [List.flatMap_cons, List.filterMap_append, ih, leg.filterMap_email?_nodes]
    rfl

/-! ### Schedules of legs -/

/-- Nodes without an email only add to the days that are pending. -/
theorem scheduleAlong_append {before rest : List Node}
    (hfits : ∀ n ∈ before, n.kind = n.data.kind) (hnone : ∀ n ∈ before, n.data.email? = none)
    (pending : Nat) :
    scheduleAlong pending (before ++ rest) = scheduleAlong (pending + totalDays before) rest := by
  induction before generalizing pending with
  | nil => rfl
  | cons node r ih =>
    have hkind := hfits node List.mem_cons_self
    have hother := hnone node List.mem_cons_self
    have hrest := ih (fun n hn => hfits n (List.mem_cons_of_mem node hn))
      (fun n hn => hnone n (List.mem_cons_of_mem node hn))
    have htotal : totalDays (node :: r) = node.days + totalDays r := List.sum_cons
    rw [List.cons_append, scheduleAlong, hkind, htotal, Node.days]
    -- a delay adds its days to those pending, and no email takes them
    cases hdata : node.data with
    | trigger d =>
      rw [Nat.zero_add]
      exact hrest pending
    | delay d =>
      rw [← Nat.add_assoc]
      exact hrest (pending + d.delayDays.val)
    | email e =>
      rw [hdata] at hother
      cases hother

/-- A leg adds its entry to the schedule of what follows it. -/
theorem scheduleAlong_leg {leg : Leg} (hfits : ∀ n ∈ leg.nodes, n.kind = n.data.kind)
    (rest : List Node) :
    scheduleAlong 0 (leg.nodes ++ rest) = (scheduleAlong 0 rest).map (leg.entry :: ·) := by
  have hbefore : ∀ n ∈ leg.before, n.kind = n.data.kind :=
    fun n hn => hfits n (List.mem_append_left _ hn)
  have hkind : leg.node.kind = leg.node.data.kind :=
    hfits leg.node (List.mem_append_right _ (List.mem_singleton_self _))
  rw [Leg.nodes, List.append_assoc, scheduleAlong_append hbefore leg.noEmail, Nat.zero_add,
    List.singleton_append, scheduleAlong, hkind, leg.holds]
  rfl

/-- The schedule of legs has one entry for each of them, whatever without an email follows. -/
theorem scheduleAlong_legs {legs : List Leg} {rest : List Node}
    (hfits : ∀ n ∈ legs.flatMap Leg.nodes ++ rest, n.kind = n.data.kind)
    (hrest : ∀ n ∈ rest, n.data.email? = none) :
    scheduleAlong 0 (legs.flatMap Leg.nodes ++ rest) = .ok (legs.map Leg.entry) := by
  induction legs with
  | nil =>
    have hend : scheduleAlong 0 (rest ++ []) = scheduleAlong (0 + totalDays rest) [] :=
      scheduleAlong_append hfits hrest 0
    rw [List.append_nil] at hend
    exact hend
  | cons leg r ih =>
    rw [List.flatMap_cons, List.append_assoc] at hfits ⊢
    rw [scheduleAlong_leg fun n hn => hfits n (List.mem_append_left _ hn),
      ih fun n hn => hfits n (List.mem_append_right _ hn)]
    rfl

/-- Nodes fall into legs, behind the last of which there is no email. -/
theorem exists_legs (nodes : List Node) :
    ∃ (legs : List Leg) (rest : List Node), nodes = legs.flatMap Leg.nodes ++ rest ∧
      ∀ n ∈ rest, n.data.email? = none := by
  induction nodes with
  | nil => exact ⟨[], [], rfl, nofun⟩
  | cons node r ih =>
    obtain ⟨legs, rest, rfl, hrest⟩ := ih
    cases hdata : node.data.email? with
    | some email =>
      -- an email is a leg of its own in front of the others
      have hholds : node.data = .email email := by
        cases hnode : node.data with
        | trigger d => rw [hnode] at hdata; cases hdata
        | delay d => rw [hnode] at hdata; cases hdata
        | email e => rw [hnode] at hdata; cases hdata; rfl
      exact ⟨⟨[], node, email, hholds, nofun⟩ :: legs, rest, rfl, hrest⟩
    | none =>
      -- any other node belongs to the first leg, if there is one
      cases legs with
      | nil => exact ⟨[], node :: rest, rfl, List.forall_mem_cons.2 ⟨hdata, hrest⟩⟩
      | cons leg legs =>
        exact ⟨⟨node :: leg.before, leg.node, leg.email, leg.holds,
          List.forall_mem_cons.2 ⟨hdata, leg.noEmail⟩⟩ :: legs, rest, rfl, hrest⟩

/-- Along nodes that are there, only data that do not fit a node can be missed. -/
theorem eq_missingData_of_scheduleAlong {pending : Nat} {nodes : List Node} {f : Fault}
    (h : scheduleAlong pending nodes = .error f) : f = .missingData := by
  fun_induction scheduleAlong pending nodes with
  | case1 => cases h
  | case2 pending node r _ ih => exact ih h
  | case3 pending node r d _ _ ih => exact ih h
  | case4 pending node r e _ _ ih =>
    cases hrest : scheduleAlong 0 r with
    | ok sch => rw [hrest] at h; cases h
    | error g => rw [hrest] at h; cases h; exact ih hrest
  | case5 => cases h; rfl

namespace FlowGraph

/-- On an accepted graph the walk from the start ends after fewer moves than there are nodes, and
finds every node that it comes to, so that it neither goes on for ever nor misses a node. If the
walk starts at the trigger and the nodes fit their data, the nodes behind it fall into legs, one for
each email in the order of the chain, and the schedule pairs the subject of each email with the days
of the delays in its leg. What follows the last email has no part in it. -/
theorem accepted_schedule_sums_delays (g : FlowGraph) (haccepted : g.check = .ok ()) :
    ∃ order, g.Visits order ∧ (∀ other, g.Visits other → other = order) ∧
      (∃ way : List Node, way.length ≤ g.nodes.length - 1 ∧
        g.Leads (triggerId :: way.map (·.id)) ∧ (∀ n ∈ way, g.node? n.id = some n) ∧
        ∀ moves, way.length ≤ moves → g.scheduleFrom moves triggerId 0 = g.schedule) ∧
      g.schedule ≠ .error .endlessWalk ∧ g.schedule ≠ .error .unknownNode ∧
      ((∀ n ∈ g.nodes, n.kind = .trigger → n.id = triggerId) →
        (∀ n ∈ g.nodes, n.kind = n.data.kind) →
        ∃ (trigger : Node) (legs : List Leg) (rest : List Node),
          order = trigger :: (legs.flatMap Leg.nodes ++ rest) ∧
          (∀ n ∈ rest, n.data.email? = none) ∧
          legs.map (·.email) = order.filterMap (·.data.email?) ∧
          g.schedule = .ok (legs.map Leg.entry)) := by
  obtain ⟨hnodup, hcount, order, hvisits⟩ := exists_visits haccepted
  have hleads := hvisits.leads_behindStart hnodup
  have hfind : ∀ n ∈ behindStart order, g.node? n.id = some n :=
    fun _ hn => hvisits.node?_of_mem_behindStart hnodup hn
  have hschedule := hvisits.schedule_eq hnodup
  have hlength : g.edges.length = g.nodes.length - 1 := by
    rw [hvisits.length_edges, hvisits.perm.length_eq]
  -- whatever goes wrong on the way, it is neither of the two
  have hfault : ∀ f, g.schedule = .error f → f = .missingData := by
    intro f hf
    rw [hschedule] at hf
    exact eq_missingData_of_scheduleAlong hf
  refine ⟨order, hvisits, fun other hother => hvisits.eq hnodup hcount hother,
    ⟨behindStart order, ?_, hleads, hfind, ?_⟩, ?_, ?_, ?_⟩
  · rw [← hlength]
    exact hvisits.length_behindStart_le
  · intro moves hmoves
    rw [hschedule]
    exact scheduleFrom_of_leads hleads hfind hmoves
  · intro hendless
    cases hfault _ hendless
  · intro hunknown
    cases hfault _ hunknown
  · intro hnamed hfits
    obtain ⟨trigger, behind, rfl, hkind⟩ := hvisits.exists_cons
    have hstart : trigger.id = triggerId :=
      hnamed trigger (hvisits.perm.mem_iff.1 List.mem_cons_self) hkind
    have hbehind : behindStart (trigger :: behind) = behind := by
      simp [behindStart, hstart]
    have hfits' : ∀ n ∈ trigger :: behind, n.kind = n.data.kind :=
      fun n hn => hfits n (hvisits.perm.mem_iff.1 hn)
    obtain ⟨legs, rest, rfl, hrest⟩ := exists_legs behind
    refine ⟨trigger, legs, rest, rfl, hrest, ?_, ?_⟩
    · -- neither the trigger nor what follows the legs is an email
      have htrigger : trigger.data.email? = none := by
        rw [hfits' trigger List.mem_cons_self] at hkind
        cases hdata : trigger.data with
        | email e => rw [hdata] at hkind; cases hkind
        | trigger d => rfl
        | delay d => rfl
      have hnone : rest.filterMap (·.data.email?) = [] := List.filterMap_eq_nil_iff.2 hrest
      rw [List.filterMap_cons_none (by exact htrigger), List.filterMap_append,
        filterMap_email?_legs, hnone, List.append_nil]
    · rw [hschedule, hbehind]
      exact scheduleAlong_legs (fun n hn => hfits' n (List.mem_cons_of_mem trigger hn)) hrest

/-- A chain with two delays before its first email, none before its second, and one at its end. -/
def paced : FlowGraph where
  nodes := [⟨"last", .delay, .delay { name := "", delayDays := ⟨2, Nat.two_pos⟩ }, ⟨0, 0⟩⟩,
    ⟨"b", .email, .email ⟨"", "", "Again", ⟨2, Nat.two_pos⟩⟩, ⟨0, 0⟩⟩,
    ⟨"a", .email, .email ⟨"", "", "Hello", ⟨1, Nat.one_pos⟩⟩, ⟨0, 0⟩⟩,
    ⟨"second", .delay, .delay { name := "", delayDays := ⟨1, Nat.one_pos⟩ }, ⟨0, 0⟩⟩,
    ⟨"first", .delay, .delay { name := "", delayDays := ⟨2, Nat.two_pos⟩ }, ⟨0, 0⟩⟩,
    ⟨triggerId, .trigger, .trigger { triggerType := .manual }, ⟨0, 0⟩⟩]
  edges := [⟨"", "b", "last"⟩, ⟨"", "a", "b"⟩, ⟨"", "second", "a"⟩, ⟨"", "first", "second"⟩,
    ⟨"", triggerId, "first"⟩]

/-- It is accepted, and its emails are sent after three days and right after that: these are the
entries of its legs. -/
theorem schedule_paced :
    paced.check = .ok () ∧ (∀ n ∈ paced.nodes, n.kind = n.data.kind) ∧
      ∃ (order : List Node) (legs : List Leg), paced.Visits order ∧
        legs.map (·.email) = order.filterMap (·.data.email?) ∧
        legs.map Leg.entry = [("Hello", 3), ("Again", 0)] := by
  have haccepted : paced.check = .ok () := rfl
  have hfits : ∀ n ∈ paced.nodes, n.kind = n.data.kind := by
    simp [paced, NodeData.kind]
  obtain ⟨order, hvisits, -, -, -, -, hlegs⟩ := accepted_schedule_sums_delays paced haccepted
  -- the only trigger has the id of an assembled one
  have hnamed : ∀ n ∈ paced.nodes, n.kind = .trigger → n.id = triggerId := by
    simp [paced]
  obtain ⟨trigger, legs, rest, -, -, hemails, hschedule⟩ := hlegs hnamed hfits
  have hpaced : paced.schedule = .ok [("Hello", 3), ("Again", 0)] := rfl
  rw [hpaced] at hschedule
  exact ⟨haccepted, hfits, order, legs, hvisits, hemails, (Except.ok.inj hschedule).symm⟩

end FlowGraph

end FlowBuilder
