import FlowBuilder.Proofs.Graph.Acceptance
import FlowBuilder.Proofs.Graph.Assembled

/-!
# The order in which a chain visits its nodes

The checker finds the trigger by its kind, the schedule starts at the id of an assembled trigger. On
an accepted graph both follow one order of the nodes, `FlowGraph.Visits`, so that they see the same
chain; but the schedule sees only what lies behind the id at which it starts.

* `Visits.eq`: a graph has at most one such order.
* `Visits.schedule_eq`: the schedule is that of the nodes behind the start.
* `schedule_lists_emails_behind_start`: on accepted graphs whose nodes fit their data, the schedule
  lists the emails behind the start, and hence all emails if the start is the trigger.
-/

namespace FlowBuilder

/-- The subjects of the emails among nodes. -/
def emailSubjects (nodes : List Node) : List String :=
  (nodes.filterMap (·.data.email?)).map (·.subject)

/-- The nodes behind the one with the id of an assembled trigger; none if no node has this id. -/
def behindStart (nodes : List Node) : List Node :=
  (nodes.dropWhile (·.id ≠ triggerId)).tail

/-- What stands behind the start are the last of the nodes. -/
theorem behindStart_suffix (nodes : List Node) : behindStart nodes <:+ nodes :=
  (List.tail_suffix _).trans (List.dropWhile_suffix _)

namespace FlowGraph

variable {g : FlowGraph}

/-- The chain of the graph visits its nodes in the given order, from a trigger on. -/
structure Visits (g : FlowGraph) (order : List Node) : Prop where
  /-- Every node is visited once. -/
  perm : order.Perm g.nodes
  /-- The first one is a trigger. -/
  trigger : order.head?.map (·.kind) = some .trigger
  /-- The edges lead from each node to the next. -/
  links : g.links.Perm (chainEnds (order.map (·.id)))

/-- The chain of an accepted graph visits its nodes in some order. -/
theorem exists_visits (h : g.check = .ok ()) :
    g.ids.Nodup ∧ g.countKind .trigger = 1 ∧ ∃ order, g.Visits order := by
  obtain ⟨hnodup, hcount, order, hperm, htrigger, hlinks⟩ := isChain_of_check h
  exact ⟨hnodup, hcount, order, hperm, htrigger, hlinks⟩

/-! ### Following the successors -/

/-- Where each id leads to the next one, it does so from any of them on. -/
theorem Leads.of_suffix {ids ahead : List String} (h : g.Leads ids) (hsuffix : ahead <:+ ids) :
    g.Leads ahead := by
  induction ids with
  | nil =>
    rw [List.suffix_nil.1 hsuffix]
    trivial
  | cons a r ih =>
    rcases List.suffix_cons_iff.1 hsuffix with rfl | hsuffix
    · exact h
    · cases r with
      | nil =>
        rw [List.suffix_nil.1 hsuffix]
        trivial
      | cons b r => exact ih h.2 hsuffix

/-- From one id the successors lead along one list only. -/
theorem Leads.tail_eq {a : String} {r r' : List String} (h : g.Leads (a :: r))
    (h' : g.Leads (a :: r')) : r = r' := by
  -- each node has one successor, so two ways from a node never part
  induction r generalizing a r' with
  | nil =>
    have hnext : g.next? a = none := h
    cases r' with
    | nil => rfl
    | cons b r' =>
      rw [h'.1] at hnext
      cases hnext
  | cons b r ih =>
    obtain ⟨hnext, hleads⟩ : g.next? a = some b ∧ g.Leads (b :: r) := h
    cases r' with
    | nil =>
      have hnone : g.next? a = none := h'
      rw [hnone] at hnext
      cases hnext
    | cons c r' =>
      obtain ⟨hnext', hleads'⟩ : g.next? a = some c ∧ g.Leads (c :: r') := h'
      rw [hnext] at hnext'
      cases hnext'
      rw [ih hleads hleads']

namespace Visits

variable {order other : List Node}

/-- No node is visited twice. -/
theorem nodup_ids (hnodup : g.ids.Nodup) (h : g.Visits order) : (order.map (·.id)).Nodup :=
  (h.perm.map Node.id).nodup_iff.2 hnodup

/-- Each visited node leads to the next one. -/
theorem leads (hnodup : g.ids.Nodup) (h : g.Visits order) : g.Leads (order.map (·.id)) :=
  leads_of_perm (h.nodup_ids hnodup) h.links

/-- The nodes of an order are found by their ids. -/
theorem map_node? (hnodup : g.ids.Nodup) (h : g.Visits order) :
    (order.map (·.id)).map g.node? = order.map some := by
  rw [List.map_map]
  exact List.map_congr_left fun n hn => node?_of_mem hnodup (h.perm.mem_iff.1 hn)

/-- The visits start with the trigger. -/
theorem exists_cons (h : g.Visits order) :
    ∃ trigger rest, order = trigger :: rest ∧ trigger.kind = .trigger := by
  have htrigger := h.trigger
  cases order with
  | nil => simp at htrigger
  | cons trigger rest => exact ⟨trigger, rest, rfl, by simpa using htrigger⟩

/-- A graph with one trigger is visited in one order only. -/
theorem eq (hnodup : g.ids.Nodup) (hcount : g.countKind .trigger = 1) (h : g.Visits order)
    (h' : g.Visits other) : other = order := by
  obtain ⟨trigger, rest, horder, hkind⟩ := h.exists_cons
  obtain ⟨trigger', rest', hother, hkind'⟩ := h'.exists_cons
  have hmem : trigger ∈ g.nodes := h.perm.mem_iff.1 (by rw [horder]; exact List.mem_cons_self)
  have hmem' : trigger' ∈ g.nodes := h'.perm.mem_iff.1 (by rw [hother]; exact List.mem_cons_self)
  -- both orders start at the one trigger, and the successors do the rest
  have hsame : trigger' = trigger := by
    have hfilter := filter_kind_eq_singleton hcount hmem hkind
    rw [filter_kind_eq_singleton hcount hmem' hkind'] at hfilter
    exact (List.cons.inj hfilter).1
  have hids : other.map (·.id) = order.map (·.id) := by
    have hleads := h.leads hnodup
    have hleads' := h'.leads hnodup
    rw [horder, List.map_cons] at hleads ⊢
    rw [hother, hsame, List.map_cons] at hleads' ⊢
    rw [hleads'.tail_eq hleads]
  apply List.map_injective_iff.2 (Option.some_injective Node)
  rw [← h.map_node? hnodup, ← h'.map_node? hnodup, hids]

/-- A graph has one edge fewer than visits. -/
theorem length_edges (h : g.Visits order) : g.edges.length = order.length - 1 := by
  have hlength := h.links.length_eq
  rwa [FlowGraph.links, List.length_map, length_chainEnds, List.length_map] at hlength

/-! ### The schedule -/

/-- From the start the successors lead along the nodes behind it. -/
theorem leads_behindStart (hnodup : g.ids.Nodup) (h : g.Visits order) :
    g.Leads (triggerId :: (behindStart order).map (·.id)) := by
  rw [behindStart]
  cases hdrop : order.dropWhile (·.id ≠ triggerId) with
  | nil =>
    -- no node has the id, so that no edge leaves it
    refine next?_eq_none_iff.2 fun b hb => ?_
    have hsource : triggerId ∈ (chainEnds (order.map (·.id))).map Prod.fst :=
      List.mem_map.2 ⟨(triggerId, b), h.links.mem_iff.1 hb, rfl⟩
    rw [map_fst_chainEnds] at hsource
    obtain ⟨node, hnode, hid⟩ := List.mem_map.1 (List.mem_of_mem_dropLast hsource)
    have hother := List.dropWhile_eq_nil_iff.1 hdrop node hnode
    simp [hid] at hother
  | cons start behind =>
    have hstart : start.id = triggerId := by
      have hhead := List.head?_dropWhile_not (·.id ≠ triggerId) order
      rw [hdrop] at hhead
      simpa using hhead
    have hsuffix : start :: behind <:+ order := hdrop ▸ List.dropWhile_suffix _
    have hleads : g.Leads (start.id :: behind.map (·.id)) :=
      (h.leads hnodup).of_suffix (hsuffix.map Node.id)
    rwa [hstart] at hleads

/-- The nodes behind the start are found by their ids. -/
theorem node?_of_mem_behindStart (hnodup : g.ids.Nodup) (h : g.Visits order) {node : Node}
    (hnode : node ∈ behindStart order) : g.node? node.id = some node :=
  node?_of_mem hnodup (h.perm.mem_iff.1 ((behindStart_suffix order).subset hnode))

/-- Behind the start there are at most as many nodes as there are edges. -/
theorem length_behindStart_le (h : g.Visits order) :
    (behindStart order).length ≤ g.edges.length := by
  have hdrop := (List.dropWhile_suffix (l := order) (·.id ≠ triggerId)).length_le
  rw [h.length_edges, behindStart, List.length_tail]
  exact Nat.sub_le_sub_right hdrop 1

/-- The schedule is that of the nodes behind the start. -/
theorem schedule_eq (hnodup : g.ids.Nodup) (h : g.Visits order) :
    g.schedule = scheduleAlong 0 (behindStart order) :=
  scheduleFrom_of_leads (h.leads_behindStart hnodup)
    (fun _ hnode => h.node?_of_mem_behindStart hnodup hnode) h.length_behindStart_le

end Visits

end FlowGraph

/-- Nodes that fit their data have a schedule, which lists their emails. -/
theorem exists_scheduleAlong {nodes : List Node} (hfits : ∀ n ∈ nodes, n.kind = n.data.kind)
    (pending : Nat) :
    ∃ sch, scheduleAlong pending nodes = .ok sch ∧ sch.map (·.1) = emailSubjects nodes := by
  induction nodes generalizing pending with
  | nil => exact ⟨[], rfl, rfl⟩
  | cons node r ih =>
    have hkind := hfits node List.mem_cons_self
    have hrest := ih fun n hn => hfits n (List.mem_cons_of_mem node hn)
    rw [scheduleAlong, emailSubjects, hkind]
    -- only an email is listed; a delay is carried to the next one
    cases hdata : node.data with
    | trigger d =>
      rw [List.filterMap_cons_none (by rw [hdata]; rfl)]
      exact hrest pending
    | delay d =>
      rw [List.filterMap_cons_none (by rw [hdata]; rfl)]
      exact hrest (pending + d.delayDays.val)
    | email e =>
      obtain ⟨sch, hsch, hsubjects⟩ := hrest 0
      refine ⟨(e.subject, pending) :: sch, ?_, ?_⟩
      · show (scheduleAlong 0 r).map _ = _
        rw [hsch]
        rfl
      · rw [List.filterMap_cons_some (by rw [hdata]; rfl), List.map_cons, List.map_cons, hsubjects]
        rfl

/-- The emails of a list lie behind the start just if none lies before. -/
theorem emailSubjects_behindStart_eq_iff {order : List Node} (hnodup : (order.map (·.id)).Nodup)
    (hfits : ∀ n ∈ order, n.kind = n.data.kind) :
    emailSubjects (behindStart order) = emailSubjects order ↔
      ∀ n ∈ order, n.kind = .email → n ∈ behindStart order := by
  obtain ⟨front, hfront⟩ := behindStart_suffix order
  generalize behindStart order = behind at hfront ⊢
  subst hfront
  have hsplit : emailSubjects (front ++ behind) = emailSubjects front ++ emailSubjects behind := by
    simp only [emailSubjects, List.filterMap_append, List.map_append]
  have hemail : ∀ n ∈ front, n.kind = .email ↔ n.data.email? ≠ none := by
    intro n hn
    rw [hfits n (List.mem_append_left behind hn)]
    cases n.data <;> simp [NodeData.kind, NodeData.email?]
  rw [hsplit, List.self_eq_append_left, emailSubjects, List.map_eq_nil_iff,
    List.filterMap_eq_nil_iff]
  constructor
  · intro hnone n hn hkind
    rcases List.mem_append.1 hn with hn | hn
    · exact absurd (hnone n hn) ((hemail n hn).1 hkind)
    · exact hn
  · intro hall n hn
    by_contra hdata
    -- an email of both parts would have its id twice
    have hbehind := hall n (List.mem_append_left behind hn) ((hemail n hn).2 hdata)
    rw [List.map_append] at hnodup
    exact (List.nodup_append.1 hnodup).2.2 n.id (List.mem_map_of_mem hn) n.id
      (List.mem_map_of_mem hbehind) rfl

namespace FlowGraph

/-- An accepted graph whose nodes fit their data has a schedule, which lists the emails that its
chain visits behind the start, in the order of their visits. These are all emails of the graph if
the trigger has the id at which the schedule starts; in general they are just if no email is visited
at the start or before it. -/
theorem schedule_lists_emails_behind_start (g : FlowGraph) (haccepted : g.check = .ok ())
    (hfits : ∀ n ∈ g.nodes, n.kind = n.data.kind) :
    ∃ order sch, g.Visits order ∧ (∀ other, g.Visits other → other = order) ∧
      g.schedule = .ok sch ∧ sch.map (·.1) = emailSubjects (behindStart order) ∧
      (order.head?.map (·.id) = some triggerId → sch.map (·.1) = emailSubjects order) ∧
      (sch.map (·.1) = emailSubjects order ↔
        ∀ n ∈ order, n.kind = .email → n ∈ behindStart order) := by
  obtain ⟨hnodup, hcount, order, hvisits⟩ := exists_visits haccepted
  have hfits' : ∀ n ∈ order, n.kind = n.data.kind :=
    fun n hn => hfits n (hvisits.perm.mem_iff.1 hn)
  have hbehind : behindStart order ⊆ order :=
    ((List.tail_suffix _).trans (List.dropWhile_suffix _)).subset
  obtain ⟨sch, hsch, hsubjects⟩ := exists_scheduleAlong (fun n hn => hfits' n (hbehind hn)) 0
  have hiff := emailSubjects_behindStart_eq_iff (hvisits.nodup_ids hnodup) hfits'
  rw [← hvisits.schedule_eq hnodup] at hsch
  refine ⟨order, sch, hvisits, fun other hother => hvisits.eq hnodup hcount hother, hsch, hsubjects,
    fun hid => ?_, ?_⟩
  · -- the start is the trigger, which is no email
    rw [hsubjects, hiff]
    intro n hn hemail
    obtain ⟨trigger, rest, rfl, hkind⟩ := hvisits.exists_cons
    have hstart : trigger.id = triggerId := by simpa using hid
    have hrest : behindStart (trigger :: rest) = rest := by
      simp [behindStart, hstart]
    rw [hrest]
    refine (List.mem_cons.1 hn).resolve_left ?_
    rintro rfl
    rw [hkind] at hemail
    cases hemail
  · rw [hsubjects]
    exact hiff

/-- A chain in which a delay has the id of an assembled trigger. -/
def startInside : FlowGraph where
  nodes := [⟨"c", .email, .email ⟨"", "", "Later", ⟨2, Nat.two_pos⟩⟩, ⟨0, 0⟩⟩,
    ⟨"a", .email, .email ⟨"", "", "First", ⟨1, Nat.one_pos⟩⟩, ⟨0, 0⟩⟩,
    ⟨triggerId, .delay, .delay { name := "", delayDays := ⟨3, by decide⟩ }, ⟨0, 0⟩⟩,
    ⟨"start", .trigger, .trigger { triggerType := .manual }, ⟨0, 0⟩⟩]
  edges := [⟨"", triggerId, "c"⟩, ⟨"", "start", "a"⟩, ⟨"", "a", triggerId⟩]

/-- It is accepted, and its schedule lists the emails behind that delay. -/
theorem schedule_startInside :
    startInside.check = .ok () ∧ (∀ n ∈ startInside.nodes, n.kind = n.data.kind) ∧
      ∃ order sch, startInside.Visits order ∧ startInside.schedule = .ok sch ∧
        sch.map (·.1) = emailSubjects (behindStart order) := by
  have haccepted : startInside.check = .ok () := rfl
  have hfits : ∀ n ∈ startInside.nodes, n.kind = n.data.kind := by
    simp [startInside, NodeData.kind]
  obtain ⟨order, sch, hvisits, -, hsch, hsubjects, -⟩ :=
    schedule_lists_emails_behind_start startInside haccepted hfits
  exact ⟨haccepted, hfits, order, sch, hvisits, hsch, hsubjects⟩

/-- A chain of a trigger with an id of its own and an email. -/
def ownTriggerId : FlowGraph where
  nodes := [⟨"start", .trigger, .trigger { triggerType := .manual }, ⟨0, 0⟩⟩,
    ⟨"welcome", .email, .email ⟨"Email 1", "t-1", "Hello", ⟨1, Nat.one_pos⟩⟩, ⟨0, 0⟩⟩]
  edges := [⟨"edge-1", "start", "welcome"⟩]

/-- Not every accepted graph whose nodes fit their data has a schedule that lists all its emails:
the trigger may have another id than an assembled one. -/
theorem accepted_email_unscheduled :
    ¬ ∀ g : FlowGraph, g.check = .ok () → (∀ n ∈ g.nodes, n.kind = n.data.kind) →
      ∃ order sch, g.Visits order ∧ g.schedule = .ok sch ∧
        sch.map (·.1) = emailSubjects order := by
  intro hall
  have hfits : ∀ n ∈ ownTriggerId.nodes, n.kind = n.data.kind := by
    simp [ownTriggerId, NodeData.kind]
  obtain ⟨order, sch, hvisits, hsch, hsubjects⟩ := hall ownTriggerId rfl hfits
  have hnone : ownTriggerId.schedule = .ok [] := rfl
  rw [hnone] at hsch
  cases hsch
  -- the email is visited all the same
  have hemails := hvisits.perm.filterMap (·.data.email?)
  rw [List.map_nil, eq_comm, emailSubjects, List.map_eq_nil_iff] at hsubjects
  rw [hsubjects] at hemails
  cases hemails.symm.eq_nil

end FlowGraph

end FlowBuilder
