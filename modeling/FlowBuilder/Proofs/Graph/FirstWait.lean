import FlowBuilder.Proofs.Graph.Waits

/-!
# The wait before the first email

An assembled graph sends its first email at once. A graph that is merely accepted may have delays
between the start of the schedule and the first email, and the schedule counts them: the first entry
is that of the first leg, as every other entry is that of its own.

* `exists_leg_of_scheduleAlong`: the first entry of a schedule is that of a leg.
* `first_wait_eq_zero_iff`: the wait before the first email of an accepted graph, and when it is
  none.
* `first_email_waits`: an accepted graph whose first email waits.
-/

namespace FlowBuilder

/-! ### Legs of delays -/

/-- A delay takes some days. -/
theorem Node.days_pos {node : Node} {d : DelayData} (h : node.data = .delay d) : 0 < node.days := by
  rw [Node.days, h]
  exact d.delayDays.property

/-- Where each node takes some days, only no node at all takes none. -/
theorem totalDays_eq_zero_iff {nodes : List Node} (hpos : ∀ n ∈ nodes, 0 < n.days) :
    totalDays nodes = 0 ↔ nodes = [] := by
  cases nodes with
  | nil => exact ⟨fun _ => rfl, fun _ => rfl⟩
  | cons node r =>
    have htotal : totalDays (node :: r) = node.days + totalDays r := List.sum_cons
    have hnode := hpos node List.mem_cons_self
    refine ⟨fun hzero => ?_, nofun⟩
    omega

/-- Along nodes other than triggers, the first entry of a schedule is that of a leg at their front:
an email, and delays before it. -/
theorem exists_leg_of_scheduleAlong {pending : Nat} {nodes : List Node} {first : String × Nat}
    {later : Schedule} (hother : ∀ n ∈ nodes, n.kind ≠ .trigger)
    (h : scheduleAlong pending nodes = .ok (first :: later)) :
    ∃ (leg : Leg) (rest : List Node), nodes = leg.nodes ++ rest ∧ leg.node.kind = .email ∧
      (∀ n ∈ leg.before, n.kind = .delay ∧ 0 < n.days) ∧
      first = (leg.email.subject, pending + totalDays leg.before) := by
  fun_induction scheduleAlong pending nodes with
  | case1 => cases h
  | case2 pending node r hkind _ => exact absurd hkind (hother node List.mem_cons_self)
  | case3 pending node r d hdata hkind ih =>
    obtain ⟨leg, rest, rfl, hemail, hdelays, hfirst⟩ :=
      ih (fun n hn => hother n (List.mem_cons_of_mem node hn)) h
    -- the delay belongs to the leg that follows it
    have hnone : ∀ n ∈ node :: leg.before, n.data.email? = none := by
      refine List.forall_mem_cons.2 ⟨?_, leg.noEmail⟩
      rw [hdata]
      rfl
    refine ⟨⟨node :: leg.before, leg.node, leg.email, leg.holds, hnone⟩, rest, rfl, hemail,
      List.forall_mem_cons.2 ⟨⟨hkind, Node.days_pos hdata⟩, hdelays⟩, ?_⟩
    have htotal : totalDays (node :: leg.before) = d.delayDays.val + totalDays leg.before := by
      rw [totalDays, List.map_cons, List.sum_cons, Node.days, hdata]
      rfl
    rw [hfirst, htotal, Nat.add_assoc]
  | case4 pending node r e hdata hkind _ =>
    -- an email is a leg without delays
    cases hrest : scheduleAlong 0 r with
    | error f =>
      rw [hrest] at h
      cases h
    | ok sch =>
      rw [hrest] at h
      cases h
      exact ⟨⟨[], node, e, hdata, List.forall_mem_nil _⟩, r, rfl, hkind, List.forall_mem_nil _, rfl⟩
  | case5 => cases h

namespace FlowGraph

/-- Behind the start there is no trigger: the only one comes first. -/
theorem Visits.kind_ne_trigger {g : FlowGraph} {order : List Node}
    (hcount : g.countKind .trigger = 1) (h : g.Visits order) :
    ∀ n ∈ behindStart order, n.kind ≠ .trigger := by
  obtain ⟨trigger, rest, rfl, hkind⟩ := h.exists_cons
  have hrest : rest.countP (·.kind = .trigger) = 0 := by
    rw [countKind, ← h.perm.countP_eq, List.countP_cons_of_pos (by simpa using hkind)] at hcount
    exact Nat.succ.inj hcount
  have hbehind : behindStart (trigger :: rest) <:+ rest := by
    rw [behindStart, List.dropWhile_cons]
    split
    · exact behindStart_suffix rest
    · exact List.suffix_rfl
  intro n hn
  simpa using List.countP_eq_zero.1 hrest n (hbehind.subset hn)

/-- The wait before the first email of an accepted graph is the days of all delays between the start
of the schedule and that email. It is none just if the email follows the start directly. -/
theorem first_wait_eq_zero_iff (g : FlowGraph) (haccepted : g.check = .ok ()) {subject : String}
    {days : Nat} {later : Schedule} (hschedule : g.schedule = .ok ((subject, days) :: later)) :
    ∃ order, g.Visits order ∧ (∀ other, g.Visits other → other = order) ∧
      ∃ (leg : Leg) (rest : List Node), behindStart order = leg.nodes ++ rest ∧
        leg.node.kind = .email ∧ (∀ n ∈ leg.before, n.kind = .delay) ∧
        leg.entry = (subject, days) ∧ (days = 0 ↔ leg.before = []) := by
  obtain ⟨hnodup, hcount, order, hvisits⟩ := exists_visits haccepted
  rw [hvisits.schedule_eq hnodup] at hschedule
  obtain ⟨leg, rest, hbehind, hemail, hdelays, hfirst⟩ :=
    exists_leg_of_scheduleAlong (hvisits.kind_ne_trigger hcount) hschedule
  rw [Nat.zero_add] at hfirst
  obtain ⟨rfl, rfl⟩ := Prod.mk.inj hfirst
  exact ⟨order, hvisits, fun other hother => hvisits.eq hnodup hcount hother, leg, rest, hbehind,
    hemail, fun n hn => (hdelays n hn).1, rfl,
    totalDays_eq_zero_iff fun n hn => (hdelays n hn).2⟩

/-- A chain with a delay of two days before its only email. -/
def delayedStart : FlowGraph where
  nodes := [⟨triggerId, .trigger, .trigger { triggerType := .manual }, ⟨0, 0⟩⟩,
    ⟨"wait", .delay, .delay { name := "Wait 2 days", delayDays := ⟨2, Nat.two_pos⟩ }, ⟨0, 0⟩⟩,
    ⟨"welcome", .email, .email ⟨"Email 1", "t-1", "Hello", ⟨1, Nat.one_pos⟩⟩, ⟨0, 0⟩⟩]
  edges := [⟨"edge-1", triggerId, "wait"⟩, ⟨"edge-2", "wait", "welcome"⟩]

/-- It is accepted, and the two days are those of the leg before its email. -/
theorem wait_delayedStart :
    delayedStart.check = .ok () ∧ delayedStart.schedule = .ok [("Hello", 2)] ∧
      ∃ leg : Leg, leg.entry = ("Hello", 2) ∧ leg.before ≠ [] := by
  have haccepted : delayedStart.check = .ok () := rfl
  have hschedule : delayedStart.schedule = .ok [("Hello", 2)] := rfl
  obtain ⟨order, -, -, leg, rest, -, -, -, hentry, hnone⟩ :=
    first_wait_eq_zero_iff delayedStart haccepted hschedule
  exact ⟨haccepted, hschedule, leg, hentry, fun hnil => nomatch hnone.2 hnil⟩

/-- Not every accepted graph sends its first email at once. -/
theorem first_email_waits :
    ¬ ∀ (g : FlowGraph) (subject : String) (days : Nat) (later : Schedule), g.check = .ok () →
      g.schedule = .ok ((subject, days) :: later) → days = 0 := by
  intro hall
  have hdays : 2 = 0 := hall delayedStart "Hello" 2 [] rfl rfl
  cases hdays

end FlowGraph

end FlowBuilder
