import Mathlib
import FlowBuilder.Proofs.Graph.Assembled

/-!
# Schedules of assembled graphs

Assembling turns emails into a chain of nodes, and the schedule walks this chain from its trigger.
What comes back is what went in, in the order of the sequence numbers: `StableOrder` says what this
order is, without an algorithm.

* `stableOrder_inSequence`, `StableOrder.eq`: emails have one such order, and it is the order in
  which they are assembled.
* `exists_schedule_assemble`: the schedule of the assembled graph are the subjects and days in that
  order, the first email without its days.
-/

namespace FlowBuilder

/-- The written emails in the order of their sequence numbers, where those with one number keep
their order. -/
structure StableOrder (steps sorted : List WrittenStep) : Prop where
  /-- The emails are the given ones. -/
  perm : sorted.Perm steps
  /-- No number is less than one before it. -/
  ordered : sorted.Pairwise fun a b => a.sequence.val ≤ b.sequence.val
  /-- Those with one number are in the given order. -/
  stable : ∀ n, sorted.filter (·.sequence.val = n) = steps.filter (·.sequence.val = n)

/-- Steps in sequence are ordered stably. -/
theorem stableOrder_inSequence (steps : List WrittenStep) :
    StableOrder steps (inSequence steps) := by
  have htrans : ∀ a b c : WrittenStep, decide (a.sequence.val ≤ b.sequence.val) = true →
      decide (b.sequence.val ≤ c.sequence.val) = true →
        decide (a.sequence.val ≤ c.sequence.val) = true := by
    intro a b c hab hbc
    exact decide_eq_true ((of_decide_eq_true hab).trans (of_decide_eq_true hbc))
  have htotal : ∀ a b : WrittenStep, (decide (a.sequence.val ≤ b.sequence.val) ||
      decide (b.sequence.val ≤ a.sequence.val)) = true := by
    intro a b
    simpa using Nat.le_total a.sequence.val b.sequence.val
  have hperm : (inSequence steps).Perm steps := List.mergeSort_perm steps _
  refine ⟨hperm, ?_, ?_⟩
  · exact (List.pairwise_mergeSort htrans htotal steps).imp of_decide_eq_true
  · intro n
    -- emails with one number are ordered as they are, so that sorting keeps them as a sublist
    have hequal : (steps.filter (·.sequence.val = n)).Pairwise
        fun a b => decide (a.sequence.val ≤ b.sequence.val) = true := by
      apply List.pairwise_of_forall_mem_list
      intro a ha b hb
      have ha : a.sequence.val = n := by simpa using (List.mem_filter.1 ha).2
      have hb : b.sequence.val = n := by simpa using (List.mem_filter.1 hb).2
      rw [ha, hb, decide_eq_true (le_refl n)]
    have hsub : (steps.filter (·.sequence.val = n)).Sublist (inSequence steps) :=
      List.sublist_mergeSort htrans htotal hequal List.filter_sublist
    have hfilter := hsub.filter (·.sequence.val = n)
    rw [List.filter_filter] at hfilter
    simp only [Bool.and_self] at hfilter
    exact (hfilter.eq_of_length (hperm.filter _).length_eq.symm).symm

namespace StableOrder

/-- Written emails have one stable order. -/
theorem eq {steps sorted other : List WrittenStep} (h : StableOrder steps sorted)
    (h' : StableOrder steps other) : sorted = other := by
  have hperm := h.perm.trans h'.perm.symm
  have hstable : ∀ n, sorted.filter (·.sequence.val = n) = other.filter (·.sequence.val = n) :=
    fun n => (h.stable n).trans (h'.stable n).symm
  have hordered := h.ordered
  have hordered' := h'.ordered
  clear h h'
  induction sorted generalizing other with
  | nil => exact hperm.nil_eq
  | cons a r ih =>
    match other with
    | [] => cases hperm.symm.nil_eq
    | b :: r' =>
      obtain ⟨ha, hr⟩ := List.pairwise_cons.1 hordered
      obtain ⟨hb, hr'⟩ := List.pairwise_cons.1 hordered'
      -- both have the least number, and are the first with it
      have hle : a.sequence.val ≤ b.sequence.val := by
        rcases List.mem_cons.1 (hperm.mem_iff.2 List.mem_cons_self) with rfl | hmem
        · exact le_rfl
        · exact ha b hmem
      have hge : b.sequence.val ≤ a.sequence.val := by
        rcases List.mem_cons.1 (hperm.mem_iff.1 List.mem_cons_self) with rfl | hmem
        · exact le_rfl
        · exact hb a hmem
      have hsame := Nat.le_antisymm hle hge
      have hfirst := hstable a.sequence.val
      rw [List.filter_cons_of_pos (by simp), List.filter_cons_of_pos (by simp [hsame])] at hfirst
      obtain ⟨rfl, -⟩ := List.cons.inj hfirst
      have hrest : r = r' := by
        refine ih hperm.cons_inv ?_ hr hr'
        intro n
        -- without the common first email, those with a number are still the same
        have hn := hstable n
        rw [List.filter_cons, List.filter_cons] at hn
        split at hn
        · exact (List.cons.inj hn).2
        · exact hn
      rw [hrest]

end StableOrder

/-- The order in which emails are assembled is their only stable order. -/
theorem stableOrder_iff {steps other : List WrittenStep} :
    StableOrder steps other ↔ other = inSequence steps := by
  constructor
  · intro h
    exact h.eq (stableOrder_inSequence steps)
  · rintro rfl
    exact stableOrder_inSequence steps

/-- Some written emails are assembled to a graph. They have one stable order, and the schedule of
the graph are the subjects and days in this order, the first email without its days. -/
theorem exists_schedule_assemble (plan : Plan) (audience : TriggerAudience)
    {steps : List WrittenStep} (hsome : steps ≠ []) :
    ∃ graph sorted, assemble plan audience steps = .ok graph ∧
      (∀ other, StableOrder steps other ↔ other = sorted) ∧
      graph.schedule = .ok (plannedSchedule sorted) :=
  ⟨_, inSequence steps, assemble_eq_ok hsome, fun _ => stableOrder_iff,
    schedule_assembledGraph plan.triggerType audience steps⟩

/-- A plan with one email. -/
def greetingPlan : Plan where
  flowType := .welcome
  flowName := "Greeting"
  description := ""
  triggerType := .manual
  targetAudience := ""
  emails := [⟨.first, .zero, "Hello", "", "", ""⟩]
  numbered := rfl
  nonempty := List.cons_ne_nil _ _

/-- Three emails out of order, two of which have one number. -/
def unorderedSteps : List WrittenStep :=
  [⟨.ofNat 5, .ofNat 3, "Later", "id-1"⟩, ⟨.ofNat 2, .ofNat 7, "First", "id-2"⟩,
    ⟨.ofNat 5, .zero, "Last", "id-3"⟩]

/-- The first email does not wait for its days, and those with one number keep their order. -/
theorem exists_schedule_unorderedSteps :
    ∃ graph, assemble greetingPlan {} unorderedSteps = .ok graph ∧
      graph.schedule = .ok [("First", 0), ("Later", 3), ("Last", 0)] := by
  have hsorted : plannedSchedule (inSequence unorderedSteps) =
      [("First", 0), ("Later", 3), ("Last", 0)] := by
    cbv
  obtain ⟨graph, sorted, hgraph, horder, hschedule⟩ :=
    exists_schedule_assemble greetingPlan {} (List.cons_ne_nil _ _ : unorderedSteps ≠ [])
  refine ⟨graph, hgraph, ?_⟩
  rw [hschedule, ← (horder _).1 (stableOrder_inSequence unorderedSteps), hsorted]

end FlowBuilder
