import FlowBuilder.Proofs.Graph.Acceptance

/-!
# Walks that never come back

The checker has a defect for a walk that comes back to an id, but no graph has it. By the time of
the walk at most one edge enters a node and none the trigger, so that the edge into an id that has
been seen is used up: it leaves an id that the walk has left before (`CameTo`). A cycle of the graph
lies apart from the way of the trigger, and its nodes are found not to be reached.

* `CameTo.next_notMem`, `CameTo.move`: a move goes to a new id, and keeps the invariant.
* `CameTo.exists_walk_eq_ok`: a whole walk comes to an end.
* `reachesWalk_or_defect`, `ReachesWalk.check_eq`: the checker ahead of the walk and behind it.
* `walk_meets_new_nodes`: the way of every walk.
-/

namespace FlowBuilder

namespace FlowGraph

variable {g : FlowGraph}

/-! ### One move -/

/-- A walk has come to `a` and left the other ids that it has seen. Each of them but the start was
entered by an edge from one that the walk has left. -/
structure CameTo (g : FlowGraph) (start a : String) (left : List String) : Prop where
  /-- No id was seen twice. -/
  nodup : (a :: left).Nodup
  /-- The edges that led here come from ids that the walk has left. -/
  entered : ∀ b ∈ a :: left, b = start ∨ ∃ p ∈ left, (p, b) ∈ g.links

/-- At its start a walk has left nothing. -/
theorem cameTo_start (start : String) : g.CameTo start start [] :=
  ⟨List.nodup_singleton start, fun _ hb => .inl (List.mem_singleton.1 hb)⟩

namespace CameTo

variable {start a b : String} {left : List String}

/-- Each seen id but the start is the target of an edge of its own. -/
theorem length_le (h : g.CameTo start a left) : left.length ≤ g.edges.length := by
  have htargets : (a :: left).erase start ⊆ g.links.map Prod.snd := by
    intro b hb
    obtain ⟨hne, hseen⟩ := h.nodup.mem_erase_iff.1 hb
    obtain ⟨p, -, hlink⟩ := (h.entered b hseen).resolve_left hne
    exact List.mem_map_of_mem hlink
  calc left.length
      = (a :: left).length - 1 := rfl
    _ ≤ ((a :: left).erase start).length := List.le_length_erase
    _ ≤ (g.links.map Prod.snd).length :=
      (List.subperm_of_subset (h.nodup.erase start) htargets).length_le
    _ = g.edges.length := by rw [map_snd_links, List.length_map]

variable (hentries : (g.links.map Prod.snd).Nodup) (hstart : start ∉ g.links.map Prod.snd)

include hentries hstart

/-- Where no two edges enter one node and none the start, the next id is a new one. -/
theorem next_notMem (h : g.CameTo start a left) (hnext : g.next? a = some b) : b ∉ a :: left := by
  have hlink := mem_links_of_next? hnext
  intro hseen
  rcases h.entered b hseen with rfl | ⟨p, hp, hused⟩
  · exact hstart (List.mem_map_of_mem hlink)
  · -- the only edge into `b` leaves an id that the walk has left, and `a` is none of these
    have hsame := List.inj_on_of_nodup_map hentries hused hlink rfl
    obtain ⟨rfl, -⟩ := Prod.mk.inj hsame
    exact (List.nodup_cons.1 h.nodup).1 hp

/-- A walk that has come to a node goes on to its successor. -/
theorem move (h : g.CameTo start a left) (hnext : g.next? a = some b) :
    g.CameTo start b (a :: left) := by
  refine ⟨List.nodup_cons.2 ⟨h.next_notMem hentries hstart hnext, h.nodup⟩,
    List.forall_mem_cons.2 ⟨?_, fun c hc => ?_⟩⟩
  · exact .inr ⟨a, List.mem_cons_self, mem_links_of_next? hnext⟩
  · obtain hc | ⟨p, hp, hlink⟩ := h.entered c hc
    · exact .inl hc
    · exact .inr ⟨p, List.mem_cons_of_mem a hp, hlink⟩

/-! ### Whole walks -/

/-- A walk comes to an end if it may make as many moves as the graph has edges, counting those that
it has made. -/
theorem exists_walk_eq_ok {moves : Nat} (h : g.CameTo start a left)
    (hmoves : g.edges.length ≤ moves + left.length) :
    ∃ ids, walk g moves a (a :: left) = .ok ids := by
  induction moves generalizing a left with
  | zero =>
    cases hnext : g.next? a with
    | none => exact ⟨a :: left, by rw [walk, hnext]⟩
    | some b =>
      -- one more move would take one more edge than there are
      have hlength := (h.move hentries hstart hnext).length_le
      rw [List.length_cons] at hlength
      omega
  | succ moves ih =>
    cases hnext : g.next? a with
    | none => exact ⟨a :: left, by rw [walk, hnext]⟩
    | some b =>
      have hnew : (a :: left).contains b = false := by
        simpa using h.next_notMem hentries hstart hnext
      rw [walk, hnext]
      simp only [hnew, Bool.false_eq_true, if_false]
      refine ih (h.move hentries hstart hnext) ?_
      rw [List.length_cons]
      omega

end CameTo

/-- Past its start, a walk goes to targets of edges. -/
theorem Leads.tail_subset {a : String} {way : List String} (h : g.Leads (a :: way)) :
    way ⊆ g.links.map Prod.snd := by
  have htargets := List.map_subset Prod.snd (chainEnds_subset_links h)
  rwa [map_snd_chainEnds] at htargets

/-! ### The walk of the checker -/

/-- A graph has passed all tests ahead of the walk, which starts at the given trigger. -/
structure ReachesWalk (g : FlowGraph) (trigger : Node) : Prop where
  /-- No two nodes share an id. -/
  nodup : g.ids.Nodup
  /-- The trigger is the only one. -/
  only : g.nodes.filter (·.kind = .trigger) = [trigger]
  /-- There is one edge less than there are nodes. -/
  count : g.edges.length = g.nodes.length - 1
  /-- The edges join known nodes, at most one leaving and one entering each. -/
  joined : checkEdges g.ids [] [] g.edges = .ok ()
  /-- No edge enters the trigger. -/
  unentered : trigger.id ∉ g.edges.map (·.target)

/-- Checking edges finds neither a cycle nor an unreachable node. -/
theorem checkEdges_ne_defect {ids sources targets : List String} {edges : List Edge}
    {defect : GraphDefect} (h : checkEdges ids sources targets edges = .error defect) :
    defect ≠ .cycle ∧ defect ≠ .unreachable := by
  fun_induction checkEdges ids sources targets edges with
  | case1 => cases h
  | case2 | case3 | case4 =>
    cases h
    simp
  | case5 _ _ _ _ _ _ _ ih => exact ih h

/-- A graph reaches the walk, or has a defect that is no defect of a walk. -/
theorem reachesWalk_or_defect (g : FlowGraph) : (∃ trigger, g.ReachesWalk trigger) ∨
    ∃ defect, g.check = .error defect ∧ defect ≠ .cycle ∧ defect ≠ .unreachable := by
  unfold check
  -- each check before the walk is passed, or gives its own defect
  split
  case isTrue => exact .inr ⟨_, rfl, nofun, nofun⟩
  rename_i hduplicate
  split
  case h_2 => exact .inr ⟨_, rfl, nofun, nofun⟩
  rename_i trigger htrigger
  split
  case isTrue => exact .inr ⟨_, rfl, nofun, nofun⟩
  rename_i hcount
  split
  case h_1 defect hdefect => exact .inr ⟨defect, rfl, checkEdges_ne_defect hdefect⟩
  rename_i hjoined
  split
  case isTrue => exact .inr ⟨_, rfl, nofun, nofun⟩
  rename_i hentered
  have hnodup : hasDuplicate g.ids = false := by simpa using hduplicate
  exact .inl ⟨trigger, hasDuplicate_eq_false_iff.1 hnodup, htrigger, not_not.1 hcount, hjoined,
    by simpa using hentered⟩

namespace ReachesWalk

variable {trigger : Node} (h : g.ReachesWalk trigger)

include h

/-- Behind the tests, the checker looks at how many ids its walk has visited. -/
theorem check_eq : g.check = (walk g g.edges.length trigger.id [trigger.id]).bind fun visited =>
    if visited.length ≠ g.nodes.length then .error .unreachable else .ok () := by
  have hentered : (g.edges.map (·.target)).contains trigger.id = false := by
    simpa using h.unentered
  rw [check, hasDuplicate_eq_false_iff.2 h.nodup, h.only]
  simp only [Bool.false_eq_true, if_false, h.count, ne_eq, not_true_eq_false, h.joined, hentered]
  cases walk g (g.nodes.length - 1) trigger.id [trigger.id] <;> rfl

/-- The walk goes along distinct nodes, and ends before it has made a move for each of them. -/
theorem exists_way : ∃ way : List String, g.Leads (trigger.id :: way) ∧
    (trigger.id :: way).Nodup ∧ way ⊆ g.ids ∧ way.length < g.nodes.length ∧
    ∀ moves, way.length ≤ moves →
      walk g moves trigger.id [trigger.id] = .ok (way.reverse ++ [trigger.id]) := by
  obtain ⟨hknown, -, hentries, -⟩ := checkEdges_eq_ok_iff.1 h.joined
  rw [← map_snd_links] at hentries
  have hstart : trigger.id ∉ g.links.map Prod.snd := by
    rw [map_snd_links]
    exact h.unentered
  obtain ⟨visited, hwalk⟩ := (cameTo_start trigger.id).exists_walk_eq_ok hentries hstart le_rfl
  obtain ⟨way, -, hleads, hnodup, hfresh⟩ := exists_of_walk_eq_ok hwalk
  have hdistinct : (trigger.id :: way).Nodup :=
    List.nodup_cons.2 ⟨fun hmem => hfresh _ hmem (List.mem_singleton_self _), hnodup⟩
  have hway : way ⊆ g.ids := by
    intro b hb
    have htarget := hleads.tail_subset hb
    rw [map_snd_links, List.mem_map] at htarget
    obtain ⟨e, he, rfl⟩ := htarget
    exact (hknown e he).2
  refine ⟨way, hleads, hdistinct, hway, ?_, fun moves hmoves =>
    walk_of_leads hleads hnodup hfresh hmoves⟩
  -- the trigger and the way are distinct nodes
  have htrigger : trigger ∈ g.nodes.filter (·.kind = .trigger) := by
    rw [h.only]
    exact List.mem_singleton_self trigger
  have hsub : trigger.id :: way ⊆ g.ids :=
    List.cons_subset.2 ⟨List.mem_map_of_mem (List.mem_filter.1 htrigger).1, hway⟩
  have hlength := (List.subperm_of_subset hdistinct hsub).length_le
  rwa [List.length_cons, ids, List.length_map] at hlength

/-- The walk has no defect of its own: some nodes may not be reached, and that is all. -/
theorem check_eq_ok_or_unreachable : g.check = .ok () ∨ g.check = .error .unreachable := by
  obtain ⟨way, -, -, -, hlength, hwalk⟩ := h.exists_way
  have hmoves : way.length ≤ g.edges.length := by
    rw [h.count]
    omega
  rw [h.check_eq, hwalk _ hmoves]
  by_cases hreached : (way.reverse ++ [trigger.id]).length ≠ g.nodes.length
  · exact .inr (if_pos hreached)
  · exact .inl (if_neg hreached)

end ReachesWalk

/-- No graph has the defect that the way from its trigger comes back to a node. The graphs that pass
the tests ahead of the walk are those that are accepted, or of which some nodes are not reached. In
each of them the walk goes along distinct nodes, from the trigger to a node that has no successor,
and takes fewer moves than there are nodes, however many it may make. -/
theorem walk_meets_new_nodes (g : FlowGraph) :
    g.check ≠ .error .cycle ∧
      ((∃ trigger, g.ReachesWalk trigger) ↔
        g.check = .ok () ∨ g.check = .error .unreachable) ∧
      ∀ trigger, g.ReachesWalk trigger →
        ∃ way : List String, g.Leads (trigger.id :: way) ∧ (trigger.id :: way).Nodup ∧
          way ⊆ g.ids ∧ way.length < g.nodes.length ∧
          ∀ moves, way.length ≤ moves →
            walk g moves trigger.id [trigger.id] = .ok (way.reverse ++ [trigger.id]) := by
  refine ⟨fun hcycle => ?_, ⟨?_, fun hverdict => ?_⟩, fun _ h => h.exists_way⟩
  · -- neither the tests nor the walk find this defect
    rcases g.reachesWalk_or_defect with ⟨trigger, h⟩ | ⟨defect, hdefect, hne, -⟩
    · rcases h.check_eq_ok_or_unreachable with hverdict | hverdict <;>
        rw [hcycle] at hverdict <;> cases hverdict
    · rw [hcycle] at hdefect
      exact hne (Except.error.inj hdefect).symm
  · rintro ⟨trigger, h⟩
    exact h.check_eq_ok_or_unreachable
  · refine g.reachesWalk_or_defect.resolve_right ?_
    rintro ⟨defect, hdefect, -, hne⟩
    rw [hdefect] at hverdict
    rcases hverdict with hverdict | hverdict
    · cases hverdict
    · exact hne (Except.error.inj hverdict)

/-- A trigger. -/
def loneTrigger : Node :=
  ⟨"start", .trigger, .trigger { triggerType := .manual }, ⟨0, 0⟩⟩

/-- The trigger with an email behind it and, apart from them, two delays that lead to each other. -/
def detachedLoop : FlowGraph where
  nodes := [loneTrigger,
    ⟨"a", .delay, .delay { name := "", delayDays := ⟨1, Nat.one_pos⟩ }, ⟨0, 0⟩⟩,
    ⟨"b", .delay, .delay { name := "", delayDays := ⟨2, Nat.two_pos⟩ }, ⟨0, 0⟩⟩,
    ⟨"welcome", .email, .email ⟨"", "", "Hello", ⟨1, Nat.one_pos⟩⟩, ⟨0, 0⟩⟩]
  edges := [⟨"", "a", "b"⟩, ⟨"", "start", "welcome"⟩, ⟨"", "b", "a"⟩]

/-- Its walk makes one move, and does not come to the cycle. -/
theorem walk_detachedLoop :
    detachedLoop.ReachesWalk loneTrigger ∧ detachedLoop.check = .error .unreachable ∧
      ∃ way, detachedLoop.Leads (loneTrigger.id :: way) ∧ way = ["welcome"] := by
  have hreaches : detachedLoop.ReachesWalk loneTrigger :=
    ⟨by decide, rfl, rfl, rfl, by decide⟩
  obtain ⟨-, hverdict, hway⟩ := walk_meets_new_nodes detachedLoop
  obtain ⟨way, hleads, -, -, hlength, hwalk⟩ := hway loneTrigger hreaches
  have haccepted : detachedLoop.check ≠ .ok () := nofun
  refine ⟨hreaches, (hverdict.1 ⟨loneTrigger, hreaches⟩).resolve_left haccepted, way, hleads, ?_⟩
  -- as many moves as there are nodes are enough
  have hvisited : walk detachedLoop 4 "start" ["start"] = .ok (["welcome"] ++ ["start"]) := rfl
  have hsame := Except.ok.inj ((hwalk 4 hlength.le).symm.trans hvisited)
  exact List.reverse_eq_iff.1 (List.append_cancel_right hsame)

end FlowGraph

end FlowBuilder
