import Mathlib.Data.List.Perm.Basic
import FlowBuilder.Proofs.Graph.Walk

/-!
# Which graphs are accepted

The checker looks at ids, at single edges and at one walk; a chain is a property of the whole graph.
The two agree: whatever passes the tests is joined like a chain, since a walk over distinct ids that
visits as many as there are nodes has met every node, and the links that it has followed are as many
as there are edges.

* `exists_of_walk_eq_ok`: what a walk visits are new ids along which the successors lead.
* `walk_add_moves`: the bound on the moves of a walk decides nothing.
* `isChain_of_check`: whatever the checker accepts is a chain.
* `check_decides_isChain`: the checker accepts just the chains, in whatever order a graph lists its
  nodes and edges.
-/

namespace FlowBuilder

/-- What is in order after mapping comes from something in that order. -/
theorem exists_perm_map_eq {α β : Type} {f : α → β} {l : List α} {order : List β}
    (h : order.Perm (l.map f)) : ∃ sorted : List α, sorted.Perm l ∧ sorted.map f = order := by
  -- both lists are related element by element, and the one order is carried over to the other
  have hmap : List.Forall₂ (fun b a => b = f a) (l.map f) l := by
    rw [List.forall₂_map_left_iff, List.forall₂_same]
    exact fun _ _ => rfl
  obtain ⟨sorted, hall, hperm⟩ := List.perm_comp_forall₂ h hmap
  refine ⟨sorted, hperm, ?_⟩
  have hrev : List.Forall₂ (fun a b => f a = b) sorted order := hall.flip.imp fun _ _ h => h.symm
  rw [← List.forall₂_eq_eq_eq, List.forall₂_map_left_iff]
  exact hrev

/-- The edges of a chain of distinct ids are distinct. -/
theorem nodup_chainEnds {ids : List String} (h : ids.Nodup) : (chainEnds ids).Nodup := by
  -- the sources are distinct already
  apply List.Nodup.of_map Prod.fst
  rw [map_fst_chainEnds]
  exact h.sublist (List.dropLast_sublist ids)

namespace FlowGraph

/-! ### Walks that end -/

/-- What a walk visits are new ids, each once, along which the successors lead. -/
theorem exists_of_walk_eq_ok {g : FlowGraph} {moves : Nat} {a : String} {visited ids : List String}
    (h : walk g moves a visited = .ok ids) :
    ∃ r, ids = r.reverse ++ visited ∧ g.Leads (a :: r) ∧ r.Nodup ∧ ∀ b ∈ r, b ∉ visited := by
  fun_induction walk g moves a visited generalizing ids with
  | case1 moves a visited hnext =>
    cases h
    exact ⟨[], rfl, hnext, List.nodup_nil, nofun⟩
  | case2 | case3 => cases h
  | case4 a visited b hnext hnew moves ih =>
    obtain ⟨r, rfl, hleads, hnodup, hfresh⟩ := ih h
    -- `b` is new, and whatever comes later differs from it too
    have hb : b ∉ visited := by simpa using hnew
    have hlater : b ∉ r := fun hmem => hfresh b hmem List.mem_cons_self
    refine ⟨b :: r, by simp, ⟨hnext, hleads⟩, List.nodup_cons.2 ⟨hlater, hnodup⟩, ?_⟩
    intro c hc
    rcases List.mem_cons.1 hc with rfl | hc
    · exact hb
    · exact fun hmem => hfresh c hc (List.mem_cons_of_mem b hmem)

/-- Once a walk may make as many moves as the graph has edges, counting those that it has made, more
moves change nothing: each id that it leaves is the source of an edge. -/
theorem walk_add_moves {g : FlowGraph} {moves : Nat} {a : String} {visited : List String}
    (hnodup : (a :: visited).Nodup) (hleft : ∀ b ∈ visited, b ∈ g.links.map Prod.fst)
    (hmoves : g.edges.length ≤ moves + visited.length) (more : Nat) :
    walk g (moves + more) a (a :: visited) = walk g moves a (a :: visited) := by
  induction moves generalizing a visited with
  | zero =>
    cases hnext : g.next? a with
    | none => rw [walk, hnext, walk, hnext]
    | some b =>
      -- the ids so far are sources of edges, and are more than there are edges
      exfalso
      have hsub : a :: visited ⊆ g.links.map Prod.fst :=
        List.cons_subset.2 ⟨List.mem_map_of_mem (mem_links_of_next? hnext), hleft⟩
      have hlength := (List.subperm_of_subset hnodup hsub).length_le
      simp only [List.length_cons, links, List.length_map] at hlength
      omega
  | succ moves ih =>
    rw [Nat.succ_add]
    cases hnext : g.next? a with
    | none => rw [walk, hnext, walk, hnext]
    | some b =>
      rw [walk, hnext, walk, hnext]
      by_cases hseen : (a :: visited).contains b
      · simp only [hseen, if_true]
      · -- the walk goes on from `b`, having left `a`
        simp only [hseen, Bool.false_eq_true, if_false]
        have hb : b ∉ a :: visited := by simpa using hseen
        have ha : a ∈ g.links.map Prod.fst := List.mem_map_of_mem (mem_links_of_next? hnext)
        refine ih (List.nodup_cons.2 ⟨hb, hnodup⟩) (List.forall_mem_cons.2 ⟨ha, hleft⟩) ?_
        simp only [List.length_cons]
        omega

/-! ### Chains -/

/-- Where each id leads to the next one, the graph has the edges between them. -/
theorem chainEnds_subset_links {g : FlowGraph} {order : List String} (h : g.Leads order) :
    chainEnds order ⊆ g.links := by
  fun_induction chainEnds order with
  | case1 a b r ih =>
    obtain ⟨hnext, hleads⟩ : g.next? a = some b ∧ g.Leads (b :: r) := h
    exact List.cons_subset.2 ⟨mem_links_of_next? hnext, ih hleads⟩
  | case2 ids _ => exact List.nil_subset _

/-- If the successors lead along distinct ids, one more than there are edges, no other link is
left. -/
theorem links_perm_of_leads {g : FlowGraph} {order : List String} (hleads : g.Leads order)
    (hnodup : order.Nodup) (hlength : g.edges.length = order.length - 1) :
    g.links.Perm (chainEnds order) := by
  -- the ends are distinct links, and as many as there are edges
  have hsub := List.subperm_of_subset (nodup_chainEnds hnodup) (chainEnds_subset_links hleads)
  refine (hsub.perm_of_length_le ?_).symm
  rw [length_chainEnds, links, List.length_map, hlength]

/-- All that the checker has looked at when it accepts a graph. -/
theorem exists_of_check_eq_ok {g : FlowGraph} (h : g.check = .ok ()) :
    g.ids.Nodup ∧ ∃ trigger visited, g.nodes.filter (·.kind = .trigger) = [trigger] ∧
      g.edges.length = g.nodes.length - 1 ∧ checkEdges g.ids [] [] g.edges = .ok () ∧
      walk g g.edges.length trigger.id [trigger.id] = .ok visited ∧
      visited.length = g.nodes.length := by
  -- each test has one way out, which was not taken
  unfold check at h
  split at h
  case isTrue => cases h
  rename_i hduplicate
  split at h
  case h_2 => cases h
  rename_i trigger htrigger
  split at h
  case isTrue => cases h
  rename_i hedges
  split at h
  case h_1 => cases h
  rename_i hpass
  split at h
  case isTrue => cases h
  split at h
  case h_1 => cases h
  rename_i visited hwalk
  split at h
  case isTrue => cases h
  rename_i hreached
  have hnodup : hasDuplicate g.ids = false := by simpa using hduplicate
  exact ⟨hasDuplicate_eq_false_iff.1 hnodup, trigger, visited, htrigger, not_not.1 hedges, hpass,
    hwalk, not_not.1 hreached⟩

/-- Whatever the checker accepts is a chain. -/
theorem isChain_of_check {g : FlowGraph} (h : g.check = .ok ()) : g.IsChain := by
  obtain ⟨hnodup, trigger, visited, htrigger, hedges, hpass, hwalk, hreached⟩ :=
    exists_of_check_eq_ok h
  obtain ⟨hknown, -, -⟩ := checkEdges_eq_ok_iff.1 hpass
  obtain ⟨r, rfl, hleads, hr, hfresh⟩ := exists_of_walk_eq_ok hwalk
  have hmem : trigger ∈ g.nodes.filter (·.kind = .trigger) := by simp [htrigger]
  obtain ⟨hnode, hkind⟩ := List.mem_filter.1 hmem
  have hlength : (trigger.id :: r).length = g.nodes.length := by simpa using hreached
  have hdistinct : (trigger.id :: r).Nodup :=
    List.nodup_cons.2 ⟨fun hmem => hfresh _ hmem (List.mem_singleton_self _), hr⟩
  have hlinks : g.links.Perm (chainEnds (trigger.id :: r)) :=
    links_perm_of_leads hleads hdistinct (by rw [hedges, hlength])
  -- past the trigger, the walk has come to targets of edges, which are nodes
  have hsub : trigger.id :: r ⊆ g.ids := by
    intro b hb
    rcases List.mem_cons.1 hb with rfl | hb
    · exact List.mem_map_of_mem hnode
    · have htarget : b ∈ g.links.map Prod.snd := by
        rw [(hlinks.map Prod.snd).mem_iff, map_snd_chainEnds]
        exact hb
      rw [map_snd_links, List.mem_map] at htarget
      obtain ⟨e, he, rfl⟩ := htarget
      exact (hknown e he).2
  -- these are distinct and as many as there are nodes, so that no node is left out
  have hall : (trigger.id :: r).Perm g.ids := by
    refine (List.subperm_of_subset hdistinct hsub).perm_of_length_le ?_
    rw [ids, List.length_map, hlength]
  obtain ⟨order, hperm, horder⟩ := exists_perm_map_eq hall
  have hcount : g.countKind .trigger = 1 := by
    rw [countKind, List.countP_eq_length_filter, htrigger, List.length_singleton]
  refine ⟨hnodup, hcount, order, hperm, ?_, ?_⟩
  · -- the first node of the order has the id of the trigger
    cases order with
    | nil => cases horder
    | cons first rest =>
      obtain ⟨hid, -⟩ := List.cons.inj horder
      have hfirst : first = trigger := List.inj_on_of_nodup_map hnodup
        (hperm.mem_iff.1 List.mem_cons_self) hnode hid
      rw [List.head?_cons, Option.map_some, hfirst, of_decide_eq_true hkind]
  · rw [horder]
    exact hlinks

/-- To be a chain does not depend on how nodes and edges are listed. -/
theorem IsChain.of_perm {g g' : FlowGraph} (hnodes : g.nodes.Perm g'.nodes)
    (hedges : g.edges.Perm g'.edges) (h : g.IsChain) : g'.IsChain := by
  obtain ⟨hnodup, hcount, order, hperm, hhead, hlinks⟩ := h
  refine ⟨?_, ?_, order, hperm.trans hnodes, hhead, ?_⟩
  · exact (hnodes.map Node.id).nodup_iff.1 hnodup
  · rw [← hcount, countKind, countKind, hnodes.countP_eq]
  · exact (hedges.map _).symm.trans hlinks

/-- The checker accepts a graph just if it is a chain: its ids are distinct, one node is a trigger,
and some order of all nodes from the trigger on has as its links exactly those of the graph. Any
other graph has a defect. The verdict does not depend on how nodes and edges are listed. -/
theorem check_decides_isChain (g : FlowGraph) :
    (g.check = .ok () ↔ g.IsChain) ∧ (¬ g.IsChain → ∃ defect, g.check = .error defect) ∧
      ∀ g' : FlowGraph, g.nodes.Perm g'.nodes → g.edges.Perm g'.edges →
        (g.check = .ok () ↔ g'.check = .ok ()) := by
  have hiff : ∀ g : FlowGraph, g.check = .ok () ↔ g.IsChain :=
    fun g => ⟨isChain_of_check, check_of_isChain⟩
  refine ⟨hiff g, ?_, ?_⟩
  · intro hnot
    cases hcheck : g.check with
    | ok _ => exact absurd ((hiff g).1 hcheck) hnot
    | error defect => exact ⟨defect, rfl⟩
  · intro g' hnodes hedges
    -- being a chain does not depend on the order of the lists, so neither does the check
    rw [hiff, hiff]
    constructor
    · exact .of_perm hnodes hedges
    · exact .of_perm hnodes.symm hedges.symm

/-- A chain of a trigger and two emails, listed from its end. -/
def backwards : FlowGraph where
  nodes := [⟨"c", .email, .email ⟨"", "", "", ⟨2, Nat.two_pos⟩⟩, ⟨0, 0⟩⟩,
    ⟨"b", .email, .email ⟨"", "", "", ⟨1, Nat.one_pos⟩⟩, ⟨0, 0⟩⟩,
    ⟨"a", .trigger, .trigger { triggerType := .manual }, ⟨0, 0⟩⟩]
  edges := [⟨"", "b", "c"⟩, ⟨"", "a", "b"⟩]

/-- It is accepted as it stands, and so it is with its nodes listed from the other end. -/
theorem check_backwards :
    backwards.IsChain ∧ check ⟨backwards.nodes.reverse, backwards.edges⟩ = .ok () := by
  obtain ⟨hiff, -, hlisting⟩ := check_decides_isChain backwards
  have haccepted : backwards.check = .ok () := rfl
  exact ⟨hiff.1 haccepted, (hlisting ⟨backwards.nodes.reverse, backwards.edges⟩
    (List.reverse_perm _).symm (List.Perm.refl _)).1 haccepted⟩

end FlowGraph

end FlowBuilder
