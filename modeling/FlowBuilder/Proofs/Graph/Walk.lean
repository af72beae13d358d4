import Mathlib.Data.List.Nodup
import Mathlib.Data.List.Infix
import FlowBuilder.Graph.Chain
import FlowBuilder.Graph.Schedule

/-!
# Walks along chains

The checker and the schedule both follow the successors of a graph. Here the two walks are described
on graphs whose successors lead along a given list of ids.

* `FlowGraph.Leads` says that the successors lead along a list and end at its last id; the links of
  a chain lead along its order (`leads_of_perm`).
* `walk_of_leads`: the walk of the checker visits that list.
* `scheduleFrom_of_leads`: the schedule is read off the nodes of that list, by `scheduleAlong`.
* `check_of_isChain`: the checker accepts every chain.
-/

namespace FlowBuilder

/-! ### Links -/

/-- The ends of a chain are each of its ids with the next. -/
theorem chainEnds_eq_zip (ids : List String) : chainEnds ids = ids.zip ids.tail := by
  fun_induction chainEnds ids with
  | case1 a b r ih => rw [ih]; rfl
  | case2 ids h =>
    match ids, h with
    | [], _ => rfl
    | [a], _ => rfl
    | a :: b :: r, h => exact absurd rfl (h a b r)

/-- The sources of the ends of a chain are all its ids but the last. -/
theorem map_fst_chainEnds (ids : List String) : (chainEnds ids).map Prod.fst = ids.dropLast := by
  rw [chainEnds_eq_zip]
  induction ids with
  | nil => rfl
  | cons a r ih =>
    cases r with
    | nil => rfl
    | cons b r =>
      rw [List.tail_cons, List.zip_cons_cons, List.map_cons, List.dropLast_cons_cons]
      exact congrArg (a :: ·) ih

/-- The targets of the ends of a chain are all its ids but the first. -/
theorem map_snd_chainEnds (ids : List String) : (chainEnds ids).map Prod.snd = ids.tail := by
  have hlength : ids.tail.length ≤ ids.length := (List.tail_sublist ids).length_le
  rw [chainEnds_eq_zip, List.map_snd_zip hlength]

/-- A chain has one edge fewer than ids. -/
theorem length_chainEnds (ids : List String) : (chainEnds ids).length = ids.length - 1 := by
  rw [chainEnds_eq_zip, List.length_zip, List.length_tail, Nat.min_eq_right (Nat.sub_le _ _)]

/-- The ends of a chain are the pairs of ids that stand side by side in it. -/
theorem mem_chainEnds_iff {a b : String} {ids : List String} :
    (a, b) ∈ chainEnds ids ↔ [a, b] <:+: ids := by
  fun_induction chainEnds ids with
  | case1 c d r ih =>
    -- a pair stands in `c :: d :: r` at its front, or further on
    have hinfix : [a, b] <:+: c :: d :: r ↔ [a, b] <+: c :: d :: r ∨ [a, b] <:+: d :: r :=
      List.infix_cons_iff
    rw [List.mem_cons, ih, hinfix, List.cons_prefix_cons, List.cons_prefix_cons]
    simp
  | case2 ids h =>
    refine ⟨nofun, fun hinf => ?_⟩
    have hlen : 2 ≤ ids.length := hinf.length_le
    match ids, h, hlen with
    | c :: d :: r, h, _ => exact absurd rfl (h c d r)

namespace FlowGraph

/-- The ends of the edges of a graph. -/
def links (g : FlowGraph) : List (String × String) :=
  g.edges.map fun e => (e.source, e.target)

/-- The first ends of the links are the sources of the edges. -/
theorem map_fst_links (g : FlowGraph) : g.links.map Prod.fst = g.edges.map (·.source) := by
  simp [links]

/-- The second ends of the links are the targets of the edges. -/
theorem map_snd_links (g : FlowGraph) : g.links.map Prod.snd = g.edges.map (·.target) := by
  simp [links]

/-- A node has no successor just when no edge leaves it. -/
theorem next?_eq_none_iff {g : FlowGraph} {a : String} :
    g.next? a = none ↔ ∀ b, (a, b) ∉ g.links := by
  simp only [next?, Option.map_eq_none_iff, List.find?_eq_none, List.mem_reverse, beq_iff_eq,
    links, List.mem_map, Prod.mk.injEq, not_exists, not_and]
  constructor
  · intro h b e he hsource
    exact absurd hsource (h e he)
  · intro h e he hsource
    exact h e.target e he hsource rfl

/-- The successor of a node is the other end of an edge that leaves it, be it the only one or
not. -/
theorem mem_links_of_next? {g : FlowGraph} {a b : String} (h : g.next? a = some b) :
    (a, b) ∈ g.links := by
  obtain ⟨e, he, rfl⟩ := Option.map_eq_some_iff.1 h
  have hsource : e.source = a := by simpa using List.find?_some he
  have hmem : e ∈ g.edges := by simpa using List.mem_of_find?_eq_some he
  exact List.mem_map.2 ⟨e, hmem, by rw [hsource]⟩

/-- Where no two edges leave one node, the successor of a node is the other end of the edge that
leaves it. -/
theorem next?_eq_some_iff {g : FlowGraph} (hnodup : (g.links.map Prod.fst).Nodup) {a b : String} :
    g.next? a = some b ↔ (a, b) ∈ g.links := by
  refine ⟨mem_links_of_next?, fun h => ?_⟩
  cases hnext : g.next? a with
  | none => exact absurd h (next?_eq_none_iff.1 hnext b)
  | some c =>
    -- both links leave `a`, so that they are one
    have heq := List.inj_on_of_nodup_map hnodup (mem_links_of_next? hnext) h rfl
    rw [(Prod.mk.inj heq).2]

/-- Where no two nodes share an id, the node of an id is found by it. -/
theorem node?_of_mem {g : FlowGraph} (hnodup : g.ids.Nodup) {node : Node} (hmem : node ∈ g.nodes) :
    g.node? node.id = some node := by
  cases h : g.node? node.id with
  | none =>
    simp only [node?, List.find?_eq_none, List.mem_reverse, beq_iff_eq] at h
    exact absurd rfl (h node hmem)
  | some other =>
    have hid : other.id = node.id := by simpa using List.find?_some h
    have hother : other ∈ g.nodes := by simpa using List.mem_of_find?_eq_some h
    rw [List.inj_on_of_nodup_map hnodup hother hmem hid]

/-- The only node of a kind is all that the kind has. -/
theorem filter_kind_eq_singleton {g : FlowGraph} {k : NodeKind} (hcount : g.countKind k = 1)
    {node : Node} (hmem : node ∈ g.nodes) (hkind : node.kind = k) :
    g.nodes.filter (·.kind = k) = [node] := by
  rw [countKind, List.countP_eq_length_filter] at hcount
  obtain ⟨only, honly⟩ := List.length_eq_one_iff.1 hcount
  have hfilter : node ∈ g.nodes.filter (·.kind = k) :=
    List.mem_filter.2 ⟨hmem, decide_eq_true hkind⟩
  rw [honly, List.mem_singleton] at hfilter
  rw [honly, hfilter]

/-! ### Following a list -/

/-- The successors of the graph lead along the ids of a list, and end at the last of them. -/
def Leads (g : FlowGraph) : List String → Prop
  | [] => True
  | [a] => g.next? a = none
  | a :: b :: r => g.next? a = some b ∧ g.Leads (b :: r)

/-- Links that are the ends of a chain lead along it. -/
theorem leads_of_perm {g : FlowGraph} {order : List String} (hnodup : order.Nodup)
    (hlinks : g.links.Perm (chainEnds order)) : g.Leads order := by
  have hsources : (g.links.map Prod.fst).Nodup := by
    rw [(hlinks.map Prod.fst).nodup_iff, map_fst_chainEnds]
    exact hnodup.sublist (List.dropLast_sublist order)
  -- the induction is on the part of the chain that lies ahead
  suffices h : ∀ ahead, ahead <:+ order → g.Leads ahead from h order List.suffix_rfl
  intro ahead
  induction ahead with
  | nil => exact fun _ => trivial
  | cons a r ih =>
    intro hsuffix
    match r with
    | [] =>
      -- `a` is the last id of the chain, and no link leaves that one
      refine next?_eq_none_iff.2 fun b hb => ?_
      have ha : a ∈ order.dropLast := by
        rw [← map_fst_chainEnds]
        exact List.mem_map.2 ⟨(a, b), hlinks.mem_iff.1 hb, rfl⟩
      obtain ⟨before, rfl⟩ := hsuffix
      rw [List.dropLast_concat] at ha
      exact (List.nodup_append.1 hnodup).2.2 a ha a (by simp) rfl
    | b :: r =>
      -- `a` and `b` stand side by side in the chain
      refine ⟨(next?_eq_some_iff hsources).2 (hlinks.mem_iff.2 (mem_chainEnds_iff.2 ?_)),
        ih ((List.suffix_cons a (b :: r)).trans hsuffix)⟩
      exact (List.IsPrefix.isInfix ⟨r, rfl⟩).trans hsuffix.isInfix

/-- The walk of the checker visits the ids along which the successors lead. -/
theorem walk_of_leads {g : FlowGraph} {moves : Nat} {a : String} {r visited : List String}
    (hleads : g.Leads (a :: r)) (hnodup : r.Nodup) (hnew : ∀ b ∈ r, b ∉ visited)
    (hmoves : r.length ≤ moves) : walk g moves a visited = .ok (r.reverse ++ visited) := by
  induction r generalizing moves a visited with
  | nil =>
    have hnext : g.next? a = none := hleads
    rw [walk, hnext]
    rfl
  | cons b r ih =>
    obtain ⟨hnext, hleads⟩ : g.next? a = some b ∧ g.Leads (b :: r) := hleads
    obtain ⟨hb, hnodup⟩ := List.nodup_cons.1 hnodup
    obtain ⟨moves, rfl⟩ : ∃ m, moves = m + 1 :=
      Nat.exists_eq_add_of_le' (Nat.le_trans (by simp) hmoves)
    -- `b` is a new id, and whatever lies ahead of it is still new once it is visited
    have hfresh : visited.contains b = false := by
      simpa using hnew b List.mem_cons_self
    have hahead : ∀ c ∈ r, c ∉ b :: visited := by
      intro c hc hmem
      rcases List.mem_cons.1 hmem with rfl | hmem
      · exact hb hc
      · exact hnew c (List.mem_cons_of_mem b hc) hmem
    have hrest : r.length ≤ moves := by simpa using hmoves
    rw [walk, hnext]
    simp only [hfresh, Bool.false_eq_true, if_false]
    rw [ih hleads hnodup hahead hrest]
    simp

end FlowGraph

/-- The schedule of the nodes of a list, with the days that are pending before it. -/
def scheduleAlong : (pending : Nat) → List Node → Except Fault Schedule
  | _, [] => .ok []
  | pending, node :: r =>
    match node.kind, node.data with
    | .trigger, _ => scheduleAlong pending r
    | .delay, .delay d => scheduleAlong (pending + d.delayDays.val) r
    | .email, .email e => (scheduleAlong 0 r).map ((e.subject, pending) :: ·)
    | _, _ => .error .missingData

namespace FlowGraph

/-- The schedule is read off the nodes along which the successors lead. -/
theorem scheduleFrom_of_leads {g : FlowGraph} {moves pending : Nat} {a : String} {nodes : List Node}
    (hleads : g.Leads (a :: nodes.map (·.id))) (hfind : ∀ n ∈ nodes, g.node? n.id = some n)
    (hmoves : nodes.length ≤ moves) :
    g.scheduleFrom moves a pending = scheduleAlong pending nodes := by
  induction nodes generalizing moves a pending with
  | nil =>
    have hnext : g.next? a = none := hleads
    rw [scheduleFrom, hnext]
    rfl
  | cons node r ih =>
    obtain ⟨hnext, hleads⟩ :
      g.next? a = some node.id ∧ g.Leads (node.id :: r.map Node.id) := hleads
    obtain ⟨moves, rfl⟩ : ∃ m, moves = m + 1 :=
      Nat.exists_eq_add_of_le' (Nat.le_trans (by simp) hmoves)
    -- the node decides only which days are pending for the rest
    have hrest : ∀ pending, g.scheduleFrom moves node.id pending = scheduleAlong pending r :=
      fun pending => ih hleads (fun n hn => hfind n (List.mem_cons_of_mem node hn))
        (by simpa using hmoves)
    rw [scheduleFrom, hnext]
    simp only [hfind node List.mem_cons_self]
    cases hkind : node.kind <;> cases hdata : node.data <;>
      simp only [hkind, hdata, hrest, scheduleAlong]

/-! ### The checker on chains -/

/-- Without duplicates, ids are distinct. -/
theorem hasDuplicate_eq_false_iff {ids : List String} : hasDuplicate ids = false ↔ ids.Nodup := by
  induction ids with
  | nil => simp [hasDuplicate]
  | cons a r ih => simp [hasDuplicate, ih]

/-- Edges pass just when they join known nodes and no two of them, nor one checked before, share a
source or a target. -/
theorem checkEdges_eq_ok_iff {ids sources targets : List String} {edges : List Edge} :
    checkEdges ids sources targets edges = .ok () ↔
      (∀ e ∈ edges, e.source ∈ ids ∧ e.target ∈ ids) ∧
        ((edges.map (·.source)).Nodup ∧ ∀ e ∈ edges, e.source ∉ sources) ∧
        ((edges.map (·.target)).Nodup ∧ ∀ e ∈ edges, e.target ∉ targets) := by
  fun_induction checkEdges ids sources targets edges with
  | case1 => simp
  | case2 sources targets e r h => simp_all; tauto
  | case3 sources targets e r _ h => simp_all
  | case4 sources targets e r _ _ h => simp_all
  | case5 sources targets e r hknown hbranch hmerge ih =>
    rw [ih]
    simp_all
    grind

/-- The checker accepts every chain. -/
theorem check_of_isChain {g : FlowGraph} (h : g.IsChain) : g.check = .ok () := by
  obtain ⟨hnodup, hcount, order, hperm, hhead, hlinks⟩ := h
  have hlinks : g.links.Perm (chainEnds (order.map (·.id))) := hlinks
  have hids : (order.map (·.id)).Nodup := (hperm.map Node.id).nodup_iff.2 hnodup
  -- the order starts with the one trigger
  obtain ⟨trigger, rest, rfl⟩ : ∃ trigger rest, order = trigger :: rest := by
    cases order with
    | nil => simp at hhead
    | cons t r => exact ⟨t, r, rfl⟩
  have hkind : trigger.kind = .trigger := by simpa using hhead
  have htrigger : g.nodes.filter (·.kind = .trigger) = [trigger] :=
    filter_kind_eq_singleton hcount (hperm.mem_iff.1 List.mem_cons_self) hkind
  have hlength : g.nodes.length = rest.length + 1 := by simpa using hperm.length_eq.symm
  have hedges : g.edges.length = rest.length := by
    have hlen := hlinks.length_eq
    simpa only [links, length_chainEnds, List.length_map, List.length_cons,
      Nat.add_sub_cancel] using hlen
  -- sources and targets of the links are read off the order
  have hsources : (g.edges.map (·.source)).Perm ((trigger :: rest).map (·.id)).dropLast := by
    rw [← map_fst_links, ← map_fst_chainEnds]
    exact hlinks.map Prod.fst
  have htargets : (g.edges.map (·.target)).Perm (rest.map (·.id)) := by
    have h := hlinks.map Prod.snd
    rwa [map_snd_links, map_snd_chainEnds] at h
  have hpass : checkEdges g.ids [] [] g.edges = .ok () := by
    refine checkEdges_eq_ok_iff.2 ⟨fun e he => ⟨?_, ?_⟩, ⟨?_, by simp⟩, ⟨?_, by simp⟩⟩
    · have hsource := hsources.mem_iff.1 (List.mem_map_of_mem he)
      exact (hperm.map Node.id).mem_iff.1 (List.mem_of_mem_dropLast hsource)
    · have htarget := htargets.mem_iff.1 (List.mem_map_of_mem he)
      exact (hperm.map Node.id).mem_iff.1 (List.mem_cons_of_mem trigger.id htarget)
    · exact hsources.nodup_iff.2 (hids.sublist (List.dropLast_sublist _))
    · exact htargets.nodup_iff.2 (List.nodup_cons.1 hids).2
  have hentered : (g.edges.map (·.target)).contains trigger.id = false := by
    rw [Bool.eq_false_iff, ne_eq, List.contains_iff_mem, htargets.mem_iff]
    exact (List.nodup_cons.1 hids).1
  have hwalk : walk g g.edges.length trigger.id [trigger.id] =
      .ok ((rest.map (·.id)).reverse ++ [trigger.id]) := by
    refine walk_of_leads (leads_of_perm hids hlinks) (List.nodup_cons.1 hids).2 ?_
      (by simp [hedges])
    intro b hb hmem
    rw [List.mem_singleton] at hmem
    subst hmem
    exact (List.nodup_cons.1 hids).1 hb
  -- every test of the checker has its answer now
  rw [hedges] at hwalk
  rw [check, hasDuplicate_eq_false_iff.2 hnodup, htrigger]
  simp only [Bool.false_eq_true, if_false, hlength, hedges, Nat.add_sub_cancel, ne_eq,
    not_true_eq_false, hpass, hentered, hwalk]
  simp

end FlowGraph

end FlowBuilder
