import FlowBuilder.Failure
import FlowBuilder.Graph.Basic

/-!
# Chains

`FlowGraph.check` accepts the graphs that are one chain from their one trigger, and says of any
other graph why it is not. `FlowGraph.IsChain` states the same without an algorithm: some order of
the nodes, with the trigger first, has exactly one edge from each node to the next.
-/

namespace FlowBuilder

/-- The ends of the edges of a chain over the given ids. -/
def chainEnds : List String → List (String × String)
  | a :: b :: r => (a, b) :: chainEnds (b :: r)
  | _ => []

/-- Whether some order of all nodes, from the only trigger on, is joined by exactly the edges of the
graph. -/
def FlowGraph.IsChain (g : FlowGraph) : Prop :=
  g.ids.Nodup ∧ g.countKind .trigger = 1 ∧
    ∃ order : List Node, order.Perm g.nodes ∧ (order.head?.map (·.kind)) = some .trigger ∧
      (g.edges.map fun e => (e.source, e.target)).Perm (chainEnds (order.map (·.id)))

namespace FlowGraph

/-- Whether a list holds something twice. -/
def hasDuplicate : List String → Bool
  | [] => false
  | a :: r => r.contains a || hasDuplicate r

/-- Whether the edges join known nodes, at most one leaving and one entering each. `sources` and
`targets` are the ends of the edges checked before. -/
def checkEdges (ids : List String) :
    (sources targets : List String) → List Edge → Except GraphDefect Unit
  | _, _, [] => .ok ()
  | sources, targets, e :: r =>
    if !(ids.contains e.source && ids.contains e.target) then .error (.unknownEnd e.id)
    else if sources.contains e.source then .error (.branch e.source)
    else if targets.contains e.target then .error (.merge e.target)
    else checkEdges ids (e.source :: sources) (e.target :: targets) r

/-- The ids that the edges reach from `cursor`, in front of those visited before. A walk that comes
back to no node takes at most as many moves as the graph has edges: one that runs out of `moves` has
come back. -/
def walk (g : FlowGraph) : (moves : Nat) → (cursor : String) → (visited : List String) →
    Except GraphDefect (List String)
  | moves, cursor, visited =>
    match g.next? cursor with
    | none => .ok visited
    | some id =>
      if visited.contains id then .error .cycle
      -- each move uses an edge of its own
      else match moves with
        | 0 => .error .cycle
        | moves + 1 => walk g moves id (id :: visited)

/-- Whether the graph is a chain from its trigger, or why not. -/
def check (g : FlowGraph) : Except GraphDefect Unit :=
  if hasDuplicate g.ids then .error .duplicateIds
  else match g.nodes.filter (·.kind = .trigger) with
    | [trigger] =>
      if g.edges.length ≠ g.nodes.length - 1 then
        .error (.edgeCount g.nodes.length g.edges.length)
      else match checkEdges g.ids [] [] g.edges with
        | .error defect => .error defect
        | .ok () =>
          if (g.edges.map (·.target)).contains trigger.id then .error .triggerEntered
          else match walk g g.edges.length trigger.id [trigger.id] with
            | .error defect => .error defect
            | .ok visited =>
              if visited.length ≠ g.nodes.length then .error .unreachable else .ok ()
    | triggers => .error (.triggerCount triggers.length)

end FlowGraph

end FlowBuilder
