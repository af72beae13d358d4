import FlowBuilder.Failure
import FlowBuilder.Graph.Assembly

/-!
# Schedules

When the emails of a graph are sent: the walk from the trigger pairs the subject of each email with
the days of the delays since the email before it.
-/

namespace FlowBuilder

/-- The emails of a flow in order: subjects, and days to wait before each. -/
abbrev Schedule := List (String × Nat)

namespace FlowGraph

/-- The schedule from a node on, with the days that are pending there. A walk that comes back to no
node takes at most as many moves as there are edges; one that is still going after `moves` never
ends. -/
def scheduleFrom (g : FlowGraph) :
    (moves : Nat) → (cursor : String) → (pending : Nat) → Except Fault Schedule
  | moves, cursor, pending =>
    match g.next? cursor with
    | none => .ok []
    | some id =>
      match moves with
      | 0 => .error .endlessWalk
      | moves + 1 =>
        match g.node? id with
        | none => .error .unknownNode
        | some node =>
          match node.kind, node.data with
          | .trigger, _ => scheduleFrom g moves id pending
          | .delay, .delay d => scheduleFrom g moves id (pending + d.delayDays.val)
          | .email, .email e => (scheduleFrom g moves id 0).map ((e.subject, pending) :: ·)
          | _, _ => .error .missingData

/-- The schedule of a graph, from the node that has the id of an assembled trigger. -/
def schedule (g : FlowGraph) : Except Fault Schedule :=
  g.scheduleFrom g.edges.length triggerId 0

end FlowGraph

end FlowBuilder
