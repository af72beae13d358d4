import FlowBuilder.Graph.Basic

/-!
# Flow records

A compiled flow as it is stored. New flows are drafts.
-/

namespace FlowBuilder

/-- Whether a stored flow runs. -/
inductive FlowStatus where
  /-- Not yet reviewed. -/
  | draft
  /-- Running. -/
  | active
  /-- Stopped for now. -/
  | paused
  deriving DecidableEq, Repr

namespace FlowStatus

/-- The statuses in their order. -/
def all : List FlowStatus := [.draft, .active, .paused]

/-- The written value of a status. -/
def value : FlowStatus → String
  | .draft => "draft"
  | .active => "active"
  | .paused => "paused"

/-- The status of a written value. -/
def ofValue? (s : String) : Option FlowStatus :=
  all.find? (·.value == s)

/-- The status as the word of a title. -/
def title : FlowStatus → String
  | .draft => "Draft"
  | .active => "Active"
  | .paused => "Paused"

/-- A status is found again by its value. -/
@[simp]
theorem ofValue?_value (s : FlowStatus) : ofValue? s.value = some s := by
  cases s <;> decide

end FlowStatus

/-- A compiled flow. -/
structure FlowRecord where
  /-- Its name. -/
  name : String
  /-- What it does. -/
  description : String := ""
  /-- What starts it. -/
  triggerType : TriggerType
  /-- Whom it is for. -/
  audience : TriggerAudience
  /-- Its graph. -/
  graph : FlowGraph
  /-- Whether it runs. -/
  status : FlowStatus := .draft

/-- The record of a plan's graph. -/
def FlowRecord.ofPlan (plan : Plan) (audience : TriggerAudience) (graph : FlowGraph) :
    FlowRecord where
  name := plan.flowName
  description := plan.description
  triggerType := plan.triggerType
  audience
  graph

end FlowBuilder
