import FlowBuilder.Audience

/-!
# Flow graphs

The compiled form of a flow: nodes of three kinds and the edges between them. A node states its kind
and its data separately, as a stored graph may disagree with itself; `NodeData.kind` is the kind
that the data fit.
-/

namespace FlowBuilder

/-- The kinds of nodes. -/
inductive NodeKind where
  /-- Where a flow starts. -/
  | trigger
  /-- A wait. -/
  | delay
  /-- An email to send. -/
  | email
  deriving DecidableEq, Repr

namespace NodeKind

/-- The kinds in their order. -/
def all : List NodeKind := [.trigger, .delay, .email]

/-- The written value of a kind. -/
def value : NodeKind → String
  | .trigger => "trigger"
  | .delay => "delay"
  | .email => "email"

/-- The kind of a written value. -/
def ofValue? (s : String) : Option NodeKind :=
  all.find? (·.value == s)

/-- A kind of node is found again by its value. -/
@[simp]
theorem ofValue?_value (k : NodeKind) : ofValue? k.value = some k := by
  cases k <;> decide

end NodeKind

/-- A place on the canvas; only for display. -/
structure Position where
  /-- Rightwards. -/
  x : Float
  /-- Downwards. -/
  y : Float

/-- What a trigger node holds. -/
structure TriggerData where
  /-- The name of the node. -/
  name : String := "Flow Trigger"
  /-- What starts the flow. -/
  triggerType : TriggerType
  /-- The segment that starts it. -/
  segmentId : Option String := none
  /-- The name of the segment. -/
  segmentName : String := manualTriggerLabel
  /-- The conditions of the segment. -/
  conditions : List Condition := []

/-- What a delay node holds. -/
structure DelayData where
  /-- The name of the node. -/
  name : String
  /-- The days to wait. -/
  delayDays : Positive
  /-- The hours to wait on top. -/
  delayHours : Int := 0
  deriving DecidableEq, Repr

/-- What an email node holds. -/
structure EmailData where
  /-- The name of the node. -/
  name : String
  /-- The stored template to send. -/
  templateId : String
  /-- The subject of the email. -/
  subject : String
  /-- Its place in the sequence. -/
  sequence : Positive
  deriving DecidableEq, Repr

/-- What a node holds. -/
inductive NodeData where
  /-- Of a trigger. -/
  | trigger (data : TriggerData)
  /-- Of a delay. -/
  | delay (data : DelayData)
  /-- Of an email. -/
  | email (data : EmailData)

/-- The kind of node that holds such data. -/
def NodeData.kind : NodeData → NodeKind
  | .trigger _ => .trigger
  | .delay _ => .delay
  | .email _ => .email

/-- A node. -/
structure Node where
  /-- Its id. -/
  id : String
  /-- Its stated kind. -/
  kind : NodeKind
  /-- Its data. -/
  data : NodeData
  /-- Its place on the canvas. -/
  position : Position

/-- An edge. -/
structure Edge where
  /-- Its id. -/
  id : String
  /-- The id of the node that it leaves. -/
  source : String
  /-- The id of the node that it enters. -/
  target : String
  deriving DecidableEq, Repr

/-- A graph. -/
structure FlowGraph where
  /-- Its nodes. -/
  nodes : List Node := []
  /-- Its edges. -/
  edges : List Edge := []

namespace FlowGraph

/-- The ids of the nodes. -/
def ids (g : FlowGraph) : List String :=
  g.nodes.map (·.id)

/-- How many nodes are of a kind. -/
def countKind (g : FlowGraph) (k : NodeKind) : Nat :=
  g.nodes.countP (·.kind = k)

/-- The node of an id; of several the last. -/
def node? (g : FlowGraph) (id : String) : Option Node :=
  g.nodes.reverse.find? (·.id == id)

/-- The node to which an edge leads from a node; of several the last. -/
def next? (g : FlowGraph) (id : String) : Option String :=
  (g.edges.reverse.find? (·.source == id)).map (·.target)

end FlowGraph

/-- A number of days in words. -/
def daysText (days : Decimal.Numeral) : String :=
  days.text ++ (if 1 < days.val then " days" else " day")

end FlowBuilder
