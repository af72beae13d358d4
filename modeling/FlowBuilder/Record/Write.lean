import FlowBuilder.Content.Sections
import FlowBuilder.FlowRecord
import FlowBuilder.Graph.Assembly
import FlowBuilder.Json.Basic
import FlowBuilder.Request

/-!
# Writing records

The JSON form of each record: an object with all its fields, in their order.
-/

namespace FlowBuilder

/-- A text, or `null`. -/
def optionalText : Option String → Json
  | none => .null
  | some s => .text s

/-- The JSON form of a plan's email. -/
def EmailStep.toJson (s : EmailStep) : Json :=
  .obj [("sequence", .nat s.sequence.val), ("delay_days", .nat s.delayDays.val),
    ("subject", .text s.subject), ("purpose", .text s.purpose),
    ("key_message", .text s.keyMessage), ("cta", .text s.cta)]

/-- The JSON form of a plan. -/
def Plan.toJson (p : Plan) : Json :=
  .obj [("flow_type", .text p.flowType.value), ("flow_name", .text p.flowName),
    ("description", .text p.description), ("trigger_type", .text p.triggerType.value),
    ("target_audience", .text p.targetAudience), ("emails", .array (p.emails.map (·.toJson)))]

/-- The JSON form of a condition's value. -/
def ConditionValue.toJson : ConditionValue → Json
  | .bool b => .bool b
  | .int n => .int n
  | .float x => .float x

/-- The JSON form of a condition. -/
def Condition.toJson (c : Condition) : Json :=
  .obj [("field", .text c.field), ("operator", .text c.operator.value), ("value", c.value.toJson)]

/-- The JSON form of a list of conditions. -/
def conditionsJson (conditions : List Condition) : Json :=
  .array (conditions.map (·.toJson))

/-- The JSON form of an audience's rule. -/
def AudienceRule.toJson (r : AudienceRule) : Json :=
  .obj [("conditions", conditionsJson r.conditions), ("rationale", .text r.rationale),
    ("trigger_label", .text r.triggerLabel)]

/-- The JSON form of a trigger's audience. -/
def TriggerAudience.toJson (a : TriggerAudience) : Json :=
  .obj [("segment_id", optionalText a.segmentId), ("segment_name", .text a.segmentName),
    ("conditions", conditionsJson a.conditions)]

/-- The JSON form of an email's content. -/
def EmailContent.toJson (c : EmailContent) : Json :=
  .obj [("subject", .text c.subject), ("body", .text c.body),
    ("subject_fallback", .bool c.subjectFallback), ("body_fallback", .bool c.bodyFallback)]

/-- The JSON form of a written email. -/
def WrittenStep.toJson (s : WrittenStep) : Json :=
  .obj [("sequence", .nat s.sequence.val), ("delay_days", .nat s.delayDays.val),
    ("subject", .text s.subject), ("template_id", .text s.templateId)]

/-- The JSON form of a place on the canvas. -/
def Position.toJson (p : Position) : Json :=
  .obj [("x", .float p.x), ("y", .float p.y)]

/-- The JSON form of a trigger's data. -/
def TriggerData.toJson (d : TriggerData) : Json :=
  .obj [("name", .text d.name), ("trigger_type", .text d.triggerType.value),
    ("segment_id", optionalText d.segmentId), ("segment_name", .text d.segmentName),
    ("conditions", conditionsJson d.conditions)]

/-- The JSON form of a delay's data. -/
def DelayData.toJson (d : DelayData) : Json :=
  .obj [("name", .text d.name), ("delay_days", .nat d.delayDays.val),
    ("delay_hours", .int d.delayHours)]

/-- The JSON form of an email's data. -/
def EmailData.toJson (d : EmailData) : Json :=
  .obj [("name", .text d.name), ("email_template_id", .text d.templateId),
    ("subject", .text d.subject), ("sequence", .nat d.sequence.val)]

/-- The JSON form of a node's data. -/
def NodeData.toJson : NodeData → Json
  | .trigger d => d.toJson
  | .delay d => d.toJson
  | .email d => d.toJson

/-- The JSON form of a node. -/
def Node.toJson (n : Node) : Json :=
  .obj [("id", .text n.id), ("type", .text n.kind.value), ("data", n.data.toJson),
    ("position", n.position.toJson)]

/-- The JSON form of an edge. -/
def Edge.toJson (e : Edge) : Json :=
  .obj [("id", .text e.id), ("source", .text e.source), ("target", .text e.target)]

/-- The JSON form of a graph. -/
def FlowGraph.toJson (g : FlowGraph) : Json :=
  .obj [("nodes", .array (g.nodes.map (·.toJson))), ("edges", .array (g.edges.map (·.toJson)))]

/-- The JSON form of a compiled flow. -/
def FlowRecord.toJson (f : FlowRecord) : Json :=
  .obj [("name", .text f.name), ("description", .text f.description),
    ("trigger_type", .text f.triggerType.value), ("trigger_config", f.audience.toJson),
    ("flow_definition", f.graph.toJson), ("status", .text f.status.value)]

/-- The JSON form of a turn. -/
def Turn.toJson (t : Turn) : Json :=
  .obj [("role", .text t.role), ("content", .text t.content)]

/-- The JSON form of a request. -/
def FlowRequest.toJson (r : FlowRequest) : Json :=
  .obj [("message", .text r.message),
    ("conversation_history", match r.history with
      | none => .null
      | some turns => .array (turns.map (·.toJson)))]

/-- The JSON form of an answer. -/
def FlowResponse.toJson (r : FlowResponse) : Json :=
  .obj [("response", .text r.response)]

end FlowBuilder
