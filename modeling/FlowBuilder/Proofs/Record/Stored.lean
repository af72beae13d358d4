import FlowBuilder.Proofs.Record.RoundTrip
import FlowBuilder.Store

/-!
# Stored records

`RecordClass` lists the classes of records, each with its reading and its JSON form. Reading is a
left inverse of writing in every class (`RecordClass.read_toJson`), so that what is written tells
the record (`RecordClass.toJson_injective`).

A stored flow lies in the columns of its row. `StatesFlow` says that those that hold the flow itself
read back as its parts: the graph node by node, each with data of its own shape, and the audience
with each value of a condition of its own kind. The whole row is even read as the flow
(`FlowRecord.read_row`), since the columns are the keys of a flow's record and the others are
ignored. The conditions of a stored segment are read back likewise (`readList_row_segment`).
-/

namespace FlowBuilder

/-! ### The classes of records -/

/-- The classes of records. -/
inductive RecordClass where
  /-- Emails of a plan. -/
  | emailStep
  /-- Plans. -/
  | plan
  /-- Conditions. -/
  | condition
  /-- Rules of an audience. -/
  | audienceRule
  /-- Audiences of a trigger. -/
  | triggerAudience
  /-- Contents of an email. -/
  | emailContent
  /-- Written emails. -/
  | writtenStep
  /-- Places on the canvas. -/
  | position
  /-- Data of a trigger node. -/
  | triggerData
  /-- Data of a delay node. -/
  | delayData
  /-- Data of an email node. -/
  | emailData
  /-- Nodes. -/
  | node
  /-- Edges. -/
  | edge
  /-- Graphs. -/
  | graph
  /-- Compiled flows. -/
  | flow
  /-- Turns of a conversation. -/
  | turn
  /-- Requests. -/
  | request
  /-- Answers. -/
  | response
  deriving DecidableEq, Repr

namespace RecordClass

/-- The records of a class. -/
def Record : RecordClass → Type
  | .emailStep => EmailStep
  | .plan => Plan
  | .condition => Condition
  | .audienceRule => AudienceRule
  | .triggerAudience => TriggerAudience
  | .emailContent => EmailContent
  | .writtenStep => WrittenStep
  | .position => Position
  | .triggerData => TriggerData
  | .delayData => DelayData
  | .emailData => EmailData
  | .node => Node
  | .edge => Edge
  | .graph => FlowGraph
  | .flow => FlowRecord
  | .turn => Turn
  | .request => FlowRequest
  | .response => FlowResponse

/-- How a record of a class is read. -/
def read : (c : RecordClass) → Json → Checked c.Record
  | .emailStep => EmailStep.read
  | .plan => Plan.read
  | .condition => Condition.read
  | .audienceRule => AudienceRule.read
  | .triggerAudience => TriggerAudience.read
  | .emailContent => EmailContent.read
  | .writtenStep => WrittenStep.read
  | .position => Position.read
  | .triggerData => TriggerData.read
  | .delayData => DelayData.read
  | .emailData => EmailData.read
  | .node => Node.read
  | .edge => Edge.read
  | .graph => FlowGraph.read
  | .flow => FlowRecord.read
  | .turn => Turn.readAs .notObject
  | .request => FlowRequest.readAs .notObject
  | .response => FlowResponse.read

/-- The JSON form of a record of a class. -/
def toJson : (c : RecordClass) → c.Record → Json
  | .emailStep => EmailStep.toJson
  | .plan => Plan.toJson
  | .condition => Condition.toJson
  | .audienceRule => AudienceRule.toJson
  | .triggerAudience => TriggerAudience.toJson
  | .emailContent => EmailContent.toJson
  | .writtenStep => WrittenStep.toJson
  | .position => Position.toJson
  | .triggerData => TriggerData.toJson
  | .delayData => DelayData.toJson
  | .emailData => EmailData.toJson
  | .node => Node.toJson
  | .edge => Edge.toJson
  | .graph => FlowGraph.toJson
  | .flow => FlowRecord.toJson
  | .turn => Turn.toJson
  | .request => FlowRequest.toJson
  | .response => FlowResponse.toJson

/-- A record is read from its own JSON form, in every class. -/
theorem read_toJson (c : RecordClass) (m : c.Record) : c.read (c.toJson m) = .ok m := by
  cases c with
  | emailStep => exact EmailStep.read_toJson m
  | plan => exact Plan.read_toJson m
  | condition => exact Condition.read_toJson m
  | audienceRule => exact AudienceRule.read_toJson m
  | triggerAudience => exact TriggerAudience.read_toJson m
  | emailContent => exact EmailContent.read_toJson m
  | writtenStep => exact WrittenStep.read_toJson m
  | position => exact Position.read_toJson m
  | triggerData => exact TriggerData.read_toJson m
  | delayData => exact DelayData.read_toJson m
  | emailData => exact EmailData.read_toJson m
  | node => exact Node.read_toJson m
  | edge => exact Edge.read_toJson m
  | graph => exact FlowGraph.read_toJson m
  | flow => exact FlowRecord.read_toJson m
  | turn => exact Turn.readAs_toJson .notObject m
  | request => exact FlowRequest.readAs_toJson .notObject m
  | response => exact FlowResponse.read_toJson m

/-- Records that are written alike are the same. -/
theorem toJson_injective (c : RecordClass) {m n : c.Record} (h : c.toJson m = c.toJson n) :
    m = n := by
  have hread : (Checked.ok m : Checked c.Record) = .ok n := by
    rw [← read_toJson c m, h, read_toJson]
  exact Checked.ok.inj hread

end RecordClass

/-! ### The rows of the store -/

/-- A row's columns state a flow: they are read as its parts. -/
structure StatesFlow (content : Json) (flow : FlowRecord) : Prop where
  /-- The graph. -/
  graph : FlowGraph.read (content.fieldD "flow_definition") = .ok flow.graph
  /-- Whom it is for. -/
  audience : TriggerAudience.read (content.fieldD "trigger_config") = .ok flow.audience
  /-- What starts it. -/
  triggerType :
    readMember TriggerType.ofValue? (content.fieldD "trigger_type") = .ok flow.triggerType
  /-- Whether it runs. -/
  status : readMember FlowStatus.ofValue? (content.fieldD "status") = .ok flow.status

variable (owner now : String)

/-- The row of a flow states the flow. -/
theorem statesFlow_row (flow : FlowRecord) :
    StatesFlow ((StoreCall.flow owner flow).row now).content flow where
  graph := by simp [StoreCall.row, Json.obj, Json.fieldD, Json.field?]
  audience := by simp [StoreCall.row, Json.obj, Json.fieldD, Json.field?]
  triggerType := by simp [StoreCall.row, Json.obj, Json.fieldD, Json.field?]
  status := by simp [StoreCall.row, Json.obj, Json.fieldD, Json.field?]

/-- The row of a flow is read as the flow itself. -/
theorem FlowRecord.read_row (flow : FlowRecord) :
    FlowRecord.read ((StoreCall.flow owner flow).row now).content = .ok flow := by
  simp [StoreCall.row, FlowRecord.read, readRecord, readObject, Json.obj, requiredField,
    optionalField, textField, firstKey?]

/-- The conditions of a segment are read back from its row. -/
theorem readList_row_segment (name description : String) (conditions : List Condition)
    (aiPrompt : Option String) :
    readList Condition.read
        (((StoreCall.segment owner name description conditions aiPrompt).row now).content.fieldD
          "conditions") = .ok conditions := by
  simp [StoreCall.row, Json.obj, Json.fieldD, Json.field?]

/-- Nothing is lost by storing: whatever was read as a record is read again from the record's own
JSON form as the same record, and the columns of a flow's row are read as the parts of the flow. -/
theorem stored_readBack :
    (∀ (c : RecordClass) (m : c.Record), c.read (c.toJson m) = .ok m) ∧
      ∀ (owner now : String) (flow : FlowRecord),
        StatesFlow ((StoreCall.flow owner flow).row now).content flow :=
  ⟨RecordClass.read_toJson, statesFlow_row⟩

end FlowBuilder
