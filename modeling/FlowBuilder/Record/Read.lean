import FlowBuilder.Content.Sections
import FlowBuilder.FlowRecord
import FlowBuilder.Graph.Assembly
import FlowBuilder.Record.Scalar
import FlowBuilder.Request

/-!
# Reading records

How each record of the library is read from JSON. Keys that a record does not have are ignored. The
value of a condition and the data of a node have several shapes: a value that is of one shape
already keeps it, and otherwise the shape is taken that fits best.
-/

namespace FlowBuilder

/-- A text field with a default. -/
def textField (keys : List String) (default : String) : Members → Checked String :=
  optionalField keys default readString

/-- A record in plain JSON, by its members. -/
def readRecord {α : Type} : (Members → Checked α) → Json → Checked α :=
  readObject .notObject

/-! ### Plans -/

/-- An email of a plan. -/
def EmailStep.read : Json → Checked EmailStep :=
  readRecord fun m =>
    EmailStep.mk <$> requiredField ["sequence"] readPlace m
      <*> optionalField ["delayDays", "delay_days"] .zero readNumeral m
      <*> textField ["subject"] "" m
      <*> textField ["purpose"] "" m
      <*> textField ["keyMessage", "key_message"] "" m
      <*> textField ["cta"] "" m

/-- The emails of a plan, of which there is one at least. -/
def readSteps (j : Json) : Checked { steps : List EmailStep // steps ≠ [] } :=
  (readList EmailStep.read j).andThen fun steps =>
    if h : steps ≠ [] then .ok ⟨steps, h⟩ else .fail .listTooShort

/-- How the emails of a plan are misnumbered. -/
def misnumberedText (numbers : List Nat) : String :=
  "Value error, email sequence numbers must run 1.." ++ toString numbers.length ++
    " in order, got [" ++ ", ".intercalate (numbers.map toString) ++ "]"

/-- A plan of the given fields, if its emails are numbered in order. -/
def Plan.ofFields (flowType : FlowType) (flowName description : String)
    (triggerType : TriggerType) (targetAudience : String)
    (emails : { steps : List EmailStep // steps ≠ [] }) : Checked Plan :=
  let numbers := emails.val.map (·.sequence.val)
  if h : numbers = List.range' 1 emails.val.length then
    .ok { flowType, flowName, description, triggerType, targetAudience
          emails := emails.val, numbered := h, nonempty := emails.property }
  else .fail (.misnumbered (misnumberedText numbers))

/-- A plan. -/
def Plan.read : Json → Checked Plan :=
  readRecord fun m =>
    Checked.andThen
      (Plan.ofFields <$> requiredField ["flowType", "flow_type"] (readMember FlowType.ofValue?) m
        <*> requiredField ["flowName", "flow_name"] readString m
        <*> textField ["description"] "" m
        <*> optionalField ["triggerType", "trigger_type"] .manual
          (readMember TriggerType.ofValue?) m
        <*> textField ["targetAudience", "target_audience"] "" m
        <*> requiredField ["emails"] readSteps m)
      id

/-! ### Audiences -/

/-- The value of a condition. Truth values and numbers are taken as they are; a text is taken as
whatever it states first of a truth value, a whole number and a number. -/
def ConditionValue.read : Json → Checked ConditionValue
  | .bool b => .ok (.bool b)
  | .int n => .ok (.int n)
  | .float x => .ok (.float x)
  | j =>
    match readBool j, readInt j, readFloat j with
    | .ok b, _, _ => .ok (.bool b)
    | .bad _, .ok n, _ => .ok (.int n)
    | .bad _, .bad _, .ok x => .ok (.float x)
    | .bad bs, .bad ns, .bad xs =>
      let named (name : String) (ds : List Defect) : List Defect :=
        ds.map fun d => { d with path := .key name :: d.path }
      .bad (named "bool" bs ++ named "int" ns ++ named "float" xs)

/-- A condition. -/
def Condition.read : Json → Checked Condition :=
  readRecord fun m =>
    Condition.mk <$> requiredField ["field"] readString m
      <*> requiredField ["operator"] (readMember Comparison.ofValue?) m
      <*> requiredField ["value"] ConditionValue.read m

/-- The conditions of an audience. -/
def conditionsField : Members → Checked (List Condition) :=
  optionalField ["conditions"] [] (readList Condition.read)

/-- The rule of an audience. -/
def AudienceRule.read : Json → Checked AudienceRule :=
  readRecord fun m =>
    AudienceRule.mk <$> conditionsField m
      <*> textField ["rationale"] "" m
      <*> textField ["trigger_label"] "" m

/-- The audience of a trigger. -/
def TriggerAudience.read : Json → Checked TriggerAudience :=
  readRecord fun m =>
    TriggerAudience.mk <$> optionalField ["segment_id"] none readOptionalString m
      <*> textField ["segment_name"] manualTriggerLabel m
      <*> conditionsField m

/-! ### Content -/

/-- The content of an email. -/
def EmailContent.read : Json → Checked EmailContent :=
  readRecord fun m =>
    EmailContent.mk <$> requiredField ["subject"] readString m
      <*> requiredField ["body"] readString m
      <*> optionalField ["subject_fallback"] false readBool m
      <*> optionalField ["body_fallback"] false readBool m

/-- An email that has been written and stored. -/
def WrittenStep.read : Json → Checked WrittenStep :=
  readRecord fun m =>
    WrittenStep.mk <$> requiredField ["sequence"] readPlace m
      <*> optionalField ["delay_days"] .zero readNumeral m
      <*> requiredField ["subject"] readString m
      <*> requiredField ["template_id"] readString m

/-! ### Graphs -/

/-- A place on the canvas. -/
def Position.read : Json → Checked Position :=
  readRecord fun m =>
    Position.mk <$> requiredField ["x"] readFloat m <*> requiredField ["y"] readFloat m

/-- The data of a trigger. -/
def TriggerData.read : Json → Checked TriggerData :=
  readRecord fun m =>
    TriggerData.mk <$> textField ["name"] "Flow Trigger" m
      <*> requiredField ["trigger_type"] (readMember TriggerType.ofValue?) m
      <*> optionalField ["segment_id"] none readOptionalString m
      <*> textField ["segment_name"] manualTriggerLabel m
      <*> conditionsField m

/-- The data of a delay. -/
def DelayData.read : Json → Checked DelayData :=
  readRecord fun m =>
    DelayData.mk <$> requiredField ["name"] readString m
      <*> requiredField ["delay_days"] (readPositive .notAboveBound) m
      <*> optionalField ["delay_hours"] 0 readInt m

/-- The data of an email. -/
def EmailData.read : Json → Checked EmailData :=
  readRecord fun m =>
    EmailData.mk <$> requiredField ["name"] readString m
      <*> requiredField ["email_template_id"] readString m
      <*> requiredField ["subject"] readString m
      <*> requiredField ["sequence"] (readPositive .belowMinimum) m

/-- How many of the given keys a value has. -/
def keyCount (keys : List String) (j : Json) : Nat :=
  keys.countP fun key => (j.field? key).isSome

/-- Whether a field states a whole number as such, or is missing. -/
def statesInt (key : String) (j : Json) : Bool :=
  match j.field? key with
  | none | some (.int _) => true
  | _ => false

/-- Whether a condition states its value as such, and not by a text. -/
def statesValue (condition : Json) : Bool :=
  match condition.fieldD "value" with
  | .bool _ | .int _ | .float _ => true
  | _ => false

/-- How much a reading is worth by the number of keys that it uses. Of two readings with equally
many keys, the one that took all values as they were stated is worth more. -/
def weightOf (keys : Nat) (asStated : Bool) : Nat :=
  2 * keys + if asStated then 1 else 0

/-- The keys that a list of conditions uses: three in each condition, where only those from the last
one on that states its value as such are counted, or all if none does. -/
def conditionKeys (conditions : List Json) : Nat :=
  let after := (conditions.reverse.takeWhile (!statesValue ·)).length
  3 * min conditions.length (after + 1)

/-- What a value is worth as the data of a trigger. Its type is stated by a name, which is a
conversion; a last condition that states its value as such makes up for it. -/
def triggerWeight (j : Json) : Nat :=
  let conditions := match j.fieldD "conditions" with
    | .array items => items
    | _ => []
  weightOf
    (keyCount ["name", "trigger_type", "segment_id", "segment_name", "conditions"] j +
      conditionKeys conditions)
    (conditions.getLast?.any statesValue)

/-- What a value is worth as the data of a delay. -/
def delayWeight (j : Json) : Nat :=
  weightOf (keyCount ["name", "delay_days", "delay_hours"] j)
    (statesInt "delay_days" j && statesInt "delay_hours" j)

/-- What a value is worth as the data of an email. -/
def emailWeight (j : Json) : Nat :=
  weightOf (keyCount ["name", "email_template_id", "subject", "sequence"] j)
    (statesInt "sequence" j)

/-- The heaviest reading that succeeded, of several the first; if none did, all defects. `best` is
the heaviest one so far, and `defects` are those so far. -/
def heaviestFrom {α : Type} (best : Option (Nat × α)) (defects : List Defect) :
    List (Nat × Checked α) → Checked α
  | [] =>
    match best with
    | some (_, a) => .ok a
    | none => .bad defects
  | (_, .bad ds) :: r => heaviestFrom best (defects ++ ds) r
  | (weight, .ok a) :: r =>
    match best with
    | some (most, b) =>
      heaviestFrom (if most < weight then some (weight, a) else some (most, b)) defects r
    | none => heaviestFrom (some (weight, a)) defects r

/-- The heaviest of some readings that succeeded. -/
def heaviest {α : Type} : List (Nat × Checked α) → Checked α :=
  heaviestFrom none []

/-- The data of a node, of whatever kind fits best. -/
def NodeData.read (j : Json) : Checked NodeData :=
  heaviest [
    (triggerWeight j, (NodeData.trigger <$> TriggerData.read j).within (.key "TriggerNodeData")),
    (delayWeight j, (NodeData.delay <$> DelayData.read j).within (.key "DelayNodeData")),
    (emailWeight j, (NodeData.email <$> EmailData.read j).within (.key "EmailNodeData"))]

/-- A node. -/
def Node.read : Json → Checked Node :=
  readRecord fun m =>
    Node.mk <$> requiredField ["id"] readString m
      <*> requiredField ["type"] (readMember NodeKind.ofValue?) m
      <*> requiredField ["data"] NodeData.read m
      <*> requiredField ["position"] Position.read m

/-- An edge. -/
def Edge.read : Json → Checked Edge :=
  readRecord fun m =>
    Edge.mk <$> requiredField ["id"] readString m
      <*> requiredField ["source"] readString m
      <*> requiredField ["target"] readString m

/-- A graph. -/
def FlowGraph.read : Json → Checked FlowGraph :=
  readRecord fun m =>
    FlowGraph.mk <$> optionalField ["nodes"] [] (readList Node.read) m
      <*> optionalField ["edges"] [] (readList Edge.read) m

/-- A compiled flow. -/
def FlowRecord.read : Json → Checked FlowRecord :=
  readRecord fun m =>
    FlowRecord.mk <$> requiredField ["name"] readString m
      <*> textField ["description"] "" m
      <*> requiredField ["trigger_type"] (readMember TriggerType.ofValue?) m
      <*> requiredField ["trigger_config"] TriggerAudience.read m
      <*> requiredField ["flow_definition"] FlowGraph.read m
      <*> optionalField ["status"] .draft (readMember FlowStatus.ofValue?) m

/-! ### Requests -/

/-- A turn of a conversation; `kind` names the defect of a value that is no object. -/
def Turn.readAs (kind : DefectKind) : Json → Checked Turn :=
  readObject kind fun m =>
    Turn.mk <$> requiredField ["role"] readString m <*> requiredField ["content"] readString m

/-- The words of a request. -/
def readMessage : Json → Checked { s : String // s ≠ "" }
  | .string s => ofOrdinary (fun cs =>
    if h : String.ofList cs ≠ "" then .ok ⟨String.ofList cs, h⟩ else .fail .stringTooShort) s
  | _ => .fail .notString

/-- The conversation before a request. -/
def readHistory (kind : DefectKind) : Json → Checked (Option (List Turn))
  | .null => .ok none
  | j => some <$> readList (Turn.readAs kind) j

/-- A request for a flow; `kind` names the defect of a value that is no object. -/
def FlowRequest.readAs (kind : DefectKind) : Json → Checked FlowRequest :=
  readObject kind fun m =>
    (fun message history => ⟨message.val, history, message.property⟩)
      <$> requiredField ["message"] readMessage m
      <*> optionalField ["conversation_history"] none (readHistory kind) m

/-- The answer to a request. -/
def FlowResponse.read : Json → Checked FlowResponse :=
  readRecord fun m => FlowResponse.mk <$> requiredField ["response"] readString m

end FlowBuilder
