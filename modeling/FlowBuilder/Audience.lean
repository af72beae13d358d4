import FlowBuilder.Plan.Basic

/-!
# Audiences

Which customers a flow is for. A flow that starts when a customer enters a segment has a fixed rule
for its type; every other flow is started by hand, for nobody in particular.
-/

namespace FlowBuilder

/-- How a condition compares a customer's attribute with its value. -/
inductive Comparison where
  /-- Equal. -/
  | eq
  /-- At most. -/
  | le
  /-- At least. -/
  | ge
  /-- Less. -/
  | lt
  /-- Greater. -/
  | gt
  deriving DecidableEq, Repr

namespace Comparison

/-- The comparisons in their order. -/
def all : List Comparison := [.eq, .le, .ge, .lt, .gt]

/-- The written form of a comparison. -/
def value : Comparison → String
  | .eq => "="
  | .le => "<="
  | .ge => ">="
  | .lt => "<"
  | .gt => ">"

/-- The comparison of a written form. -/
def ofValue? (s : String) : Option Comparison :=
  all.find? (·.value == s)

/-- A comparison is found again by its value. -/
@[simp]
theorem ofValue?_value (c : Comparison) : ofValue? c.value = some c := by
  cases c <;> decide

end Comparison

/-- The value with which a condition compares. -/
inductive ConditionValue where
  /-- A truth value. -/
  | bool (b : Bool)
  /-- A whole number. -/
  | int (n : Int)
  /-- A floating-point number. -/
  | float (x : Float)

/-- One term over a customer's attribute. -/
structure Condition where
  /-- The attribute. -/
  field : String
  /-- The comparison. -/
  operator : Comparison
  /-- The value. -/
  value : ConditionValue

/-- The audience of a flow: the customers who meet all conditions. -/
structure AudienceRule where
  /-- The conditions. -/
  conditions : List Condition := []
  /-- Why this audience. -/
  rationale : String := ""
  /-- The audience as the transcript names it. -/
  triggerLabel : String := ""

/-- The name of the trigger of a flow that is started by hand. -/
def manualTriggerLabel : String := "Manual Trigger"

/-- The audience to which a flow refers: a stored segment, or none for a flow that is started by
hand. -/
structure TriggerAudience where
  /-- The id of the segment. -/
  segmentId : Option String := none
  /-- The name of the segment. -/
  segmentName : String := manualTriggerLabel
  /-- The conditions of the segment. -/
  conditions : List Condition := []

namespace AudienceRule

/-- Whether the rule is stored as a segment: it has conditions. -/
def requiresSegment (rule : AudienceRule) : Bool :=
  !rule.conditions.isEmpty

/-- Everybody who subscribed to email. -/
def emailSubscribers : AudienceRule where
  conditions := [⟨"emailOptIn", .eq, .bool true⟩]
  rationale := "email subscribers"
  triggerLabel := "Email subscribers"

/-- The audience of a type of flow. -/
def ofFlowType : FlowType → AudienceRule
  | .welcome => {
      conditions := [⟨"emailOptIn", .eq, .bool true⟩, ⟨"totalOrders", .le, .int 1⟩]
      rationale := "new customers, subscribers"
      triggerLabel := "New customers (1 or fewer orders, email subscribers)" }
  | .winback => {
      conditions := [⟨"daysSinceLastOrder", .ge, .int 90⟩, ⟨"totalOrders", .ge, .int 3⟩,
        ⟨"emailOptIn", .eq, .bool true⟩]
      rationale := "inactive repeat customers"
      triggerLabel := "Inactive customers (90+ days, 3+ orders)" }
  | .postPurchase => {
      conditions := [⟨"daysSinceLastOrder", .le, .int 7⟩, ⟨"emailOptIn", .eq, .bool true⟩]
      rationale := "recent purchasers"
      triggerLabel := "Recent purchasers (within 7 days)" }
  | .abandonedCart => emailSubscribers
  | .nurture => emailSubscribers

/-- The audience of a flow that is started by hand. -/
def manual : AudienceRule where
  rationale := manualTriggerLabel
  triggerLabel := "Manual activation"

/-- The audience of a flow. -/
def resolve (flowType : FlowType) : TriggerType → AudienceRule
  | .segmentAdded => ofFlowType flowType
  | _ => manual

end AudienceRule

/-- The name of the segment of a flow. -/
def segmentName (flowName : String) : String :=
  flowName ++ " - Target Audience"

/-- The description of the segment of a flow. -/
def segmentDescription (flowName : String) : String :=
  "Auto-generated segment for " ++ flowName

end FlowBuilder
