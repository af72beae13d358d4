import FlowBuilder.Decimal.Layout

/-!
# Plans

A plan is what a request comes to: the type of the flow, what triggers it, and its emails in order.
The numbering of the emails is part of the type: they are numbered `1, 2, …` without a gap, and
there is at least one (`Plan.numbered`, `Plan.nonempty`).
-/

namespace FlowBuilder

/-- A natural number from one on. -/
abbrev Positive := { n : Nat // 0 < n }

/-- A place in a sequence of emails: a number from one on that can be written out. -/
abbrev Place := { n : Nat // 0 < n ∧ Decimal.Writable n }

namespace Place

/-- The first place. -/
def first : Place :=
  ⟨1, by decide⟩

/-- A number as a place; one that is none counts as the first. -/
def ofNat (n : Nat) : Place :=
  if h : 0 < n ∧ Decimal.Writable n then ⟨n, h⟩ else first

/-- A place in decimal digits. -/
def text (place : Place) : String :=
  Decimal.Numeral.text ⟨place.val, place.property.2⟩

/-- A place as a number from one on. -/
def toPositive (place : Place) : Positive :=
  ⟨place.val, place.property.1⟩

end Place

/-- The type of a flow. -/
inductive FlowType where
  /-- Greets new customers. -/
  | welcome
  /-- Reminds of a cart that was left. -/
  | abandonedCart
  /-- Wins inactive customers back. -/
  | winback
  /-- Keeps subscribers interested. -/
  | nurture
  /-- Follows a purchase up. -/
  | postPurchase
  deriving DecidableEq, Repr

/-- What starts a flow for a customer. -/
inductive TriggerType where
  /-- The customer enters a segment. -/
  | segmentAdded
  /-- The customer is given a tag. -/
  | tagAdded
  /-- A date is reached. -/
  | date
  /-- Somebody starts it by hand. -/
  | manual
  deriving DecidableEq, Repr

namespace FlowType

/-- The flow types in their order. -/
def all : List FlowType := [.welcome, .abandonedCart, .winback, .nurture, .postPurchase]

/-- The written value of a flow type. -/
def value : FlowType → String
  | .welcome => "welcome"
  | .abandonedCart => "abandoned_cart"
  | .winback => "winback"
  | .nurture => "nurture"
  | .postPurchase => "post_purchase"

/-- The flow type of a written value. -/
def ofValue? (s : String) : Option FlowType :=
  all.find? (·.value == s)

/-- The flow type as the words of a title. -/
def title : FlowType → String
  | .welcome => "Welcome"
  | .abandonedCart => "Abandoned Cart"
  | .winback => "Winback"
  | .nurture => "Nurture"
  | .postPurchase => "Post Purchase"

/-- A type is found again by its value. -/
@[simp]
theorem ofValue?_value (t : FlowType) : ofValue? t.value = some t := by
  cases t <;> decide

end FlowType

namespace TriggerType

/-- The trigger types in their order. -/
def all : List TriggerType := [.segmentAdded, .tagAdded, .date, .manual]

/-- The written value of a trigger type. -/
def value : TriggerType → String
  | .segmentAdded => "segment_added"
  | .tagAdded => "tag_added"
  | .date => "date"
  | .manual => "manual"

/-- The trigger type of a written value. -/
def ofValue? (s : String) : Option TriggerType :=
  all.find? (·.value == s)

@[simp]
theorem ofValue?_value (t : TriggerType) : ofValue? t.value = some t := by
  cases t <;> decide

end TriggerType

/-- One planned email. -/
structure EmailStep where
  /-- Its place in the sequence, from one on. -/
  sequence : Place
  /-- The days to wait after the email before it; the first email does not wait. -/
  delayDays : Decimal.Numeral
  /-- The subject that the plan proposes. -/
  subject : String
  /-- What the email is for. -/
  purpose : String
  /-- What it says. -/
  keyMessage : String
  /-- What it asks the reader to do. -/
  cta : String
  deriving DecidableEq, Repr

/-- A planned flow. -/
structure Plan where
  /-- The type of the flow. -/
  flowType : FlowType
  /-- The name of the flow. -/
  flowName : String
  /-- What the flow does. -/
  description : String
  /-- What starts it. -/
  triggerType : TriggerType
  /-- Who receives it. -/
  targetAudience : String
  /-- Its emails. -/
  emails : List EmailStep
  /-- The emails are numbered from one on, in order. -/
  numbered : emails.map (·.sequence.val) = List.range' 1 emails.length
  /-- There is an email. -/
  nonempty : emails ≠ []
  deriving DecidableEq

end FlowBuilder
