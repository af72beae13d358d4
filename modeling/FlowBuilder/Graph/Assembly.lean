import FlowBuilder.Failure
import FlowBuilder.Graph.Basic
import FlowBuilder.Text.Quoted

/-!
# Assembling a flow graph

The graph of a plan is one chain: the trigger, then for each email in the order of its sequence
number a delay, if it has to wait, and the email itself. The first email never waits. Ids count the
emails by their position in the chain, so that they are distinct within a graph.

The chain grows at its end. A `GraphDraft` keeps the id of its last node at hand; each node that is
appended is joined to that one.
-/

namespace FlowBuilder

/-- An email that has been written and stored. -/
structure WrittenStep where
  /-- Its place in the sequence. -/
  sequence : Place
  /-- The days to wait after the email before it. -/
  delayDays : Decimal.Numeral
  /-- Its subject. -/
  subject : String
  /-- The id of its stored template. -/
  templateId : String
  deriving DecidableEq, Repr

/-- The id of the trigger. -/
def triggerId : String := "trigger-1"

/-- The id of the delay before the email at a position. -/
def delayId (position : Nat) : String :=
  "delay-" ++ toString position

/-- The id of the email at a position. -/
def emailId (position : Nat) : String :=
  "email-" ++ toString position

/-- The edge from one node to another. -/
def Edge.between (source target : String) : Edge :=
  ⟨"edge-" ++ source ++ "-" ++ target, source, target⟩

/-- The column in which all nodes stand. -/
def columnX : Float := 250

/-- The place of the trigger. -/
def triggerPosition : Position := ⟨columnX, 50⟩

/-- The place of the `i`-th node below the trigger, counted from zero. -/
def stepPosition (i : Nat) : Position :=
  ⟨columnX, Float.ofNat (200 + 150 * i)⟩

/-- A node before it has a place: its id and its data. -/
abbrev Unplaced := String × NodeData

/-- The delay before the email at a position, if it waits: it is not the first, and its days are not
none. -/
def delayPart? (position : Nat) (step : WrittenStep) : Option Unplaced :=
  if h : 1 < position ∧ 0 < step.delayDays.val then
    some (delayId position, .delay {
      name := "Wait " ++ daysText step.delayDays
      delayDays := ⟨step.delayDays.val, h.2⟩ })
  else none

/-- The email at a position. -/
def emailPart (position : Nat) (step : WrittenStep) : Unplaced :=
  (emailId position, .email {
    name := "Email " ++ step.sequence.text
    templateId := step.templateId
    subject := step.subject
    sequence := step.sequence.toPositive })

/-- A chain that is being assembled. -/
structure GraphDraft where
  /-- The nodes so far. -/
  nodes : List Node
  /-- The edges so far. -/
  edges : List Edge
  /-- The id of the last node. -/
  cursor : String
  /-- How many nodes stand below the trigger. -/
  placed : Nat

namespace GraphDraft

/-- The draft of a trigger alone. -/
def start (trigger : Node) : GraphDraft where
  nodes := [trigger]
  edges := []
  cursor := trigger.id
  placed := 0

/-- A draft with one more node at its end. -/
def append (d : GraphDraft) : Unplaced → GraphDraft
  | (id, data) => {
      nodes := d.nodes ++ [⟨id, data.kind, data, stepPosition d.placed⟩]
      edges := d.edges ++ [.between d.cursor id]
      cursor := id
      placed := d.placed + 1 }

/-- A draft with one more email, which stands at the given position, and its delay. -/
def addEmail (d : GraphDraft) (position : Nat) (step : WrittenStep) : GraphDraft :=
  let waited := match delayPart? position step with
    | some delay => d.append delay
    | none => d
  waited.append (emailPart position step)

/-- A draft with more emails, the first of which stands at the given position. -/
def addEmails (d : GraphDraft) (position : Nat) : List WrittenStep → GraphDraft
  | [] => d
  | step :: r => (d.addEmail position step).addEmails (position + 1) r

end GraphDraft

/-- Emails in the order of their sequence numbers; those with one number in the given order. -/
def inSequence (steps : List WrittenStep) : List WrittenStep :=
  steps.mergeSort fun a b => a.sequence.val ≤ b.sequence.val

/-- The trigger of a flow. -/
def triggerNode (triggerType : TriggerType) (audience : TriggerAudience) : Node where
  id := triggerId
  kind := .trigger
  data := .trigger {
    triggerType
    segmentId := audience.segmentId
    segmentName := audience.segmentName
    conditions := audience.conditions }
  position := triggerPosition

/-- The graph of a plan for the given audience and written emails. -/
def assemble (plan : Plan) (audience : TriggerAudience) (steps : List WrittenStep) :
    Except BuildError FlowGraph :=
  if steps.isEmpty then .error (.emptyPlan (Text.quotedString plan.flowName))
  else
    let trigger := triggerNode plan.triggerType audience
    let draft := (GraphDraft.start trigger).addEmails 1 (inSequence steps)
    .ok ⟨draft.nodes, draft.edges⟩

end FlowBuilder
