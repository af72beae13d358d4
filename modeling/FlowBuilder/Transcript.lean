import FlowBuilder.FlowRecord
import FlowBuilder.Graph.Assembly

/-!
# Transcripts

The account of a build that its requester reads. Each stage of a build adds some lines; a build that
stops adds a notice of it. The functions here give the lines of one stage each.
-/

namespace FlowBuilder.Transcript

/-- What is told where a build stops. -/
def failureNotice : String :=
  "❌ An error occurred while building the flow. Please try again."

/-- A text between double quotes. -/
def inQuotes (s : String) : String :=
  "\"" ++ s ++ "\""

/-- The opening of a build. -/
def header (plan : Plan) : List String :=
  ["🔄 **Building " ++ plan.flowType.value ++ " Flow**",
    "Flow: " ++ inQuotes plan.flowName,
    "Emails: " ++ toString plan.emails.length ++ " in sequence",
    ""]

/-- The trigger is being set up. -/
def triggerStarted : List String :=
  ["🎯 **Step 1: Setting Up Trigger**"]

/-- The trigger is set up. -/
def audienceResolved (rule : AudienceRule) (audience : TriggerAudience) : List String :=
  match audience.segmentId with
  | none => ["✓ Trigger: Manual activation", ""]
  | some _ =>
    ["✓ Trigger: " ++ rule.triggerLabel,
      "✓ Created segment: " ++ inQuotes audience.segmentName,
      ""]

/-- The emails are being written. -/
def contentStarted : List String :=
  ["✍️ **Step 2: Writing Email Sequence**"]

/-- An email is written and stored. -/
def emailScheduled (step : WrittenStep) : List String :=
  ("✓ Email " ++ step.sequence.text ++ ": " ++ inQuotes step.subject) ::
    if 1 < step.sequence.val ∧ 0 < step.delayDays.val then
      ["  → Send " ++ daysText step.delayDays ++ " after previous email"]
    else []

/-- All emails are written. -/
def contentFinished : List String :=
  [""]

/-- The graph is assembled. -/
def assembled (graph : FlowGraph) : List String :=
  ["🔧 **Step 3: Assembling Flow**",
    "✓ Created " ++ toString graph.nodes.length ++ " nodes (" ++
      toString (graph.countKind .trigger) ++ " trigger, " ++
      toString (graph.countKind .email) ++ " emails, " ++
      toString (graph.countKind .delay) ++ " delays)",
    "✓ Connected " ++ toString graph.edges.length ++ " steps",
    ""]

/-- The flow is being stored. -/
def savingStarted : List String :=
  ["💾 **Step 4: Saving Flow**"]

/-- The flow is stored. -/
def saved (flow : FlowRecord) : List String :=
  ["✓ Flow created: " ++ inQuotes flow.name,
    "✓ Status: " ++ flow.status.title ++ " (ready for review)",
    ""]

/-- The line of an email in the closing summary; `first` says that it opens the sequence. -/
def summaryLine (first : Bool) (step : WrittenStep) : String :=
  if first then "• Email 1: " ++ inQuotes step.subject ++ " (immediately)"
  else
    "• Email " ++ step.sequence.text ++ ": " ++ inQuotes step.subject ++
      if 0 < step.delayDays.val then " (" ++ daysText step.delayDays ++ " later)"
      else " (right after the previous email)"

/-- The lines of the emails in the closing summary. -/
def summaryLines : List WrittenStep → List String
  | [] => []
  | step :: r => summaryLine true step :: r.map (summaryLine false)

/-- The last line of a finished build. -/
def closingTip : String :=
  "💡 *Tip: You can edit email templates and timing in the flow editor*"

/-- The closing summary. -/
def summary (plan : Plan) (steps : List WrittenStep) (audience : TriggerAudience) :
    List String :=
  ["✅ **Flow Complete!**", "", "**📧 Email Sequence:**"] ++
  summaryLines steps ++
  ["", "**🎯 Trigger:**",
    if plan.triggerType = .segmentAdded then "• Type: When customer added to segment"
    else "• Type: Manual",
    "• Segment: " ++ inQuotes audience.segmentName,
    "",
    "**Next Steps:**",
    "1. Visit /flows to review the flow",
    "2. Click \"Edit\" to see the visual flow builder",
    "3. Activate the flow when ready",
    "",
    closingTip]

/-- A build has stopped. -/
def failed (notice : String) : List String :=
  ["", notice]

/-- The lines as one text. -/
def render (lines : List String) : String :=
  "\n".intercalate lines

end FlowBuilder.Transcript
