import FlowBuilder.Text.Slot

/-!
# Asking for a plan

The prompt that asks the model for a plan: the request, the conversation before it, and the form of
the answer.
-/

namespace FlowBuilder

/-- An entry of the conversation before a request. It may leave out what a turn states. -/
structure HistoryEntry where
  /-- Who spoke. -/
  role : Option String := none
  /-- What was said. -/
  content : Option String := none
  deriving DecidableEq, Repr

/-- The slot of the request. -/
def messageSlot : String := "\x7bmessage\x7d"

/-- The slot of the conversation. -/
def historySlot : String := "\x7bhistory\x7d"

/-- The prompt with its slots. -/
def planTemplate : String :=
  "You are a flow automation specialist. " ++
  "Analyze this request and determine what type of email flow to build:\n\n" ++
  "\"" ++ messageSlot ++ "\"\n" ++
  historySlot ++ "\n" ++
  "Identify:\n" ++
  "1. Flow type (welcome series, abandoned cart, win-back, nurture, post-purchase)\n" ++
  "2. Number of emails in the sequence\n" ++
  "3. Timing between emails (delays)\n" ++
  "4. Target audience/trigger\n" ++
  "5. Key messages for each email\n\n" ++
  "Respond in JSON format:\n" ++
  "\x7b\n" ++
  "  \"flowType\": \"welcome|abandoned_cart|winback|nurture|post_purchase\",\n" ++
  "  \"flowName\": \"descriptive name\",\n" ++
  "  \"description\": \"what this flow does\",\n" ++
  "  \"triggerType\": \"segment_added|tag_added|date|manual\",\n" ++
  "  \"targetAudience\": \"who should receive this\",\n" ++
  "  \"emails\": [\n" ++
  "    \x7b\n" ++
  "      \"sequence\": 1,\n" ++
  "      \"delayDays\": 0,\n" ++
  "      \"subject\": \"email subject\",\n" ++
  "      \"purpose\": \"what this email accomplishes\",\n" ++
  "      \"keyMessage\": \"main message\",\n" ++
  "      \"cta\": \"call to action\"\n" ++
  "    \x7d\n" ++
  "  ]\n" ++
  "\x7d\n"

/-- An entry as one line. Words of no one are taken for the user's. -/
def HistoryEntry.line (entry : HistoryEntry) : String :=
  entry.role.getD "user" ++ ": " ++ entry.content.getD ""

/-- The conversation as it is quoted in the prompt; nothing if there was none. -/
def historyBlock : List HistoryEntry → String
  | [] => ""
  | entries =>
    "\nEarlier conversation:\n" ++ "\n".intercalate (entries.map HistoryEntry.line) ++ "\n"

/-- The prompt for a request. The slot of the request is filled first, that of the conversation
then, wherever it stands. -/
def planPrompt (message : String) (history : List HistoryEntry) : String :=
  String.ofList
    (Text.fill historySlot (historyBlock history)
      (Text.fill messageSlot message planTemplate.toList))

end FlowBuilder
