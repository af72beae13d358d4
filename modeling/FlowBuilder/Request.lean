import FlowBuilder.Plan.Prompt

/-!
# Requests

What a requester sends and is answered.
-/

namespace FlowBuilder

/-- An earlier turn of the conversation. -/
structure Turn where
  /-- Who spoke. -/
  role : String
  /-- What was said. -/
  content : String
  deriving DecidableEq, Repr

/-- A turn as an entry of the conversation before a request. -/
def Turn.entry (turn : Turn) : HistoryEntry where
  role := some turn.role
  content := some turn.content

/-- A request for a flow. -/
structure FlowRequest where
  /-- The request in the requester's words. -/
  message : String
  /-- The conversation before it. -/
  history : Option (List Turn)
  /-- The words are not missing. -/
  message_ne : message ≠ ""
  deriving DecidableEq

/-- The answer to a request. -/
structure FlowResponse where
  /-- The transcript of the build, or what took its place. -/
  response : String
  deriving DecidableEq, Repr

end FlowBuilder
