import FlowBuilder.Failure

/-!
# Text completion

One request to the model, and what its answer comes to: the text of the first block of content. A
request that the service rejects and an answer without content are failures; nothing is tried again.
-/

namespace FlowBuilder

/-- What the service answers to a request: the texts of the blocks of content, any of which may be
absent, or the wording of a rejection. -/
abbrev CompletionReply := Except String (List (Option String))

/-- How completions are requested. -/
structure CompletionSettings where
  /-- The key that is handed to the service. -/
  apiKey : Option String
  /-- The model. -/
  model : String
  /-- The length to which an answer is limited. -/
  maxTokens : Int
  deriving DecidableEq, Repr

namespace CompletionSettings

/-- The model that is asked if no other is named. -/
def defaultModel : String := "claude-sonnet-4-5-20250929"

/-- The limit of an answer if no other is given. -/
def defaultMaxTokens : Int := 4096

/-- Settings in which a missing key is the one of the environment. -/
def ofKeys (given environment : Option String) (model : String) (maxTokens : Int) :
    CompletionSettings where
  apiKey := given <|> environment
  model
  maxTokens

end CompletionSettings

/-- A request: the settings, and the prompt as its only message. -/
structure CompletionRequest where
  /-- The model. -/
  model : String
  /-- The length to which the answer is limited. -/
  maxTokens : Int
  /-- The prompt. -/
  prompt : String
  deriving DecidableEq, Repr

/-- The request for a prompt. -/
def CompletionSettings.request (settings : CompletionSettings) (prompt : String) :
    CompletionRequest :=
  ⟨settings.model, settings.maxTokens, prompt⟩

/-- The text of an answer, or why there is none. -/
def completionText : CompletionReply → Except (Failure String) (Option String)
  | .error detail => .error (.error detail)
  | .ok [] => .error (.error "empty response")
  | .ok (text :: _) => .ok text

end FlowBuilder
