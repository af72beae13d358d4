import FlowBuilder.Plan.Basic

/-!
# Asking for an email

The prompt that asks the model to write one email of a plan.
-/

namespace FlowBuilder

/-- A token that stands for a property of the customer in an email. -/
def personalizationToken (name : String) : String :=
  "\x7b\x7b" ++ name ++ "\x7d\x7d"

/-- The prompt for one email of a plan. -/
def contentPrompt (plan : Plan) (step : EmailStep) : String :=
  "Write email " ++ step.sequence.text ++ " of " ++ toString plan.emails.length ++
    " for a " ++ plan.flowType.value ++ " flow.\n\n" ++
  "Context:\n" ++
  "- Flow: " ++ plan.flowName ++ "\n" ++
  "- Email purpose: " ++ step.purpose ++ "\n" ++
  "- Key message: " ++ step.keyMessage ++ "\n" ++
  "- Call to action: " ++ step.cta ++ "\n" ++
  "- Target: " ++ plan.targetAudience ++ "\n\n" ++
  "Requirements:\n" ++
  "1. Subject line: " ++
    (if step.subject = "" then "Create an engaging subject line" else step.subject) ++ "\n" ++
  "2. Email body with:\n" ++
  "   - Personalized greeting: \"Hi " ++ personalizationToken "firstName" ++ ",\"\n" ++
  "   - " ++ step.keyMessage ++ "\n" ++
  "   - Clear CTA: " ++ step.cta ++ "\n" ++
  "   - Professional signature\n" ++
  "3. Use HTML with inline styles for email compatibility\n" ++
  "4. Include personalization variables: " ++ personalizationToken "firstName" ++ ", " ++
    personalizationToken "totalSpent" ++ "\n\n" ++
  "Format:\n" ++
  "SUBJECT: [subject line]\n\n" ++
  "BODY:\n" ++
  "[Complete HTML email with inline CSS]"

end FlowBuilder
