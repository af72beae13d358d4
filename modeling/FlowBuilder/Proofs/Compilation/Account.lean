import FlowBuilder.Proofs.Compilation.History

/-!
# Accounts of requests

All that a request can come to. It is over where the model cannot be asked for a plan and where its
reply holds none; otherwise the answer tells of the build of the plan.

* `compile_account`: every request has an account, `Account`, and its exchanges are all that happens
  to the world.
-/

namespace FlowBuilder

/-- The answer to the requester of a build with the given result and lines. -/
def buildAnswer (lines : List String) : Except (Failure BuildError) Unit → Except Fault String
  | .ok () => .ok (Transcript.render lines)
  | .error (.error _) =>
    .ok (Transcript.render (lines ++ Transcript.failed Transcript.failureNotice))
  | .error (.fault f) => .error f

/-- What a request can come to: what the model replies to the plan prompt, the answer to the
requester, and the exchanges. -/
inductive Account (limits : DepthLimits) (message owner : String) (history : List HistoryEntry) :
    Except (Failure String) (Option String) → Except Fault String → List Exchange → Prop
  /-- The model rejects the plan prompt. -/
  | refused (detail : String) :
      Account limits message owner history (.error (.error detail)) (.ok apologyMessage)
        [.generated (planPrompt message history) (.error (.error detail))]
  /-- Something unexpected happens to the plan prompt. -/
  | lost (f : Fault) :
      Account limits message owner history (.error (.fault f)) (.error f)
        [.generated (planPrompt message history) (.error (.fault f))]
  /-- The reply holds no plan. -/
  | planless (text : Option String) (defect : PlanDefect)
      (hplan : Plan.ofReply limits text = .error (.error defect)) :
      Account limits message owner history (.ok text) (.ok guidanceMessage)
        [.generated (planPrompt message history) (.ok text)]
  /-- The reply cannot be read. -/
  | unreadable (text : Option String) (f : Fault)
      (hplan : Plan.ofReply limits text = .error (.fault f)) :
      Account limits message owner history (.ok text) (.error f)
        [.generated (planPrompt message history) (.ok text)]
  /-- The reply holds a plan, whose flow is built. -/
  | built (text : Option String) (plan : Plan) (hplan : Plan.ofReply limits text = .ok plan)
      {r : Except (Failure BuildError) Unit} {exchanges : List Exchange} {lines : List String}
      (hhistory : Build.History plan message owner r exchanges lines) :
      Account limits message owner history (.ok text) (buildAnswer lines r)
        (.generated (planPrompt message history) (.ok text) :: exchanges)

variable {limits : DepthLimits} {σ : Type} (services : Collaborators σ)

/-- The build of a plan has a history, after which its answer is given. -/
theorem buildTranscript_history (plan : Plan) (message owner : String) (start : Progress σ)
    (hlines : start.lines = []) :
    ∃ r exchanges lines, Build.History plan message owner r exchanges lines ∧
      services.Answers start.world exchanges
        (buildTranscript services plan message owner start).world ∧
      (buildTranscript services plan message owner start).exchanges =
        start.exchanges ++ exchanges ∧
      (buildTranscript services plan message owner start).answer = buildAnswer lines r := by
  have hmeets : Build.Meets services _ _ := Build.meets_buildFlow plan message owner
  obtain ⟨exchanges, lines, hexchanges, hadded, hanswers, hhistory⟩ := hmeets start
  -- the transcript starts with the build, so that its lines are those of the build
  rw [hlines, List.nil_append] at hadded
  refine ⟨_, exchanges, lines, hhistory, ?_⟩
  rw [← hadded, buildTranscript]
  rcases hrun : (Build.buildFlow services plan message owner).run.run start with
    ⟨(_ | _) | _, p⟩ <;> rw [hrun] at hexchanges hanswers <;> exact ⟨hanswers, hexchanges, rfl⟩

/-- Every request has an account, and its exchanges are what the services answered on the way from
the world before it to the world after it. -/
theorem compile_account (message owner : String) (history : List HistoryEntry) (world : σ) :
    services.Answers world (compile limits services message owner history world).exchanges
        (compile limits services message owner history world).world ∧
      Account limits message owner history (services.generate (planPrompt message history) world).1
        (compile limits services message owner history world).answer
        (compile limits services message owner history world).exchanges := by
  -- the first exchange, and whatever comes after it
  have hfirst : ∀ {rest : List Exchange} {after : σ},
      services.Answers (services.generate (planPrompt message history) world).2 rest after →
        services.Answers world (.generated (planPrompt message history)
          (services.generate (planPrompt message history) world).1 :: rest) after := .generated
  rw [compile]
  rcases hasked : services.generate (planPrompt message history) world with ⟨reply, after⟩
  rw [hasked] at hfirst
  simp only
  match reply with
  | .error (.error detail) => exact ⟨hfirst (.nil after), .refused detail⟩
  | .error (.fault f) => exact ⟨hfirst (.nil after), .lost f⟩
  | .ok text =>
    simp only
    match hplan : Plan.ofReply limits text with
    | .error (.error defect) => exact ⟨hfirst (.nil after), .planless text defect hplan⟩
    | .error (.fault f) => exact ⟨hfirst (.nil after), .unreadable text f hplan⟩
    | .ok plan =>
      -- the exchange with the plan prompt stands before those of the build
      obtain ⟨r, exchanges, lines, hhistory, hanswers, hexchanges, hanswer⟩ :=
        buildTranscript_history services plan message owner
          { world := after, exchanges := [.generated (planPrompt message history) (.ok text)] } rfl
      simp only [hexchanges, hanswer]
      exact ⟨hfirst hanswers, .built text plan hplan hhistory⟩

/-! ### Services that never fail -/

/-- The model gives one reply to every prompt, and the store numbers what it keeps. -/
def Collaborators.reciting (reply : String) : Collaborators Nat where
  generate _ kept := (.ok (some reply), kept)
  create _ kept := (.ok ("id-" ++ toString (kept + 1)), kept + 1)

/-- A reply that holds a plan. -/
def greetingReply : String :=
  "\x7b\"triggerType\": \"segment_added\", \"emails\": [\x7b\"subject\": \"Hello\"\x7d]\x7d"

/-- A request to which the model replies with that plan. -/
def greetingRun : Outcome Nat :=
  compile .standard (.reciting greetingReply) "Greet new customers" "ada" [] 0

/-- The request for greetings is answered. -/
theorem exists_answer_greetingRun : ∃ text, greetingRun.answer = .ok text := by
  have hsome : greetingRun.answer.toOption.isSome := by
    decide +kernel
  exact exists_eq_ok_of_isSome hsome

/-- A flow is kept for it. -/
theorem exists_flow_greetingRun : ∃ caller record id,
    .created (.flow caller record) (.ok id) ∈ greetingRun.exchanges := by
  have hany : greetingRun.exchanges.any fun
      | .created (.flow _ _) (.ok _) => true
      | _ => false := by
    decide +kernel
  obtain ⟨e, hmem, he⟩ := List.any_eq_true.1 hany
  match e, he with
  | .created (.flow caller record) (.ok id), _ => exact ⟨caller, record, id, hmem⟩

end FlowBuilder
