import FlowBuilder.Proofs.Compilation.Account

/-!
# The order of calls

The calls of a request follow a script. `buildScript` is the script of a plan: the segment, if a
segment triggers the flow, then for each email the prompt for its content and its template, then the
flow. A request whose first reply holds a plan makes the calls of the plan prompt and of that
script, one by one, and ends with the first call that fails (`Follows`); any other request makes one
call.

* `Build.History.exists_failure`: what stops a build is the failure of one of its calls.
* `calls_follow_script`: every request keeps to this order.
-/

namespace FlowBuilder

/-- A call of a service, without the answer. -/
inductive Call where
  /-- A prompt to the model. -/
  | generate (prompt : String)
  /-- Something to keep. -/
  | create (call : StoreCall)

namespace Exchange

/-- The call of an exchange. -/
def call : Exchange → Call
  | .generated prompt _ => .generate prompt
  | .created call _ => .create call

/-- Whether the call of an exchange gave a value. -/
def succeeded : Exchange → Bool
  | .generated _ (.ok _) => true
  | .created _ (.ok _) => true
  | _ => false

/-- The failure of the call of an exchange, if it gave no value. -/
def failure? : Exchange → Option (Failure String)
  | .generated _ (.error e) => some e
  | .created _ (.error e) => some e
  | _ => none

/-- A call with a failure gave no value. -/
theorem succeeded_eq_false_of_failure? {e : Exchange} {g : Failure String}
    (h : e.failure? = some g) : e.succeeded = false := by
  match e, h with
  | .generated _ (.error _), _ => rfl
  | .created _ (.error _), _ => rfl

end Exchange

/-- The exchanges of the build of a plan in which every call gives a value: the kept segment has the
id `segmentId`, the emails are the drafts, and the kept flow has the id `flowId`. -/
def buildScript (plan : Plan) (message owner segmentId : String) (drafts : List Draft)
    (flowId : String) : List Exchange :=
  segmentExchanges plan message owner segmentId ++ drafts.flatMap (·.exchanges plan owner) ++
    [.created (.flow owner (plan.record segmentId drafts)) (.ok flowId)]

/-- A run follows a script of calls that all give a value, up to the first one that fails. -/
structure Follows (run script : List Exchange) : Prop where
  /-- The calls are the first calls of the script. -/
  calls_prefix : run.map Exchange.call <+: script.map Exchange.call
  /-- The answers before the last one are those of the script. -/
  answers_prefix : run.dropLast <+: script
  /-- Where no call fails, the run is the whole script. -/
  eq_of_succeeded : (∀ e ∈ run, e.succeeded) → run = script
  /-- After a call that fails there is none. -/
  nil_of_failed : ∀ before e after, run = before ++ e :: after → e.succeeded = false → after = []

/-- The run is the script up to a call that fails. -/
def BreaksOff (run script : List Exchange) : Prop :=
  ∃ done failing answered rest, run = done ++ [failing] ∧ script = done ++ answered :: rest ∧
    failing.call = answered.call ∧ failing.succeeded = false

/-- A run breaks off wherever it starts. -/
theorem BreaksOff.append {run script : List Exchange} (h : BreaksOff run script)
    (before : List Exchange) : BreaksOff (before ++ run) (before ++ script) := by
  obtain ⟨done, failing, answered, rest, rfl, rfl, hcall, hfailed⟩ := h
  exact ⟨before ++ done, failing, answered, rest, by simp, by simp, hcall, hfailed⟩

/-- What comes later in the script does not matter to a run that breaks off. -/
theorem BreaksOff.append_right {run script : List Exchange} (h : BreaksOff run script)
    (later : List Exchange) : BreaksOff run (script ++ later) := by
  obtain ⟨done, failing, answered, rest, rfl, rfl, hcall, hfailed⟩ := h
  exact ⟨done, failing, answered, rest ++ later, rfl, by simp, hcall, hfailed⟩

/-- A prompt that fails breaks off. -/
theorem breaksOff_generated (prompt : String) (e : Failure String) (reply : Option String) :
    BreaksOff [.generated prompt (.error e)] [.generated prompt (.ok reply)] :=
  ⟨[], .generated prompt (.error e), .generated prompt (.ok reply), [], rfl, rfl, rfl, rfl⟩

/-- Something that is not kept breaks off. -/
theorem breaksOff_created (call : StoreCall) (e : Failure String) (id : String) :
    BreaksOff [.created call (.error e)] [.created call (.ok id)] :=
  ⟨[], .created call (.error e), .created call (.ok id), [], rfl, rfl, rfl, rfl⟩

/-- The whole of a script of calls that give a value follows it. -/
theorem Follows.refl {script : List Exchange} (hscript : ∀ e ∈ script, e.succeeded) :
    Follows script script where
  calls_prefix := List.prefix_rfl
  answers_prefix := List.dropLast_prefix script
  eq_of_succeeded _ := rfl
  nil_of_failed := by
    rintro before e after rfl hfailed
    have hsucceeded := hscript e (by simp)
    rw [hfailed] at hsucceeded
    cases hsucceeded

/-- A run that breaks off follows its script. -/
theorem Follows.of_breaksOff {run script : List Exchange} (hscript : ∀ e ∈ script, e.succeeded)
    (h : BreaksOff run script) : Follows run script := by
  obtain ⟨done, failing, answered, rest, rfl, rfl, hcall, hfailed⟩ := h
  refine ⟨?_, ?_, ?_, ?_⟩
  · refine ⟨rest.map Exchange.call, ?_⟩
    simp [hcall]
  · rw [List.dropLast_concat]
    exact List.prefix_append done _
  · -- some call failed
    intro hall
    have hsucceeded := hall failing (by simp)
    rw [hfailed] at hsucceeded
    cases hsucceeded
  · intro before e after heq he
    -- what comes before the last call succeeded, so that `e` is the last
    rcases List.eq_nil_or_concat after with rfl | ⟨front, last, rfl⟩
    · rfl
    · exfalso
      have hdone : done = before ++ e :: front := by
        have hsnoc : done ++ [failing] = (before ++ e :: front) ++ [last] := by simpa using heq
        exact (List.append_inj' hsnoc rfl).1
      have hsucceeded := hscript e (by simp [hdone])
      rw [he] at hsucceeded
      cases hsucceeded

/-! ### Builds -/

/-- In the script, the segment is kept. -/
theorem succeeded_of_mem_segmentExchanges {plan : Plan} {message owner segmentId : String}
    {e : Exchange} (h : e ∈ segmentExchanges plan message owner segmentId) : e.succeeded := by
  unfold segmentExchanges at h
  split at h
  · obtain rfl := List.mem_singleton.1 h
    rfl
  · cases h

/-- In the script, each email is written and its template kept. -/
theorem succeeded_of_mem_exchanges {plan : Plan} {owner : String} {draft : Draft} {e : Exchange}
    (h : e ∈ draft.exchanges plan owner) : e.succeeded := by
  rw [Draft.exchanges, List.mem_pair] at h
  rcases h with rfl | rfl <;> rfl

/-- Every call of a script gives a value. -/
theorem succeeded_of_mem_buildScript {plan : Plan} {message owner segmentId flowId : String}
    {drafts : List Draft} {e : Exchange}
    (h : e ∈ buildScript plan message owner segmentId drafts flowId) : e.succeeded := by
  rw [buildScript, List.mem_append, List.mem_append, List.mem_singleton, List.mem_flatMap] at h
  rcases h with (h | ⟨draft, -, h⟩) | rfl
  · exact succeeded_of_mem_segmentExchanges h
  · exact succeeded_of_mem_exchanges h
  · rfl

/-- A draft that stands for an email that is not written yet. -/
def Draft.blank (step : EmailStep) : Draft :=
  ⟨step, none, ""⟩

/-- The blank drafts of some steps are for these steps. -/
theorem map_step_blank (steps : List EmailStep) :
    (steps.map Draft.blank).map (·.step) = steps := by
  rw [List.map_map]
  exact List.map_id steps

namespace Build

/-- What stops an attempt at an email is the failure of one of its calls. -/
theorem Attempt.exists_failure {plan : Plan} {owner : String} {step : EmailStep}
    {attempt : List Exchange} {f : Failure BuildError} (h : Attempt plan owner step attempt f) :
    ∃ e ∈ attempt, ∃ collaborator g, e.failure? = some g ∧ f = callFailure collaborator g := by
  cases h with
  | unwritten e => exact ⟨_, List.mem_singleton_self _, .textCompletion, e, rfl, rfl⟩
  | unkept reply e => exact ⟨_, List.mem_pair.2 (Or.inr rfl), .store, e, rfl, rfl⟩

/-- What stops a build is the failure of one of its calls, and neither its plan nor its graph. -/
theorem History.exists_failure {plan : Plan} {message owner : String} {f : Failure BuildError}
    {r : Except (Failure BuildError) Unit} {exchanges : List Exchange} {lines : List String}
    (h : History plan message owner r exchanges lines) (hr : r = .error f) :
    ∃ e ∈ exchanges, ∃ collaborator g, e.failure? = some g ∧ f = callFailure collaborator g := by
  cases h with
  | withoutSegment e _ =>
    obtain rfl := Except.error.inj hr
    exact ⟨_, List.mem_singleton_self _, .store, e, rfl, rfl⟩
  | withoutEmail segmentId drafts step rest attempt g _ hattempt =>
    -- the calls before the attempt did not fail
    obtain rfl := Except.error.inj hr
    obtain ⟨e, hmem, hfailure⟩ := hattempt.exists_failure
    exact ⟨e, List.mem_append_right _ hmem, hfailure⟩
  | withoutFlow segmentId drafts e _ =>
    obtain rfl := Except.error.inj hr
    exact ⟨_, List.mem_append_right _ (List.mem_singleton_self _), .store, e, rfl, rfl⟩
  | finished segmentId drafts flowId _ => cases hr

/-- An attempt at an email breaks off the exchanges of some draft of it. -/
theorem Attempt.breaksOff {plan : Plan} {owner : String} {step : EmailStep}
    {attempt : List Exchange} {f : Failure BuildError} (h : Attempt plan owner step attempt f) :
    ∃ draft : Draft, draft.step = step ∧ BreaksOff attempt (draft.exchanges plan owner) := by
  cases h with
  | unwritten e =>
    refine ⟨Draft.blank step, rfl, ?_⟩
    exact (breaksOff_generated _ e none).append_right
      [.created (templateCall plan owner step (Draft.blank step).content) (.ok "")]
  | unkept reply e =>
    refine ⟨⟨step, reply, ""⟩, rfl, ?_⟩
    exact (breaksOff_created _ e "").append [.generated (contentPrompt plan step) (.ok reply)]

/-- A build is its script, or breaks it off. -/
theorem History.eq_or_breaksOff {plan : Plan} {message owner : String}
    {r : Except (Failure BuildError) Unit} {exchanges : List Exchange} {lines : List String}
    (h : History plan message owner r exchanges lines) :
    ∃ segmentId drafts flowId, plan.emails = drafts.map (·.step) ∧
      (exchanges = buildScript plan message owner segmentId drafts flowId ∨
        BreaksOff exchanges (buildScript plan message owner segmentId drafts flowId)) := by
  cases h with
  | withoutSegment e htrigger =>
    -- any ids and drafts will do for the calls that were not made
    refine ⟨"", plan.emails.map Draft.blank, "", (map_step_blank plan.emails).symm, Or.inr ?_⟩
    have hsegment : segmentExchanges plan message owner "" =
        [.created (segmentCall plan message owner) (.ok "")] := if_pos htrigger
    rw [buildScript, hsegment, List.append_assoc]
    exact (breaksOff_created _ e "").append_right _
  | withoutEmail segmentId drafts step rest attempt f hsteps hattempt =>
    obtain ⟨draft, rfl, hbreaks⟩ := hattempt.breaksOff
    -- the drafts so far, the one that was attempted, and blank ones for the emails after it
    refine ⟨segmentId, drafts ++ draft :: rest.map Draft.blank, "", ?_, Or.inr ?_⟩
    · rw [hsteps, List.map_append, List.map_cons, map_step_blank]
    · rw [buildScript, List.flatMap_append, List.flatMap_cons]
      have hlater := (hbreaks.append_right
        ((rest.map Draft.blank).flatMap (·.exchanges plan owner) ++
          [.created (.flow owner (plan.record segmentId (drafts ++ draft :: rest.map Draft.blank)))
            (.ok "")])).append
        (segmentExchanges plan message owner segmentId ++ drafts.flatMap (·.exchanges plan owner))
      simpa using hlater
  | withoutFlow segmentId drafts e hsteps =>
    refine ⟨segmentId, drafts, "", hsteps, Or.inr ?_⟩
    exact (breaksOff_created _ e "").append _
  | finished segmentId drafts flowId hsteps =>
    exact ⟨segmentId, drafts, flowId, hsteps, Or.inl rfl⟩

end Build

/-- The exchanges of a request are what the services answered. If the reply to the plan prompt holds
a plan, the calls follow the plan prompt and the script of the plan, up to the first call that
fails; otherwise the plan prompt is the only call. -/
theorem calls_follow_script {σ : Type} (limits : DepthLimits) (services : Collaborators σ)
    (message owner : String) (history : List HistoryEntry) (world : σ) :
    services.Answers world (compile limits services message owner history world).exchanges
        (compile limits services message owner history world).world ∧
      ((∃ text plan segmentId drafts flowId,
          (services.generate (planPrompt message history) world).1 = .ok text ∧
          Plan.ofReply limits text = .ok plan ∧ plan.emails = drafts.map (·.step) ∧
          Follows (compile limits services message owner history world).exchanges
            (.generated (planPrompt message history) (.ok text) ::
              buildScript plan message owner segmentId drafts flowId)) ∨
        (∀ text plan, (services.generate (planPrompt message history) world).1 = .ok text →
            Plan.ofReply limits text ≠ .ok plan) ∧
          (compile limits services message owner history world).exchanges =
            [.generated (planPrompt message history)
              (services.generate (planPrompt message history) world).1]) := by
  obtain ⟨hanswers, haccount⟩ := compile_account services message owner history world
  refine ⟨hanswers, ?_⟩
  generalize (services.generate (planPrompt message history) world).1 = reply at haccount ⊢
  generalize (compile limits services message owner history world).exchanges = exchanges
    at haccount ⊢
  generalize (compile limits services message owner history world).answer = answer at haccount
  cases haccount with
  | refused detail => exact Or.inr ⟨nofun, rfl⟩
  | lost f => exact Or.inr ⟨nofun, rfl⟩
  | planless text defect hplan =>
    refine Or.inr ⟨?_, rfl⟩
    rintro _ plan ⟨⟩ hok
    rw [hplan] at hok
    cases hok
  | unreadable text f hplan =>
    refine Or.inr ⟨?_, rfl⟩
    rintro _ plan ⟨⟩ hok
    rw [hplan] at hok
    cases hok
  | built text plan hplan hhistory =>
    obtain ⟨segmentId, drafts, flowId, hsteps, hscript⟩ := hhistory.eq_or_breaksOff
    refine Or.inl ⟨text, plan, segmentId, drafts, flowId, rfl, hplan, hsteps, ?_⟩
    -- the plan prompt is the first call of the script, and gave a value too
    have hall : ∀ e ∈ Exchange.generated (planPrompt message history) (.ok text) ::
        buildScript plan message owner segmentId drafts flowId, e.succeeded := by
      intro e he
      rcases List.mem_cons.1 he with rfl | he
      · rfl
      · exact succeeded_of_mem_buildScript he
    rcases hscript with rfl | hbreaks
    · exact .refl hall
    · exact .of_breaksOff hall (hbreaks.append [_])

end FlowBuilder
