import FlowBuilder.Proofs.Compilation.Fidelity
import FlowBuilder.Proofs.Compilation.Protocol

/-!
# What the answer tells

The answer to a requester tells what came of the request. Its first line tells how far the request
came: the apology, the guidance and the header of a transcript begin differently. Its last line
tells how a build ended: a transcript ends with the notice of a failure or with the tip of a
finished build, whatever the model wrote in between.

* `buildFlow_error`: only a failed call stops a build.
* `answer_tells_outcome`: the answer of a request against the calls that it made.
-/

namespace FlowBuilder

/-! ### Lines as a text -/

namespace Transcript

/-- The first line of the header of a plan. -/
def headline (plan : Plan) : String :=
  "🔄 **Building " ++ plan.flowType.value ++ " Flow**"

/-- Further lines follow after a line break. -/
theorem render_append {first second : List String} (hfirst : first ≠ []) (hsecond : second ≠ []) :
    render (first ++ second) = render first ++ "\n" ++ render second :=
  String.intercalate_append_of_ne_nil hfirst hsecond

/-- A text of lines that start with the header starts with its first line. -/
theorem render_header_append (plan : Plan) (rest : List String) :
    ∃ later, render (header plan ++ rest) = headline plan ++ "\n" ++ later := by
  have hlines : header plan ++ rest = [headline plan] ++ ((header plan).tail ++ rest) := rfl
  have hlater : (header plan).tail ++ rest ≠ [] := List.cons_ne_nil _ _
  refine ⟨render ((header plan).tail ++ rest), ?_⟩
  rw [hlines, render_append (List.cons_ne_nil _ []) hlater, render, String.intercalate_singleton]

/-- A text of lines ends with its last line. -/
theorem render_concat {lines : List String} (h : lines ≠ []) (last : String) :
    ∃ front, render (lines ++ [last]) = front ++ last := by
  refine ⟨render lines ++ "\n", ?_⟩
  rw [render_append h (List.cons_ne_nil last []), render, render, String.intercalate_singleton]

/-- The summary of a build ends with the tip. -/
theorem getLast?_summary (plan : Plan) (steps : List WrittenStep) (audience : TriggerAudience) :
    (summary plan steps audience).getLast? = some closingTip := by
  rw [summary, List.getLast?_append_of_ne_nil _ (List.cons_ne_nil _ _)]
  rfl

end Transcript

/-- Two ends of one text end with one character. -/
theorem getLast?_eq_of_append_eq {front front' last last' : String} (hlast : last ≠ "")
    (hlast' : last' ≠ "") (h : front ++ last = front' ++ last') :
    last.toList.getLast? = last'.toList.getLast? := by
  -- the last character of a text is that of its end
  have hnil : last.toList ≠ [] := by simpa using hlast
  have hnil' : last'.toList ≠ [] := by simpa using hlast'
  have hchars := congrArg (fun s : String => s.toList.getLast?) h
  rwa [String.toList_append, String.toList_append, List.getLast?_append_of_ne_nil _ hnil,
    List.getLast?_append_of_ne_nil _ hnil'] at hchars

/-- No text ends with both the failure notice and the closing tip. -/
theorem failureNotice_ne_closingTip {front front' : String} :
    front ++ Transcript.failureNotice ≠ front' ++ Transcript.closingTip := by
  intro h
  have hlast := getLast?_eq_of_append_eq (by decide) (by decide) h
  revert hlast
  decide

/-! ### How a build ends -/

namespace Build

variable {plan : Plan} {message owner : String} {r : Except (Failure BuildError) Unit}
  {exchanges : List Exchange} {lines : List String}

/-- A build is finished just if no call failed. -/
theorem History.eq_ok_iff (h : History plan message owner r exchanges lines) :
    r = .ok () ↔ ∀ e ∈ exchanges, e.succeeded := by
  constructor
  · rintro rfl
    cases h with
    | finished segmentId drafts flowId _ => exact fun e he => succeeded_of_mem_buildScript he
  · intro hall
    match hr : r with
    | .ok () => rfl
    | .error f =>
      obtain ⟨e, hmem, _, _, hfailure, -⟩ := h.exists_failure rfl
      have hfailed := Exchange.succeeded_eq_false_of_failure? hfailure
      rw [hall e hmem] at hfailed
      cases hfailed

/-- A flow is stored just if the build is finished. -/
theorem History.stored_iff (h : History plan message owner r exchanges lines) :
    (∃ caller record id, .created (.flow caller record) (.ok id) ∈ exchanges) ↔ r = .ok () := by
  constructor
  · rintro ⟨caller, record, id, hmem⟩
    obtain ⟨segmentId, drafts, answer, -, hflow, hexchanges⟩ :=
      h.exists_drafts_of_storesFlow hmem rfl
    cases hflow
    -- nothing before the flow failed, and the flow did not
    rw [h.eq_ok_iff, hexchanges]
    exact fun e he => succeeded_of_mem_buildScript he
  · rintro rfl
    cases h with
    | finished segmentId drafts flowId _ =>
      exact ⟨owner, _, flowId, List.mem_append_right _ (List.mem_singleton_self _)⟩

/-- The lines of a build start with the header of its plan. -/
theorem History.exists_header_append (h : History plan message owner r exchanges lines) :
    ∃ rest, lines = Transcript.header plan ++ rest := by
  cases h with
  | withoutSegment e _ => exact ⟨_, rfl⟩
  | withoutEmail segmentId drafts step rest attempt f _ _ =>
    simp only [audienceLines, openingLines, List.append_assoc]
    exact ⟨_, rfl⟩
  | withoutFlow segmentId drafts e _ =>
    simp only [savingLines, audienceLines, openingLines, List.append_assoc]
    exact ⟨_, rfl⟩
  | finished segmentId drafts flowId _ =>
    simp only [savingLines, audienceLines, openingLines, List.append_assoc]
    exact ⟨_, rfl⟩

/-- The lines of a finished build end with the closing tip. -/
theorem History.exists_concat_closingTip
    (h : History plan message owner (.ok ()) exchanges lines) :
    ∃ front, front ≠ [] ∧ lines = front ++ [Transcript.closingTip] := by
  cases h with
  | finished segmentId drafts flowId _ =>
    obtain ⟨summary, hsummary⟩ := List.getLast?_eq_some_iff.1
      (Transcript.getLast?_summary plan (drafts.map (·.written)) (plan.audience segmentId))
    refine ⟨savingLines plan segmentId drafts ++
      (Transcript.saved (plan.record segmentId drafts) ++ summary), ?_, ?_⟩
    · simp [Transcript.saved]
    · rw [closingLines, hsummary, List.append_assoc, List.append_assoc]

variable {σ : Type} {services : Collaborators σ}

/-- Wherever a build of a plan starts, a build error of it is a failed call: its emails are never
missing, and its graph is never invalid. -/
theorem buildFlow_error {start : Progress σ} {error : BuildError}
    (h : ((buildFlow services plan message owner).run.run start).1 = .error (.error error)) :
    ∃ collaborator detail, error = .callFailed collaborator detail := by
  have hmeets : Meets services _ _ := meets_buildFlow plan message owner
  obtain ⟨exchanges, lines, -, -, -, hhistory⟩ := hmeets start
  obtain ⟨_, _, collaborator, g, -, hfailure⟩ := hhistory.exists_failure h
  -- a fault of the call would be a fault of the build
  match g, hfailure with
  | .error detail, hfailure => exact ⟨collaborator, detail, Failure.error.inj hfailure⟩

end Build

/-! ### How a request ends -/

/-- A text starts as its first part does. -/
theorem head?_toList_append {s : String} {c : Char} (h : s.toList.head? = some c) (t : String) :
    (s ++ t).toList.head? = some c := by
  rw [String.toList_append, List.head?_append, h]
  rfl

/-- The first characters tell the apology, the guidance and a transcript apart. -/
theorem head?_apologyMessage : apologyMessage.toList.head? = some 'S' := by
  decide

/-- The guidance starts with a letter. -/
theorem head?_guidanceMessage : guidanceMessage.toList.head? = some 'I' := by
  have hfirst : "I need more information to build this flow. Could you describe:\n".toList.head? =
      some 'I' := by
    decide
  exact head?_toList_append (head?_toList_append (head?_toList_append hfirst _) _) _

/-- The headline of a plan starts with its sign. -/
theorem head?_headline (plan : Plan) (later : String) :
    (Transcript.headline plan ++ "\n" ++ later).toList.head? = some '🔄' := by
  have hfirst : "🔄 **Building ".toList.head? = some '🔄' := by decide
  have hheadline : (Transcript.headline plan).toList.head? = some '🔄' :=
    head?_toList_append (head?_toList_append hfirst _) _
  exact head?_toList_append (head?_toList_append hheadline _) _

/-- Texts that start differently are different. -/
theorem ne_of_head?_ne {s t : String} {a b : Char} (hs : s.toList.head? = some a)
    (ht : t.toList.head? = some b) (hne : a ≠ b) : s ≠ t := by
  rintro rfl
  rw [hs] at ht
  exact hne (Option.some.inj ht)

/-- The apology is not the guidance. -/
theorem apologyMessage_ne_guidanceMessage : apologyMessage ≠ guidanceMessage :=
  ne_of_head?_ne head?_apologyMessage head?_guidanceMessage (by decide)

/-- A text under a headline is not the apology. -/
theorem headline_ne_apologyMessage (plan : Plan) (later : String) :
    Transcript.headline plan ++ "\n" ++ later ≠ apologyMessage :=
  ne_of_head?_ne (head?_headline plan later) head?_apologyMessage (by decide)

/-- A text under a headline is not the guidance. -/
theorem headline_ne_guidanceMessage (plan : Plan) (later : String) :
    Transcript.headline plan ++ "\n" ++ later ≠ guidanceMessage :=
  ne_of_head?_ne (head?_headline plan later) head?_guidanceMessage (by decide)

/-- An answer to a build is the transcript of a finished build, or that of a build which some failed
call has stopped. -/
theorem buildAnswer_eq_ok {lines : List String} {r : Except (Failure BuildError) Unit}
    {text : String} (h : buildAnswer lines r = .ok text) :
    r = .ok () ∧ text = Transcript.render lines ∨
      (∃ error, r = .error (.error error)) ∧
        text = Transcript.render (lines ++ Transcript.failed Transcript.failureNotice) := by
  match r, h with
  | .ok (), h =>
    cases h
    exact Or.inl ⟨rfl, rfl⟩
  | .error (.error error), h =>
    cases h
    exact Or.inr ⟨⟨error, rfl⟩, rfl⟩

section

variable {plan : Plan} {message owner : String} {r : Except (Failure BuildError) Unit}
  {exchanges : List Exchange} {lines : List String}
  (h : Build.History plan message owner r exchanges lines) {text : String}
  (hanswer : buildAnswer lines r = .ok text)

include h hanswer

/-- The transcript of a build starts with its headline. -/
theorem exists_headline_append : ∃ later, text = Transcript.headline plan ++ "\n" ++ later := by
  obtain ⟨rest, rfl⟩ := h.exists_header_append
  rcases buildAnswer_eq_ok hanswer with ⟨-, rfl⟩ | ⟨-, rfl⟩
  · exact Transcript.render_header_append plan rest
  · rw [List.append_assoc]
    exact Transcript.render_header_append plan _

/-- The transcript of a build ends with the closing tip if the build is finished, and with the
failure notice if not. -/
theorem transcript_ends :
    r = .ok () ∧ (∃ front, text = front ++ Transcript.closingTip) ∨
      r ≠ .ok () ∧ ∃ front, text = front ++ Transcript.failureNotice := by
  rcases buildAnswer_eq_ok hanswer with ⟨rfl, rfl⟩ | ⟨⟨error, rfl⟩, rfl⟩
  · obtain ⟨front, hfront, rfl⟩ := h.exists_concat_closingTip
    exact Or.inl ⟨rfl, Transcript.render_concat hfront Transcript.closingTip⟩
  · have hlines : lines ++ [""] ≠ [] := List.append_ne_nil_of_right_ne_nil _ (List.cons_ne_nil _ _)
    have hnotice : lines ++ Transcript.failed Transcript.failureNotice =
        lines ++ [""] ++ [Transcript.failureNotice] := by
      rw [List.append_assoc]
      rfl
    rw [hnotice]
    exact Or.inr ⟨nofun, Transcript.render_concat hlines Transcript.failureNotice⟩

/-- The transcript of a build ends with the failure notice just if a call failed. -/
theorem ends_failureNotice_iff :
    (∃ front, text = front ++ Transcript.failureNotice) ↔ ∃ e ∈ exchanges, e.succeeded = false := by
  -- the result of the build stands between its calls and its last line
  have hfailed : (∃ e ∈ exchanges, e.succeeded = false) ↔ r ≠ .ok () := by
    rw [ne_eq, h.eq_ok_iff]
    simp
  rw [hfailed]
  rcases transcript_ends h hanswer with ⟨hok, front, htip⟩ | ⟨hne, hnotice⟩
  · refine ⟨?_, fun hne => absurd hok hne⟩
    rintro ⟨front', hnotice⟩
    exact absurd (hnotice.symm.trans htip) failureNotice_ne_closingTip
  · exact ⟨fun _ => hne, fun _ => hnotice⟩

/-- The transcript of a build ends with the closing tip just if a flow was stored. -/
theorem ends_closingTip_iff :
    (∃ front, text = front ++ Transcript.closingTip) ↔
      ∃ caller record id, .created (.flow caller record) (.ok id) ∈ exchanges := by
  rw [h.stored_iff]
  rcases transcript_ends h hanswer with ⟨hok, htip⟩ | ⟨hne, front, hnotice⟩
  · exact ⟨fun _ => hok, fun _ => htip⟩
  · refine ⟨?_, fun hok => absurd hok hne⟩
    rintro ⟨front', htip⟩
    exact absurd (hnotice.symm.trans htip) failureNotice_ne_closingTip

end

/-- If a request is answered, the answer is the apology just if the model rejected the plan prompt,
and the guidance just if the reply to the plan prompt held no plan. Any other answer starts with the
headline of the plan that the reply held; it ends with the failure notice just if a later call
failed, and with the closing tip just if a flow was stored. Only a failed call stops the build of a
plan. -/
theorem answer_tells_outcome {σ : Type} (limits : DepthLimits) (services : Collaborators σ)
    (message owner : String) (history : List HistoryEntry) (world : σ) {text : String}
    (h : (compile limits services message owner history world).answer = .ok text) :
    (text = apologyMessage ↔ ∃ detail,
      (services.generate (planPrompt message history) world).1 = .error (.error detail)) ∧
    (text = guidanceMessage ↔ ∃ reply defect,
      (services.generate (planPrompt message history) world).1 = .ok reply ∧
        Plan.ofReply limits reply = .error (.error defect)) ∧
    (text ≠ apologyMessage → text ≠ guidanceMessage → ∃ reply plan,
      (services.generate (planPrompt message history) world).1 = .ok reply ∧
      Plan.ofReply limits reply = .ok plan ∧
      (∃ later, text = Transcript.headline plan ++ "\n" ++ later) ∧
      ((∃ front, text = front ++ Transcript.failureNotice) ↔
        ∃ e ∈ (compile limits services message owner history world).exchanges.tail,
          e.succeeded = false) ∧
      ((∃ front, text = front ++ Transcript.closingTip) ↔
        ∃ caller record id, .created (.flow caller record) (.ok id) ∈
          (compile limits services message owner history world).exchanges) ∧
      ∀ (start : Progress σ) (error : BuildError),
        ((Build.buildFlow services plan message owner).run.run start).1 = .error (.error error) →
          ∃ collaborator detail, error = .callFailed collaborator detail) := by
  obtain ⟨-, haccount⟩ := compile_account services message owner history world
  generalize (services.generate (planPrompt message history) world).1 = reply at haccount ⊢
  generalize (compile limits services message owner history world).exchanges = exchanges
    at haccount ⊢
  generalize (compile limits services message owner history world).answer = answer at haccount h
  cases haccount with
  | refused detail =>
    -- the answer is the apology, and the other two cases do not arise
    cases h
    refine ⟨⟨fun _ => ⟨detail, rfl⟩, fun _ => rfl⟩, ⟨fun heq => ?_, nofun⟩,
      fun hne => absurd rfl hne⟩
    exact absurd heq apologyMessage_ne_guidanceMessage
  | lost f => cases h
  | planless reply defect hplan =>
    cases h
    refine ⟨⟨fun heq => ?_, nofun⟩, ⟨fun _ => ⟨reply, defect, rfl, hplan⟩, fun _ => rfl⟩,
      fun _ hne => absurd rfl hne⟩
    exact absurd heq.symm apologyMessage_ne_guidanceMessage
  | unreadable reply f hplan => cases h
  | built reply plan hplan hhistory =>
    -- the first line tells that the answer is a transcript, and the last line how it ended
    have hheadline := exists_headline_append hhistory h
    obtain ⟨later, rfl⟩ := hheadline
    refine ⟨⟨fun heq => ?_, nofun⟩, ⟨fun heq => ?_, ?_⟩, fun _ _ => ?_⟩
    · exact absurd heq (headline_ne_apologyMessage plan later)
    · exact absurd heq (headline_ne_guidanceMessage plan later)
    · rintro ⟨_, defect, ⟨⟩, hdefect⟩
      rw [hplan] at hdefect
      cases hdefect
    · refine ⟨reply, plan, rfl, hplan, ⟨later, rfl⟩, ends_failureNotice_iff hhistory h, ?_,
        fun start error => Build.buildFlow_error⟩
      -- the plan prompt stores no flow
      rw [ends_closingTip_iff hhistory h]
      simp

/-- Where no call fails, the answer is neither the apology nor the guidance, and ends with
the tip. -/
theorem greeting_ends_closingTip :
    ∃ text, greetingRun.answer = .ok text ∧ text ≠ apologyMessage ∧ text ≠ guidanceMessage ∧
      ∃ front, text = front ++ Transcript.closingTip := by
  have hplan : (Plan.ofReply .standard (some greetingReply)).toOption.isSome := by
    decide +kernel
  obtain ⟨text, hanswer⟩ := exists_answer_greetingRun
  obtain ⟨happology, hguidance, htranscript⟩ :=
    answer_tells_outcome .standard (.reciting greetingReply) "Greet new customers" "ada" [] 0
      hanswer
  have hne : text ≠ apologyMessage := by
    intro heq
    obtain ⟨detail, hrefused⟩ := happology.1 heq
    cases hrefused
  have hne' : text ≠ guidanceMessage := by
    intro heq
    obtain ⟨reply, defect, hreply, hdefect⟩ := hguidance.1 heq
    cases hreply
    rw [hdefect] at hplan
    cases hplan
  -- neither notice, so a transcript, and this run keeps its flow
  obtain ⟨reply, plan, -, -, -, -, htip, -⟩ := htranscript hne hne'
  exact ⟨text, hanswer, hne, hne', htip.2 exists_flow_greetingRun⟩

end FlowBuilder
