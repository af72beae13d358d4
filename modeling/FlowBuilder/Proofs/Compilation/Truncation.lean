import FlowBuilder.Proofs.Compilation.Answer

/-!
# Transcripts of failed builds

A build that a failed call has stopped leaves a part of the transcript that it would have had. Here
two builds of one plan are compared whose calls are answered alike up to one that fails in the first
build, while no call of the second build fails.

* `History.exists_concat_of_failed`: the failed call is the last one, and no call before it failed.
* `History.accountsFor`: the lines of a stopped build tell of just the emails whose templates were
  kept.
* `History.lines_prefix_of_answers`: up to the failure the same lines are told in both builds.
* `failed_transcript_truncates`: the transcript of the first build is a beginning of that of the
  second, with the notice of the failure at its end.
-/

namespace FlowBuilder

/-! ### Lines about emails -/

namespace Transcript

/-- The line of an email that was written and kept. -/
def emailLine (step : WrittenStep) : String :=
  "✓ Email " ++ toString step.sequence.val ++ ": " ++ inQuotes step.subject

/-- The line of the days that an email waits. -/
def delayLine (step : WrittenStep) : String :=
  "  → Send " ++ daysText step.delayDays ++ " after previous email"

/-- The lines of an email: its own, and if it waits, that of its days. -/
def linesOf (step : WrittenStep) : List String :=
  emailLine step :: if 1 < step.sequence.val ∧ 0 < step.delayDays.val then [delayLine step] else []

/-- Whether a line is about an email or its days: it starts like one. -/
def isAboutEmail (line : String) : Bool :=
  "✓ Email ".toList.isPrefixOf line.toList || "  → Send ".toList.isPrefixOf line.toList

/-- All lines of an email are about it. -/
theorem filter_linesOf (step : WrittenStep) :
    (linesOf step).filter isAboutEmail = linesOf step := by
  have hemail : isAboutEmail (emailLine step) := by simp [isAboutEmail, emailLine]
  have hdelay : isAboutEmail (delayLine step) := by simp [isAboutEmail, delayLine]
  rw [List.filter_eq_self]
  intro line hmem
  rcases List.mem_cons.1 hmem with rfl | hmem
  · exact hemail
  · split at hmem
    · obtain rfl := List.mem_singleton.1 hmem
      exact hdelay
    · cases hmem

/-- No line of the header is about an email. -/
theorem filter_header (plan : Plan) : (header plan).filter isAboutEmail = [] := by
  -- whatever the names in a line, its first letters are not those of a line about an email
  simp [header, isAboutEmail, List.isPrefixOf]

/-- No line about the audience is about an email. -/
theorem filter_audienceResolved (rule : AudienceRule) (audience : TriggerAudience) :
    (audienceResolved rule audience).filter isAboutEmail = [] := by
  unfold audienceResolved
  split <;> simp [isAboutEmail, List.isPrefixOf]

/-- No line about the graph is about an email. -/
theorem filter_assembled (graph : FlowGraph) : (assembled graph).filter isAboutEmail = [] := by
  simp [assembled, isAboutEmail, List.isPrefixOf]

end Transcript

/-! ### What the lines account for -/

/-- Lines account for exchanges of the build of a plan if the emails that they tell of, one after
another, are the first emails of the plan, each with the subject and the id of a template that the
store took in these exchanges, and if no template is left out. -/
def AccountsFor (plan : Plan) (exchanges : List Exchange) (lines : List String) : Prop :=
  ∃ written : List WrittenStep,
    templateAnswers exchanges = written.map (fun s => (s.subject, .ok s.templateId)) ∧
    written.map (fun s => (s.sequence, s.delayDays)) <+:
      plan.emails.map (fun s => (s.sequence, s.delayDays)) ∧
    lines.filter Transcript.isAboutEmail = written.flatMap Transcript.linesOf

/-- A draft has the lines of the email that it becomes. -/
theorem Draft.lines_eq_linesOf (draft : Draft) :
    draft.lines = Transcript.linesOf draft.written := rfl

/-- All lines of drafts are about emails. -/
theorem filter_draftLines (drafts : List Draft) :
    (drafts.flatMap (·.lines)).filter Transcript.isAboutEmail = drafts.flatMap (·.lines) := by
  rw [List.filter_flatMap]
  apply List.flatMap_congr
  intro draft _
  rw [draft.lines_eq_linesOf, Transcript.filter_linesOf]

/-- The lines of some drafts account for the exchanges that led to them. -/
theorem accountsFor_drafts {plan : Plan} {message owner segmentId : String} {drafts : List Draft}
    {front : List Exchange} {lines : List String}
    (hsteps : drafts.map (·.step) <+: plan.emails) (hfront : templateAnswers front = [])
    (hlines : lines.filter Transcript.isAboutEmail = drafts.flatMap (·.lines)) :
    AccountsFor plan (segmentExchanges plan message owner segmentId ++
      drafts.flatMap (·.exchanges plan owner) ++ front) lines := by
  refine ⟨drafts.map (·.written), ?_, ?_, ?_⟩
  · rw [templateAnswers_append, templateAnswers_append, templateAnswers_segmentExchanges,
      templateAnswers_drafts, hfront, List.nil_append, List.append_nil, List.map_map]
    rfl
  · -- a draft has the number and the days of its step
    have hmap := hsteps.map fun s : EmailStep => (s.sequence, s.delayDays)
    rw [List.map_map] at hmap
    rw [List.map_map]
    exact hmap
  · rw [hlines, List.flatMap_map]
    exact List.flatMap_congr fun draft _ => draft.lines_eq_linesOf

/-! ### Answers -/

/-- The answer of an exchange: what the model replied, or the id under which something was kept. -/
def Exchange.answer : Exchange → Except (Failure String) (Option String)
  | .generated _ answer => answer
  | .created _ answer => answer.map some

/-- Emails that got the same answers are the same drafts. -/
theorem drafts_prefix_of_answers {plan : Plan} {owner : String} {drafts drafts' : List Draft}
    {later : List (Except (Failure String) (Option String))}
    (hsteps : drafts.map (·.step) <+: drafts'.map (·.step))
    (hanswers : (drafts.flatMap (·.exchanges plan owner)).map Exchange.answer <+:
      (drafts'.flatMap (·.exchanges plan owner)).map Exchange.answer ++ later) :
    drafts <+: drafts' := by
  induction drafts generalizing drafts' with
  | nil => exact List.nil_prefix
  | cons draft r ih =>
    match drafts' with
    | [] => cases List.prefix_nil.1 hsteps
    | draft' :: r' =>
      obtain ⟨hstep, hsteps⟩ := List.cons_prefix_cons.1 hsteps
      simp only [List.flatMap_cons, Draft.exchanges, List.cons_append, List.nil_append,
        List.map_cons, Exchange.answer, Except.map, List.cons_prefix_cons, Except.ok.injEq,
        Option.some.injEq] at hanswers
      obtain ⟨hreply, hid, hanswers⟩ := hanswers
      -- a draft is its step, the reply of the model and the id of the template
      have hdraft : draft = draft' := by
        cases draft
        cases draft'
        cases hstep
        cases hreply
        cases hid
        rfl
      rw [hdraft, List.prefix_cons_inj]
      exact ih hsteps hanswers

/-- A segment that got the same answer makes the same audience, and the emails after it are the same
drafts. -/
theorem audience_eq_of_answers {plan : Plan} {message owner segmentId segmentId' : String}
    {drafts drafts' : List Draft} {later : List (Except (Failure String) (Option String))}
    (hsteps : drafts.map (·.step) <+: drafts'.map (·.step))
    (hanswers : (segmentExchanges plan message owner segmentId ++
        drafts.flatMap (·.exchanges plan owner)).map Exchange.answer <+:
      (segmentExchanges plan message owner segmentId' ++
        drafts'.flatMap (·.exchanges plan owner)).map Exchange.answer ++ later) :
    plan.audience segmentId = plan.audience segmentId' ∧ drafts <+: drafts' := by
  by_cases htrigger : plan.triggerType = .segmentAdded
  · simp only [segmentExchanges, if_pos htrigger, List.cons_append, List.nil_append, List.map_cons,
      Exchange.answer, Except.map, List.cons_prefix_cons, Except.ok.injEq, Option.some.injEq]
      at hanswers
    obtain ⟨rfl, hanswers⟩ := hanswers
    exact ⟨rfl, drafts_prefix_of_answers hsteps hanswers⟩
  · -- there is no segment
    simp only [segmentExchanges, if_neg htrigger, List.nil_append] at hanswers
    exact ⟨by rw [Plan.audience, Plan.audience, if_neg htrigger, if_neg htrigger],
      drafts_prefix_of_answers hsteps hanswers⟩

/-! ### Builds that a failed call has stopped -/

namespace Build

/-- The last call of an attempt at an email failed; what came before it kept no template. -/
theorem Attempt.exists_concat {plan : Plan} {owner : String} {step : EmailStep}
    {attempt : List Exchange} {f : Failure BuildError} (h : Attempt plan owner step attempt f) :
    ∃ front last, attempt = front ++ [last] ∧ templateAnswers front = [] := by
  cases h with
  | unwritten e => exact ⟨[], _, rfl, rfl⟩
  | unkept reply e => exact ⟨[_], _, rfl, rfl⟩

variable {plan : Plan} {message owner : String} {r : Except (Failure BuildError) Unit}
  {f : Failure BuildError} {exchanges done : List Exchange} {last : Exchange} {lines : List String}

/-- A failed call of a build is its last one, and no call before it failed. -/
theorem History.exists_concat_of_failed (h : History plan message owner r exchanges lines) {k : Nat}
    {failing : Exchange} (hk : exchanges[k]? = some failing) (hfailed : failing.succeeded = false) :
    ∃ done, exchanges = done ++ [failing] ∧ done.length = k ∧ ∀ e ∈ done, e.succeeded := by
  obtain ⟨segmentId, drafts, flowId, -, rfl | hbreaks⟩ := h.eq_or_breaksOff
  · -- no call of a whole script failed
    have hsucceeded := succeeded_of_mem_buildScript (List.mem_of_getElem? hk)
    rw [hfailed] at hsucceeded
    cases hsucceeded
  · obtain ⟨done, last, answered, rest, rfl, hscript, -, -⟩ := hbreaks
    have hdone : ∀ e ∈ done, e.succeeded := by
      intro e he
      have hmem : e ∈ buildScript plan message owner segmentId drafts flowId := by
        rw [hscript]
        exact List.mem_append_left _ he
      exact succeeded_of_mem_buildScript hmem
    -- the failed call is not among the first ones, so that it is the one after them
    rcases Nat.lt_or_ge k done.length with hlt | hge
    · rw [List.getElem?_append_left hlt] at hk
      have hsucceeded := hdone failing (List.mem_of_getElem? hk)
      rw [hfailed] at hsucceeded
      cases hsucceeded
    · rw [List.getElem?_append_right hge, List.getElem?_singleton] at hk
      split at hk
      · cases hk
        exact ⟨done, rfl, by omega, hdone⟩
      · cases hk

/-- If the failed call was rejected, this is what the build fails with. -/
theorem History.exists_eq_error (h : History plan message owner r (done ++ [last]) lines)
    (hdone : ∀ e ∈ done, e.succeeded) {detail : String}
    (hfailure : last.failure? = some (.error detail)) :
    ∃ error, r = .error (.error error) := by
  match r, h with
  | .ok (), h =>
    have hall := h.eq_ok_iff.1 rfl last (by simp)
    rw [Exchange.succeeded_eq_false_of_failure? hfailure] at hall
    cases hall
  | .error f, h =>
    obtain ⟨e, he, collaborator, g, hg, rfl⟩ := h.exists_failure rfl
    -- only the last call failed
    rcases List.mem_append.1 he with he | he
    · have hsucceeded := hdone e he
      rw [Exchange.succeeded_eq_false_of_failure? hg] at hsucceeded
      cases hsucceeded
    · obtain rfl := List.mem_singleton.1 he
      rw [hfailure] at hg
      cases hg
      exact ⟨_, rfl⟩

/-- No opening line is about an email. -/
theorem filter_openingLines (plan : Plan) :
    (openingLines plan).filter Transcript.isAboutEmail = [] := by
  rw [openingLines, List.filter_append, Transcript.filter_header]
  simp [Transcript.triggerStarted, Transcript.isAboutEmail, List.isPrefixOf]

/-- No line about the audience of a plan is about an email. -/
theorem filter_audienceLines (plan : Plan) (segmentId : String) :
    (audienceLines plan segmentId).filter Transcript.isAboutEmail = [] := by
  rw [audienceLines, List.filter_append, List.filter_append, filter_openingLines,
    Transcript.filter_audienceResolved]
  simp [Transcript.contentStarted, Transcript.isAboutEmail, List.isPrefixOf]

/-- Up to the storing of the flow, only the drafts are told of. -/
theorem filter_savingLines (plan : Plan) (segmentId : String) (drafts : List Draft) :
    (savingLines plan segmentId drafts).filter Transcript.isAboutEmail =
      drafts.flatMap (·.lines) := by
  simp only [savingLines, List.filter_append, filter_audienceLines, filter_draftLines,
    Transcript.filter_assembled]
  simp [Transcript.contentFinished, Transcript.savingStarted, Transcript.isAboutEmail,
    List.isPrefixOf]

/-- The lines of a stopped build account for the calls before the last one. -/
theorem History.accountsFor (h : History plan message owner (.error f) (done ++ [last]) lines) :
    AccountsFor plan done lines := by
  generalize hexchanges : done ++ [last] = exchanges at h
  cases h with
  | withoutSegment e _ =>
    -- the segment was the first call
    obtain ⟨rfl, -⟩ := List.append_inj' (hexchanges.trans (List.nil_append _).symm) rfl
    exact ⟨[], rfl, List.nil_prefix, filter_openingLines plan⟩
  | withoutEmail segmentId drafts step rest attempt g hsteps hattempt =>
    obtain ⟨front, _, rfl, hfront⟩ := hattempt.exists_concat
    -- before the call that failed, there may be the one that wrote the email without a template
    rw [← List.append_assoc] at hexchanges
    obtain ⟨rfl, -⟩ := List.append_inj' hexchanges rfl
    refine accountsFor_drafts ⟨step :: rest, hsteps.symm⟩ hfront ?_
    rw [List.filter_append, filter_audienceLines, filter_draftLines, List.nil_append]
  | withoutFlow segmentId drafts e hsteps =>
    obtain ⟨rfl, -⟩ := List.append_inj' hexchanges rfl
    have haccount : AccountsFor plan (segmentExchanges plan message owner segmentId ++
        drafts.flatMap (·.exchanges plan owner) ++ []) (savingLines plan segmentId drafts) :=
      accountsFor_drafts ⟨[], by rw [hsteps, List.append_nil]⟩ rfl
        (filter_savingLines plan segmentId drafts)
    rwa [List.append_nil] at haccount

/-- The lines depend on the segment only by the audience. -/
theorem audienceLines_congr {segmentId segmentId' : String}
    (h : plan.audience segmentId = plan.audience segmentId') :
    audienceLines plan segmentId = audienceLines plan segmentId' := by
  rw [audienceLines, audienceLines, h]

/-- The lines about saving depend on the audience alone. -/
theorem savingLines_congr {segmentId segmentId' : String}
    (h : plan.audience segmentId = plan.audience segmentId') (drafts : List Draft) :
    savingLines plan segmentId drafts = savingLines plan segmentId' drafts := by
  rw [savingLines, savingLines, audienceLines_congr h, Plan.record, Plan.record, h]

/-- The lines up to some drafts come before those of further drafts. -/
theorem audienceLines_prefix_savingLines (plan : Plan) (segmentId : String)
    (drafts more : List Draft) :
    audienceLines plan segmentId ++ drafts.flatMap (·.lines) <+:
      savingLines plan segmentId (drafts ++ more) := by
  simp only [savingLines, List.flatMap_append, List.append_assoc, List.prefix_append_right_inj]
  exact List.prefix_append _ _

/-- A stopped build tells what a finished build tells too, if the calls before its last one were
answered alike. -/
theorem History.lines_prefix_of_answers {exchanges' : List Exchange} {lines' : List String}
    (h : History plan message owner (.error f) (done ++ [last]) lines)
    (h' : History plan message owner (.ok ()) exchanges' lines')
    (hanswers : done.map Exchange.answer <+: exchanges'.map Exchange.answer) :
    lines <+: lines' := by
  cases h' with
  | finished segmentId' drafts' flowId hsteps' =>
    generalize hexchanges : done ++ [last] = exchanges at h
    rw [List.map_append] at hanswers
    refine List.IsPrefix.trans ?_ (List.prefix_append _ _)
    cases h with
    | withoutSegment e _ =>
      -- nothing but the opening has been told
      simp only [savingLines, audienceLines, List.append_assoc]
      exact List.prefix_append _ _
    | withoutEmail segmentId drafts step rest attempt g hsteps hattempt =>
      obtain ⟨front, _, rfl, -⟩ := hattempt.exists_concat
      rw [← List.append_assoc] at hexchanges
      obtain ⟨rfl, -⟩ := List.append_inj' hexchanges rfl
      rw [List.map_append] at hanswers
      -- the drafts so far are the first ones of the finished build
      obtain ⟨haudience, more, rfl⟩ := audience_eq_of_answers
        ⟨step :: rest, hsteps.symm.trans hsteps'⟩ ((List.prefix_append _ _).trans hanswers)
      rw [audienceLines_congr haudience]
      exact audienceLines_prefix_savingLines plan segmentId' drafts more
    | withoutFlow segmentId drafts e hsteps =>
      obtain ⟨rfl, -⟩ := List.append_inj' hexchanges rfl
      have hsame := hsteps.symm.trans hsteps'
      obtain ⟨haudience, hdrafts⟩ := audience_eq_of_answers ⟨[], by rw [List.append_nil, hsame]⟩
        hanswers
      -- all emails have been written, so that there are no further drafts
      have hlength := congrArg List.length hsame
      rw [List.length_map, List.length_map] at hlength
      rw [hdrafts.eq_of_length hlength, savingLines_congr haudience]

end Build

/-! ### Transcripts -/

/-- The lines of a build that has ended with the given result: one that has stopped says so. -/
def endedLines (lines : List String) : Except (Failure BuildError) Unit → List String
  | .ok () => lines
  | .error _ => lines ++ Transcript.failed Transcript.failureNotice

section

variable {σ : Type} (services : Collaborators σ) (plan : Plan) (message owner : String) (world : σ)

/-- The lines of the transcript of a build. -/
def transcriptLines : List String :=
  let run := (Build.buildFlow services plan message owner).run.run { world }
  endedLines run.2.lines run.1

/-- The calls of a build, with their answers. -/
def buildExchanges : List Exchange :=
  (buildTranscript services plan message owner { world }).exchanges

/-- The build of a plan has a history, whose lines are those of its transcript. -/
theorem exists_history : ∃ r lines,
    Build.History plan message owner r (buildExchanges services plan message owner world) lines ∧
      transcriptLines services plan message owner world = endedLines lines r ∧
      (buildTranscript services plan message owner { world }).answer = buildAnswer lines r := by
  have hmeets : Build.Meets services _ _ := Build.meets_buildFlow plan message owner
  obtain ⟨exchanges, lines, hexchanges, hlines, -, hhistory⟩ := hmeets { world }
  rw [List.nil_append] at hexchanges hlines
  rw [transcriptLines, buildExchanges, buildTranscript]
  -- the build ended with an expected failure, with a fault, or well
  rcases hrun : (Build.buildFlow services plan message owner).run.run { world } with
    ⟨(_ | _) | _, p⟩ <;>
  · rw [hrun] at hexchanges hlines hhistory
    subst hexchanges hlines
    exact ⟨_, p.lines, hhistory, rfl, rfl⟩

end

section

variable {σ τ : Type}

/-- Consider two builds of one plan, by services whose answers to the calls before the one with
number `k`, counted from zero, are the same. If this call is rejected in the first build, and no
call fails in the second, then the transcript of the first build is a beginning of that of the
second, followed by an empty line and the notice of the failure. The beginning accounts for the
calls before the rejected one: it tells of each email whose template the store took, and of no
other. -/
theorem failed_transcript_truncates (first : Collaborators σ) (second : Collaborators τ)
    (plan : Plan) (message owner : String) (w : σ) (w' : τ) {k : Nat} {detail : String}
    (hrejected : (buildExchanges first plan message owner w)[k]?.bind Exchange.failure? =
      some (.error detail))
    (hagree : ((buildExchanges first plan message owner w).take k).map Exchange.answer =
      ((buildExchanges second plan message owner w').take k).map Exchange.answer)
    (hsecond : ∀ e ∈ buildExchanges second plan message owner w', e.succeeded) :
    (buildTranscript first plan message owner { world := w }).answer =
        .ok (Transcript.render (transcriptLines first plan message owner w)) ∧
      (buildTranscript second plan message owner { world := w' }).answer =
        .ok (Transcript.render (transcriptLines second plan message owner w')) ∧
      ∃ told, transcriptLines first plan message owner w = told ++ ["", Transcript.failureNotice] ∧
        told <+: transcriptLines second plan message owner w' ∧
        AccountsFor plan ((buildExchanges first plan message owner w).take k) told := by
  obtain ⟨r, lines, hhistory, hlines, hanswer⟩ := exists_history first plan message owner w
  obtain ⟨r', lines', hhistory', hlines', hanswer'⟩ := exists_history second plan message owner w'
  obtain ⟨failing, hk, hfailure⟩ := Option.bind_eq_some_iff.1 hrejected
  -- the rejected call is the last one of the first build, which it stops; the second is finished
  obtain ⟨done, hdone, rfl, hsucceeded⟩ := hhistory.exists_concat_of_failed hk
    (Exchange.succeeded_eq_false_of_failure? hfailure)
  rw [hdone, List.take_left] at hagree
  rw [hdone] at hhistory
  obtain ⟨error, rfl⟩ := hhistory.exists_eq_error hsucceeded hfailure
  obtain rfl := hhistory'.eq_ok_iff.2 hsecond
  have hanswers : done.map Exchange.answer <+:
      (buildExchanges second plan message owner w').map Exchange.answer := by
    rw [hagree]
    exact (List.take_prefix _ _).map Exchange.answer
  rw [hlines, hlines', hanswer, hanswer', hdone, List.take_left]
  exact ⟨rfl, rfl, lines, rfl, hhistory.lines_prefix_of_answers hhistory' hanswers,
    hhistory.accountsFor⟩

end

/-- The model gives one reply to every prompt, and the store has room for so many things. -/
def Collaborators.recitingWithRoom (reply : String) (room : Nat) : Collaborators Nat where
  generate _ kept := (.ok (some reply), kept)
  create _ kept :=
    if kept < room then (.ok ("id-" ++ toString (kept + 1)), kept + 1)
    else (.error (.error "no room"), kept)

/-- A plan of one email for a segment. -/
def thankingPlan : Plan where
  flowType := .postPurchase
  flowName := "Thanks"
  description := ""
  triggerType := .segmentAdded
  targetAudience := ""
  emails := [⟨.first, .ofNat 4, "Thank you", "", "", ""⟩]
  numbered := rfl
  nonempty := List.cons_ne_nil _ _

/-- A store that has room for the segment and the template, but not for the flow, stops the build
after the line of the email. -/
theorem crowded_transcript_truncates :
    ∃ told, transcriptLines (.recitingWithRoom "BODY: Hello" 2) thankingPlan "Say thanks" "ada" 0 =
        told ++ ["", Transcript.failureNotice] ∧
      told <+:
        transcriptLines (.recitingWithRoom "BODY: Hello" 3) thankingPlan "Say thanks" "ada" 0 ∧
      told.filter Transcript.isAboutEmail = ["✓ Email 1: \"Thank you\""] := by
  have hrejected : (buildExchanges (.recitingWithRoom "BODY: Hello" 2) thankingPlan "Say thanks"
      "ada" 0)[3]?.bind Exchange.failure? = some (.error "no room") := by
    decide +kernel
  have hagree : ((buildExchanges (.recitingWithRoom "BODY: Hello" 2) thankingPlan "Say thanks"
        "ada" 0).take 3).map Exchange.answer =
      ((buildExchanges (.recitingWithRoom "BODY: Hello" 3) thankingPlan "Say thanks"
        "ada" 0).take 3).map Exchange.answer := by
    decide +kernel
  have hsecond : ∀ e ∈ buildExchanges (.recitingWithRoom "BODY: Hello" 3) thankingPlan "Say thanks"
      "ada" 0, e.succeeded := by
    decide +kernel
  have hkept : templateAnswers ((buildExchanges (.recitingWithRoom "BODY: Hello" 2) thankingPlan
      "Say thanks" "ada" 0).take 3) = [("Thank you", .ok "id-2")] := by
    decide +kernel
  obtain ⟨-, -, told, hfirst, hprefix, written, htemplates, hsteps, hlines⟩ :=
    failed_transcript_truncates _ _ _ _ _ _ _ hrejected hagree hsecond
  refine ⟨told, hfirst, hprefix, ?_⟩
  -- one template was kept, and it is that of the first email
  rw [hkept] at htemplates
  obtain ⟨step, rfl, hstep⟩ := List.map_eq_singleton_iff.1 htemplates.symm
  obtain ⟨hsubject, -⟩ := Prod.mk.inj hstep
  obtain ⟨hfirst, -⟩ := List.cons_prefix_cons.1 hsteps
  obtain ⟨hsequence, -⟩ := Prod.mk.inj hfirst
  have hatonce : ¬ (1 < step.sequence.val ∧ 0 < step.delayDays.val) := by
    rw [hsequence]
    exact fun h => absurd h.1 (Nat.lt_irrefl 1)
  rw [hlines, List.flatMap_singleton, Transcript.linesOf, if_neg hatonce, Transcript.emailLine,
    hsubject, hsequence]
  decide +kernel

end FlowBuilder
