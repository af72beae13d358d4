import FlowBuilder.Proofs.Decimal.Bounds
import FlowBuilder.Proofs.Graph.Layout
import FlowBuilder.Transcript

/-!
# What a transcript tells of days

When an email waits is decided in several places: the graph has a delay before it, the schedule
pairs it with days, its announcement has a second line, and the closing summary has words for it.
For emails that are numbered in order they all agree with the schedule.

* `Transcript.namesDays_daysText`: how days are named.
* `Transcript.tells_of_numbered`: what is told of one email, by its place and its days in the
  schedule.
* `Transcript.tellsCounts_assembledGraph`: the counts that are told of a graph, by the days in the
  schedule.
* `transcript_tells_schedule`: transcript and schedule agree.
-/

namespace FlowBuilder

/-! ### Days in the schedule -/

/-- The schedule states the days of each email but the first. -/
theorem getElem?_plannedSchedule (steps : List WrittenStep) (i : Nat) :
    (plannedSchedule steps)[i]? =
      steps[i]?.map fun s => (s.subject, if i = 0 then 0 else s.delayDays.val) := by
  cases steps with
  | nil => rfl
  | cons step r =>
    cases i with
    | zero => rfl
    | succ i =>
      rw [plannedSchedule, List.getElem?_cons_succ, List.getElem?_cons_succ, List.getElem?_map]
      rfl

/-- There is one entry for each step. -/
theorem length_plannedSchedule (steps : List WrittenStep) :
    (plannedSchedule steps).length = steps.length := by
  cases steps with
  | nil => rfl
  | cons step r => rw [plannedSchedule, List.length_cons, List.length_map, List.length_cons]

/-- The emails that wait have days in the schedule. -/
theorem countP_plannedSchedule (steps : List WrittenStep) :
    (plannedSchedule steps).countP (0 < ·.2) = waitCount steps := by
  cases steps with
  | nil => rfl
  | cons step r =>
    rw [plannedSchedule, List.countP_cons, List.countP_map]
    rfl

/-- Where emails are numbered in order, the number of an email tells its place. -/
theorem sequence_of_numbered {steps : List WrittenStep}
    (hnumbered : steps.map (·.sequence.val) = List.range' 1 steps.length) {i : Nat}
    {step : WrittenStep} (hstep : steps[i]? = some step) : step.sequence.val = i + 1 := by
  have hi : i < steps.length := (List.getElem?_eq_some_iff.1 hstep).1
  have hplace := congrArg (·[i]?) hnumbered
  simp only [List.getElem?_map, hstep, Option.map_some, List.getElem?_range' hi,
    Option.some.injEq] at hplace
  omega

namespace Transcript

/-! ### Days in words -/

/-- A text names a number of days: in decimal digits, without a needless zero in front, before the
word for one day or for several. -/
inductive NamesDays (days : Nat) : String → Prop where
  /-- Digits that state the number, and the word. -/
  | digits {ds : List Char} (hdigits : ∀ c ∈ ds, c.isDigit) (hplain : ds.head? ≠ some '0')
      (hvalue : Nat.ofDigitChars 10 ds 0 = days) :
      NamesDays days (String.ofList ds ++ if days = 1 then " day" else " days")

/-- The words in which the library states days name them. -/
theorem namesDays_daysText {days : Decimal.Numeral} (h : 0 < days.val) :
    NamesDays days.val (daysText days) := by
  have htext : daysText days = String.ofList (Decimal.natText days.val) ++
      if days.val = 1 then " day" else " days" := by
    have hword : (if 1 < days.val then " days" else " day") =
        if days.val = 1 then " day" else " days" := by
      by_cases hone : days.val = 1
      · rw [if_neg (by omega), if_pos hone]
      · rw [if_pos (by omega), if_neg hone]
    rw [daysText, hword, Decimal.Numeral.text, Nat.toString_eq_ofList_toDigits]
    rfl
  rw [htext]
  exact .digits (fun c => Nat.isDigit_of_mem_toDigits (by decide) (by decide))
    (Decimal.head?_natText_ne h) Nat.ofDigitChars_ten_toDigits

/-! ### What is told of an email -/

/-- The line that announces an email. -/
def announcement (number : Nat) (subject : String) : String :=
  "✓ Email " ++ toString number ++ ": \"" ++ subject ++ "\""

/-- The line that announces how long an email waits, which is named in words. -/
def waitLine (days : String) : String :=
  "  → Send " ++ days ++ " after previous email"

/-- The line of the closing summary for an email that is sent at some time. -/
def timedLine (number : Nat) (subject time : String) : String :=
  "• Email " ++ toString number ++ ": \"" ++ subject ++ "\" (" ++ time ++ ")"

/-- What is told of the email at a place (counted from zero), where the schedule states its days:
`line` is its line in the closing summary. -/
structure Tells (place : Nat) (step : WrittenStep) (days : Nat) (line : String) : Prop where
  /-- It is announced, without another line if there are no days. -/
  announced : days = 0 → emailScheduled step = [announcement (place + 1) step.subject]
  /-- If there are days, a line behind names them. -/
  delayed : 0 < days → ∃ text, NamesDays days text ∧
    emailScheduled step = [announcement (place + 1) step.subject, waitLine text]
  /-- The summary says when it is sent. -/
  timed : ∃ time, line = timedLine (place + 1) step.subject time ∧
    (time = "immediately" ↔ place = 0) ∧
    ((∃ text, NamesDays days text ∧ time = text ++ " later") ↔ 0 < place ∧ 0 < days) ∧
    (time = "right after the previous email" ↔ 0 < place ∧ days = 0)

/-- When an email is sent, in the words of the closing summary. -/
def timing (place : Nat) (days : Decimal.Numeral) : String :=
  if place = 0 then "immediately"
  else if 0 < days.val then daysText days ++ " later"
  else "right after the previous email"

/-- A text that ends with this word is none of the two others. -/
theorem ne_append_later {s t : String} (h : s.toList.getLast? ≠ some 'r') :
    s ≠ t ++ " later" := by
  rintro rfl
  apply h
  rw [String.toList_append]
  exact List.getLast?_append_of_ne_nil _ (List.cons_ne_nil _ _)

/-- The words tell the cases apart. -/
theorem timing_iff {place scheduled : Nat} {days : Decimal.Numeral}
    (hscheduled : scheduled = if place = 0 then 0 else days.val) :
    (timing place days = "immediately" ↔ place = 0) ∧
      ((∃ text, NamesDays scheduled text ∧ timing place days = text ++ " later") ↔
        0 < place ∧ 0 < scheduled) ∧
      (timing place days = "right after the previous email" ↔ 0 < place ∧ scheduled = 0) := by
  -- the three wordings differ, so each decides which case it is
  have hnow : ∀ text, "immediately" ≠ text ++ " later" := fun _ => ne_append_later (by decide)
  have hnext : ∀ text, "right after the previous email" ≠ text ++ " later" :=
    fun _ => ne_append_later (by decide)
  have hdiffer : "immediately" ≠ "right after the previous email" := by decide
  unfold timing
  by_cases hplace : place = 0
  · simp [hplace, hnow, hdiffer]
  · rw [if_neg hplace] at hscheduled ⊢
    subst hscheduled
    have hpos : 0 < place := Nat.pos_of_ne_zero hplace
    by_cases hdays : 0 < days.val
    · rw [if_pos hdays]
      refine ⟨iff_of_false (hnow _).symm hplace, iff_of_true ⟨_, namesDays_daysText hdays, rfl⟩
        ⟨hpos, hdays⟩, iff_of_false (hnext _).symm fun h => ?_⟩
      exact hdays.ne' h.2
    · rw [if_neg hdays]
      refine ⟨iff_of_false hdiffer.symm hplace, iff_of_false ?_ fun h => hdays h.2,
        iff_of_true rfl ⟨hpos, Nat.eq_zero_of_not_pos hdays⟩⟩
      rintro ⟨text, -, htext⟩
      exact hnext text htext

/-- The line of an email in the closing summary. -/
theorem summaryLine_eq {place : Nat} {step : WrittenStep}
    (hnumber : step.sequence.val = place + 1) :
    summaryLine (place = 0) step =
      timedLine (place + 1) step.subject (timing place step.delayDays) := by
  have hfirst : toString 1 = "1" := rfl
  have htext : step.sequence.text = toString (place + 1) := congrArg toString hnumber
  apply String.toList_injective
  unfold summaryLine timedLine timing inQuotes
  by_cases hplace : place = 0
  · simp [hplace, hfirst]
  · by_cases hdays : 0 < step.delayDays.val
    · simp [hplace, hdays, htext]
    · simp [hplace, hdays, htext]

/-- An email is announced by one line, and by a second one if it is not the first and waits. -/
theorem emailScheduled_eq {place : Nat} {step : WrittenStep}
    (hnumber : step.sequence.val = place + 1) :
    emailScheduled step = announcement (place + 1) step.subject ::
      if 0 < place ∧ 0 < step.delayDays.val then [waitLine (daysText step.delayDays)] else [] := by
  have htext : step.sequence.text = toString (place + 1) := congrArg toString hnumber
  have hline : "✓ Email " ++ toString (place + 1) ++ ": " ++ inQuotes step.subject =
      announcement (place + 1) step.subject := by
    apply String.toList_injective
    simp [announcement, inQuotes]
  have hplace : 1 < step.sequence.val ↔ 0 < place := by omega
  simp only [emailScheduled, htext, hline, hplace]
  rfl

/-- Each email has its line in the closing summary, behind the three lines that open it. -/
theorem getElem?_summary (plan : Plan) (audience : TriggerAudience) {steps : List WrittenStep}
    {i : Nat} {step : WrittenStep} (hstep : steps[i]? = some step) :
    (summary plan steps audience)[i + 3]? = some (summaryLine (i = 0) step) := by
  have hline : (summaryLines steps)[i]? = some (summaryLine (i = 0) step) := by
    cases steps with
    | nil => cases hstep
    | cons first r =>
      cases i with
      | zero =>
        cases hstep
        rfl
      | succ i =>
        rw [List.getElem?_cons_succ] at hstep
        rw [summaryLines, List.getElem?_cons_succ, List.getElem?_map, hstep]
        rfl
  have hlength : i < (summaryLines steps).length := (List.getElem?_eq_some_iff.1 hline).1
  rw [summary, List.append_assoc, List.getElem?_append_right (Nat.le_add_left 3 i)]
  exact (List.getElem?_append_left hlength).trans hline

/-- What is told of an email agrees with its days in the schedule. -/
theorem tells_of_numbered {steps : List WrittenStep}
    (hnumbered : steps.map (·.sequence.val) = List.range' 1 steps.length) {i : Nat}
    {step : WrittenStep} (hstep : steps[i]? = some step) :
    Tells i step (if i = 0 then 0 else step.delayDays.val) (summaryLine (i = 0) step) := by
  have hnumber := sequence_of_numbered hnumbered hstep
  -- there are days just for an email that is not the first and has some
  have hdays : 0 < (if i = 0 then 0 else step.delayDays.val) ↔ 0 < i ∧ 0 < step.delayDays.val := by
    split_ifs <;> omega
  constructor
  case announced =>
    intro hnone
    rw [emailScheduled_eq hnumber, if_neg fun h => (hdays.2 h).ne' hnone]
  case delayed =>
    intro hsome
    obtain ⟨hi, hwaits⟩ := hdays.1 hsome
    rw [if_neg hi.ne', emailScheduled_eq hnumber]
    exact ⟨_, namesDays_daysText hwaits, by rw [if_pos ⟨hi, hwaits⟩]⟩
  case timed => exact ⟨_, summaryLine_eq hnumber, timing_iff rfl⟩

/-! ### What is told of a graph -/

/-- What is told of a graph with one trigger and some emails and delays. -/
structure TellsCounts (graph : FlowGraph) (emails delays : Nat) : Prop where
  /-- The lines. -/
  told : assembled graph =
    ["🔧 **Step 3: Assembling Flow**",
      "✓ Created " ++ toString graph.nodes.length ++ " nodes (1 trigger, " ++ toString emails ++
        " emails, " ++ toString delays ++ " delays)",
      "✓ Connected " ++ toString (graph.nodes.length - 1) ++ " steps",
      ""]
  /-- The counts add up. -/
  nodeCount : 1 + emails + delays = graph.nodes.length
  /-- Each count is that of its nodes. -/
  kinds : graph.countKind .trigger = 1 ∧ graph.countKind .email = emails ∧
    graph.countKind .delay = delays
  /-- There is one edge less. -/
  edgeCount : graph.edges.length + 1 = graph.nodes.length

/-- Of an assembled graph the emails and those that wait are told. -/
theorem tellsCounts_assembledGraph (triggerType : TriggerType) (audience : TriggerAudience)
    (steps : List WrittenStep) :
    TellsCounts (assembledGraph triggerType audience steps) steps.length
      (waitCount (inSequence steps)) := by
  have hlayout := laysOut_assembledGraph triggerType audience steps
  have htrigger := countKind_trigger_assembledGraph triggerType audience steps
  have hemails := countKind_email_assembledGraph triggerType audience steps
  have hsorted : (inSequence steps).length = steps.length := List.length_mergeSort steps
  have hnodes := hlayout.nodeCount
  have hedges := hlayout.edgeCount
  rw [hsorted] at hnodes hedges
  -- the number told is that of the edges, which is one less than that of the nodes
  have hless : (assembledGraph triggerType audience steps).nodes.length - 1 =
      (assembledGraph triggerType audience steps).edges.length := by
    omega
  constructor
  case told =>
    have hone : " nodes (" ++ (toString 1 ++ " trigger, ") = " nodes (1 trigger, " := rfl
    rw [assembled, htrigger, hemails, hlayout.delayCount, hless, ← hone]
    simp only [String.append_assoc]
  case nodeCount => exact hnodes.symm
  case kinds => exact ⟨htrigger, hemails, hlayout.delayCount⟩
  case edgeCount => omega

end Transcript

/-- Emails that are numbered in order are assembled to a graph with a schedule. What the transcript
tells of each email, when it is stored and in the closing summary, agrees with its days in the
schedule; and what it tells of the graph are one trigger, the emails, and the days in the schedule.
-/
theorem transcript_tells_schedule (plan : Plan) (audience : TriggerAudience)
    {steps : List WrittenStep} (hsome : steps ≠ [])
    (hnumbered : steps.map (·.sequence.val) = List.range' 1 steps.length) :
    ∃ graph schedule, assemble plan audience steps = .ok graph ∧ graph.schedule = .ok schedule ∧
      schedule.length = steps.length ∧
      (∀ (i : Nat) (subject : String) (days : Nat), schedule[i]? = some (subject, days) →
        ∃ step line, steps[i]? = some step ∧ step.subject = subject ∧
          (Transcript.summary plan steps audience)[i + 3]? = some line ∧
          Transcript.Tells i step days line) ∧
      Transcript.TellsCounts graph steps.length (schedule.countP (0 < ·.2)) := by
  have horder := inSequence_of_numbered hnumbered
  have hschedule := schedule_assembledGraph plan.triggerType audience steps
  have hcounts := Transcript.tellsCounts_assembledGraph plan.triggerType audience steps
  -- numbered steps are in sequence, so the schedule is that of the steps as listed
  rw [horder] at hschedule hcounts
  refine ⟨_, _, assemble_eq_ok hsome, hschedule, length_plannedSchedule steps, ?_, ?_⟩
  · intro i subject days hdays
    rw [getElem?_plannedSchedule] at hdays
    obtain ⟨step, hstep, hpair⟩ := Option.map_eq_some_iff.1 hdays
    obtain ⟨rfl, rfl⟩ := Prod.mk.inj hpair
    exact ⟨step, _, hstep, rfl, Transcript.getElem?_summary plan audience hstep,
      Transcript.tells_of_numbered hnumbered hstep⟩
  · rw [countP_plannedSchedule]
    exact hcounts

/-- A greeting and two reminders, one of them at once. -/
def reminderSteps : List WrittenStep :=
  [⟨.first, .ofNat 5, "Hello", "id-1"⟩, ⟨.ofNat 2, .zero, "Again", "id-2"⟩,
    ⟨.ofNat 3, .ofNat 2, "Last call", "id-3"⟩]

/-- The greeting does not wait for its days, and only the last reminder has a delay. -/
theorem reminders_told :
    reminderSteps ≠ [] ∧
      reminderSteps.map (·.sequence.val) = List.range' 1 reminderSteps.length ∧
      ∃ graph, assemble greetingPlan {} reminderSteps = .ok graph ∧
        graph.schedule = .ok [("Hello", 0), ("Again", 0), ("Last call", 2)] ∧
        (Transcript.summary greetingPlan reminderSteps {})[5]? =
          some "• Email 3: \"Last call\" (2 days later)" ∧
        Transcript.TellsCounts graph 3 1 := by
  have hsome : reminderSteps ≠ [] := List.cons_ne_nil _ _
  have hnumbered : reminderSteps.map (·.sequence.val) = List.range' 1 reminderSteps.length := rfl
  refine ⟨hsome, hnumbered, ?_⟩
  obtain ⟨graph, schedule, hgraph, hschedule, -, -, hcounts⟩ :=
    transcript_tells_schedule greetingPlan {} hsome hnumbered
  obtain rfl : schedule = [("Hello", 0), ("Again", 0), ("Last call", 2)] := by
    have hplanned := schedule_assembledGraph greetingPlan.triggerType {} reminderSteps
    rw [inSequence_of_numbered hnumbered] at hplanned
    cases (assemble_eq_ok hsome).symm.trans hgraph
    exact Except.ok.inj (hschedule.symm.trans hplanned)
  exact ⟨graph, hgraph, hschedule, rfl, hcounts⟩

end FlowBuilder
