import FlowBuilder.Plan.Coercion

/-!
# Normal plans

`Plan.ofJson` turns a decoded object into a plan. Fields that it does not know are ignored, fields
that are missing take their defaults, and the emails are put in the order of their stated places and
numbered anew; an email without a usable place counts by its position in the list. The fields are
read one after another, and the first one that cannot be read ends the reading.
-/

namespace FlowBuilder

/-- An entry of a plan's list of emails, with what decides its place. -/
structure PlacedEntry where
  /-- The stated place, or the position in the list. -/
  key : Nat
  /-- The position in the list, from one on. -/
  position : Nat
  /-- The entry. -/
  entry : Json

namespace PlacedEntry

/-- Entries stand in the order of their keys; those with one key in the order of the list. -/
def le (a b : PlacedEntry) : Bool :=
  a.key < b.key || (a.key == b.key && a.position ≤ b.position)

/-- An entry with its key. -/
def ofEntry (entry : Json) (position : Nat) : Except Fault PlacedEntry := do
  let stated ← sequenceOfJson (entry.fieldD "sequence")
  return ⟨(stated.map (·.val)).getD position, position, entry⟩

end PlacedEntry

/-- The email number `n + 1` that an entry states. -/
def EmailStep.ofEntry (limits : DepthLimits) (n : Nat) (entry : Json) : Except Fault EmailStep := do
  let sequence ← placeAfter n
  let days ← delayOfJson (entry.fieldD "delayDays")
  let delayDays ← numeral days
  let subject ← textOfJson limits (entry.fieldD "subject")
  let purpose ← textOfJson limits (entry.fieldD "purpose")
  let keyMessage ← textOfJson limits (entry.fieldD "keyMessage")
  let cta ← textOfJson limits (entry.fieldD "cta")
  return { sequence, delayDays, subject, purpose, keyMessage, cta }

/-- The emails that a list of entries states, numbered from `n + 1` on. -/
def stepsFrom (limits : DepthLimits) (n : Nat) : List Json → Except Fault (List EmailStep)
  | [] => .ok []
  | entry :: r => do
    let step ← EmailStep.ofEntry limits n entry
    let rest ← stepsFrom limits (n + 1) r
    return step :: rest

section

variable {limits : DepthLimits}

/-- Entries are read one by one, each at the number after the last. -/
theorem stepsFrom_cons_eq_ok {n : Nat} {entry : Json} {r : List Json} {steps : List EmailStep}
    (h : stepsFrom limits n (entry :: r) = .ok steps) :
    ∃ step rest, EmailStep.ofEntry limits n entry = .ok step ∧
      stepsFrom limits (n + 1) r = .ok rest ∧ steps = step :: rest := by
  obtain ⟨step, hstep, h⟩ := bind_eq_ok.1 h
  obtain ⟨rest, hrest, h⟩ := bind_eq_ok.1 h
  cases h
  exact ⟨step, rest, hstep, hrest, rfl⟩

/-- An email that is read takes all its fields from its entry, and its place from its position. -/
theorem EmailStep.ofEntry_eq_ok_iff {n : Nat} {entry : Json} {step : EmailStep} :
    EmailStep.ofEntry limits n entry = .ok step ↔ step.sequence.val = n + 1 ∧
      delayOfJson (entry.fieldD "delayDays") = .ok step.delayDays.val ∧
      textOfJson limits (entry.fieldD "subject") = .ok step.subject ∧
      textOfJson limits (entry.fieldD "purpose") = .ok step.purpose ∧
      textOfJson limits (entry.fieldD "keyMessage") = .ok step.keyMessage ∧
      textOfJson limits (entry.fieldD "cta") = .ok step.cta := by
  simp only [EmailStep.ofEntry, bind_eq_ok, placeAfter_eq_ok_iff, numeral_eq_ok_iff]
  constructor
  · rintro ⟨sequence, hsequence, days, hdays, delayDays, rfl, subject, hsubject, purpose, hpurpose,
      keyMessage, hmessage, cta, hcta, h⟩
    cases h
    exact ⟨hsequence, hdays, hsubject, hpurpose, hmessage, hcta⟩
  · rintro ⟨hsequence, hdays, hsubject, hpurpose, hmessage, hcta⟩
    exact ⟨_, hsequence, _, hdays, _, rfl, _, hsubject, _, hpurpose, _, hmessage, _, hcta, rfl⟩

/-- A step has the number that follows its position. -/
theorem sequence_ofEntry {n : Nat} {entry : Json} {step : EmailStep}
    (h : EmailStep.ofEntry limits n entry = .ok step) : step.sequence.val = n + 1 :=
  (EmailStep.ofEntry_eq_ok_iff.1 h).1

/-- The emails are numbered in order. -/
theorem stepsFrom_numbered {n : Nat} {entries : List Json} {steps : List EmailStep}
    (h : stepsFrom limits n entries = .ok steps) :
    steps.map (·.sequence.val) = List.range' (n + 1) steps.length := by
  induction entries generalizing n steps with
  | nil => cases h; rfl
  | cons entry r ih =>
    obtain ⟨step, rest, hstep, hrest, rfl⟩ := stepsFrom_cons_eq_ok h
    simp [sequence_ofEntry hstep, ih hrest, List.range'_succ]

/-- No entry is lost. -/
theorem stepsFrom_length {n : Nat} {entries : List Json} {steps : List EmailStep}
    (h : stepsFrom limits n entries = .ok steps) : steps.length = entries.length := by
  induction entries generalizing n steps with
  | nil => cases h; rfl
  | cons entry r ih =>
    obtain ⟨step, rest, -, hrest, rfl⟩ := stepsFrom_cons_eq_ok h
    simp [ih hrest]

end

/-- Whether a value is an object. -/
def Json.isObject : Json → Bool
  | .object _ => true
  | _ => false

/-- The entries of a plan's list of emails, of which there must be one at least. -/
def planEntries (limits : DepthLimits) (raw : Json) :
    Except (Failure PlanDefect) { entries : List Json // entries ≠ [] } :=
  match raw.fieldD "emails" with
  | .array (entry :: r) =>
    match (entry :: r).find? (!·.isObject) with
    | some odd =>
      match odd.inner limits.display with
      | .ok shown => .error (.error (.stepNotObject (String.ofList shown)))
      | .error f => .error (.fault f)
    | none => .ok ⟨entry :: r, List.cons_ne_nil entry r⟩
  | _ => .error (.error .noSteps)

/-- Entries with their keys, the first of them at position `n`. -/
def placedFrom (n : Nat) : List Json → Except Fault (List PlacedEntry)
  | [] => .ok []
  | entry :: r => do
    let placed ← PlacedEntry.ofEntry entry n
    let rest ← placedFrom (n + 1) r
    return placed :: rest

/-- Placing keeps the entries. -/
theorem map_entry_placedFrom {n : Nat} {entries : List Json} {placed : List PlacedEntry}
    (h : placedFrom n entries = .ok placed) : placed.map (·.entry) = entries := by
  induction entries generalizing n placed with
  | nil => cases h; rfl
  | cons entry r ih =>
    obtain ⟨p, hp, h⟩ := bind_eq_ok.1 h
    obtain ⟨rest, hrest, h⟩ := bind_eq_ok.1 h
    obtain ⟨stated, -, hentry⟩ := bind_eq_ok.1 hp
    cases h
    cases hentry
    rw [List.map_cons, ih hrest]

/-- The entries in the order in which the plan takes them. -/
def orderedEntries (entries : List Json) : Except Fault (List Json) := do
  let placed ← placedFrom 1 entries
  return (placed.mergeSort PlacedEntry.le).map (·.entry)

/-- Ordering keeps the entries. -/
theorem orderedEntries_perm {entries ordered : List Json}
    (h : orderedEntries entries = .ok ordered) : ordered.Perm entries := by
  obtain ⟨placed, hplaced, h⟩ := bind_eq_ok.1 h
  cases h
  rw [← map_entry_placedFrom hplaced]
  exact (List.mergeSort_perm placed PlacedEntry.le).map (·.entry)

/-- The emails that entries state, in the plan's order and with its numbers. -/
def orderedSteps (limits : DepthLimits) (entries : List Json) : Except Fault (List EmailStep) := do
  let ordered ← orderedEntries entries
  stepsFrom limits 0 ordered

section

variable {limits : DepthLimits}

/-- Entries are put in order before any is read as a step. -/
theorem orderedSteps_eq_ok {entries : List Json} {steps : List EmailStep}
    (h : orderedSteps limits entries = .ok steps) :
    ∃ ordered, orderedEntries entries = .ok ordered ∧ stepsFrom limits 0 ordered = .ok steps :=
  bind_eq_ok.1 h

/-- The emails of a plan are numbered from one on. -/
theorem orderedSteps_numbered {entries : List Json} {steps : List EmailStep}
    (h : orderedSteps limits entries = .ok steps) :
    steps.map (·.sequence.val) = List.range' 1 steps.length := by
  obtain ⟨_, -, hs⟩ := orderedSteps_eq_ok h
  exact stepsFrom_numbered hs

/-- There are as many emails as entries. -/
theorem orderedSteps_length {entries : List Json} {steps : List EmailStep}
    (h : orderedSteps limits entries = .ok steps) : steps.length = entries.length := by
  obtain ⟨_, ho, hs⟩ := orderedSteps_eq_ok h
  rw [stepsFrom_length hs, (orderedEntries_perm ho).length_eq]

/-- Where there are entries, there are steps. -/
theorem orderedSteps_ne_nil {entries : List Json} {steps : List EmailStep} (hne : entries ≠ [])
    (h : orderedSteps limits entries = .ok steps) : steps ≠ [] := by
  have hlen := orderedSteps_length h
  intro hnil
  rw [hnil, List.length_nil] at hlen
  exact hne (List.eq_nil_of_length_eq_zero hlen.symm)

end

/-- The name of a plan: the one that it states, or one made from its type. -/
def planName (limits : DepthLimits) (flowType : FlowType) (raw : Json) : Except Fault String := do
  let stated ← textOfJson limits (raw.fieldD "flowName")
  return if stated = "" then flowType.title ++ " Flow" else stated

/-- The plan that an object states whose emails are the given entries. -/
def Plan.ofEntries (limits : DepthLimits) (raw : Json) (entries : List Json) (hne : entries ≠ []) :
    Except Fault Plan := do
  let flowType ← FlowType.ofJson limits (raw.fieldD "flowType")
  let triggerType ← TriggerType.ofJson limits (raw.fieldD "triggerType")
  let flowName ← planName limits flowType raw
  match h : orderedSteps limits entries with
  | .error f => .error f
  | .ok emails =>
    let description ← textOfJson limits (raw.fieldD "description")
    let targetAudience ← textOfJson limits (raw.fieldD "targetAudience")
    return {
      flowType, flowName, description, triggerType, targetAudience, emails
      numbered := orderedSteps_numbered h
      nonempty := orderedSteps_ne_nil hne h }

/-- All that a plan takes from the object that states it, besides the list of its entries. -/
theorem Plan.ofEntries_eq_ok_iff {limits : DepthLimits} {raw : Json} {entries : List Json}
    {hne : entries ≠ []} {p : Plan} :
    Plan.ofEntries limits raw entries hne = .ok p ↔
      FlowType.ofJson limits (raw.fieldD "flowType") = .ok p.flowType ∧
      TriggerType.ofJson limits (raw.fieldD "triggerType") = .ok p.triggerType ∧
      planName limits p.flowType raw = .ok p.flowName ∧
      orderedSteps limits entries = .ok p.emails ∧
      textOfJson limits (raw.fieldD "description") = .ok p.description ∧
      textOfJson limits (raw.fieldD "targetAudience") = .ok p.targetAudience := by
  simp only [Plan.ofEntries, bind_eq_ok]
  constructor
  · rintro ⟨flowType, htype, triggerType, htrigger, flowName, hname, h⟩
    split at h
    · cases h
    · next emails hemails =>
      obtain ⟨description, hdescription, h⟩ := bind_eq_ok.1 h
      obtain ⟨audience, haudience, h⟩ := bind_eq_ok.1 h
      cases h
      exact ⟨htype, htrigger, hname, hemails, hdescription, haudience⟩
  · rintro ⟨htype, htrigger, hname, hemails, hdescription, haudience⟩
    refine ⟨_, htype, _, htrigger, _, hname, ?_⟩
    split
    · next f hf =>
      rw [hemails] at hf
      cases hf
    · next emails hok =>
      rw [hemails] at hok
      cases hok
      exact bind_eq_ok.2 ⟨_, hdescription, bind_eq_ok.2 ⟨_, haudience, rfl⟩⟩

/-- The plan that a decoded object states. -/
def Plan.ofJson (limits : DepthLimits) (raw : Json) : Except (Failure PlanDefect) Plan :=
  match planEntries limits raw with
  | .error e => .error e
  | .ok ⟨entries, hne⟩ => orFault (Plan.ofEntries limits raw entries hne)

/-- All that a plan takes from the object that states it. -/
theorem Plan.ofJson_eq_ok_iff {limits : DepthLimits} {raw : Json} {p : Plan} :
    Plan.ofJson limits raw = .ok p ↔ ∃ entries, planEntries limits raw = .ok entries ∧
      FlowType.ofJson limits (raw.fieldD "flowType") = .ok p.flowType ∧
      TriggerType.ofJson limits (raw.fieldD "triggerType") = .ok p.triggerType ∧
      planName limits p.flowType raw = .ok p.flowName ∧
      orderedSteps limits entries.val = .ok p.emails ∧
      textOfJson limits (raw.fieldD "description") = .ok p.description ∧
      textOfJson limits (raw.fieldD "targetAudience") = .ok p.targetAudience := by
  rw [Plan.ofJson]
  match hentries : planEntries limits raw with
  | .error e => exact ⟨nofun, fun ⟨_, h, _⟩ => nomatch h⟩
  | .ok ⟨entries, hne⟩ =>
    rw [orFault_eq_ok_iff, Plan.ofEntries_eq_ok_iff]
    constructor
    · exact fun h => ⟨_, rfl, h⟩
    · rintro ⟨_, ⟨⟩, h⟩
      exact h

end FlowBuilder
