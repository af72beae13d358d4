import FlowBuilder.Proofs.Plan.Outcomes
import FlowBuilder.Proofs.Text.Trim

/-!
# The normal form of plans

Reading a proposed plan is a projection. What it gives is in normal form (`Plan.IsNormal`): the flow
has a name, no text has blanks around it, and the emails are numbered in order. A plan in normal
form that is proposed again, under the keys that a model uses, is read as it is.

* `isTrimmed_textOfJson`: whatever a field states, its text is trimmed.
* `isNormal_of_ofJson`: plans that are read are in normal form.
* `ofJson_proposal`: plans in normal form are read from their own proposals.
-/

namespace FlowBuilder

open Text

/-! ### Values as text -/

/-- No digit of a natural number is blank. -/
theorem isBlank_of_mem_natText {n : Nat} : ∀ c ∈ Decimal.natText n, isBlank c = false :=
  fun _ hc => isBlank_of_isDigit (Nat.isDigit_of_mem_toDigits (by decide) (by decide) hc)

/-- No character of a whole number is blank. -/
theorem isBlank_of_mem_intText {n : Int} : ∀ c ∈ Decimal.intText n, isBlank c = false := by
  cases n with
  | ofNat n => exact isBlank_of_mem_natText
  | negSucc n => exact List.forall_mem_cons.2 ⟨by decide, isBlank_of_mem_natText⟩

/-- Zeros are not blank. -/
theorem isBlank_of_mem_zeros {n : Nat} : ∀ c ∈ List.replicate n '0', isBlank c = false := by
  intro c hc
  rw [List.eq_of_mem_replicate hc]
  decide

section

variable {ds : List Char} (hds : ∀ c ∈ ds, isBlank c = false) (point : Int)

include hds

/-- No character of a number with a point is blank. -/
theorem isBlank_of_mem_positional :
    ∀ c ∈ Decimal.Layout.standard.positional ds point, isBlank c = false := by
  rw [Decimal.Layout.positional]
  split_ifs
  · simp only [List.cons_append, List.forall_mem_cons, List.forall_mem_append]
    exact ⟨by decide, by decide, isBlank_of_mem_zeros, hds⟩
  · simp only [List.forall_mem_append]
    exact ⟨⟨hds, isBlank_of_mem_zeros⟩, isBlank_of_mem rfl⟩
  · simp only [List.forall_mem_append, List.forall_mem_cons]
    exact ⟨fun c hc => hds c (List.mem_of_mem_take hc), by decide,
      fun c hc => hds c (List.mem_of_mem_drop hc)⟩

/-- No character of a number with an exponent is blank. -/
theorem isBlank_of_mem_scientific :
    ∀ c ∈ Decimal.Layout.standard.scientific ds point, isBlank c = false := by
  have hsign : ∀ c ∈ ['e', if point - 1 < 0 then '-' else '+'], isBlank c = false := by
    split_ifs <;> exact isBlank_of_mem rfl
  unfold Decimal.Layout.scientific
  simp only [List.forall_mem_append]
  refine ⟨⟨⟨?_, hsign⟩, isBlank_of_mem_zeros⟩, isBlank_of_mem_natText⟩
  -- the first digit stands before the point, if there are others
  match ds, hds with
  | d :: d' :: r, hds =>
    rw [List.forall_mem_cons] at hds
    exact List.forall_mem_cons.2 ⟨hds.1, List.forall_mem_cons.2 ⟨rfl, hds.2⟩⟩
  | [d], hds => exact hds
  | [], hds => exact hds

end

/-- No character of a floating-point number is blank. -/
theorem isBlank_of_mem_floatText {x : Float} : ∀ c ∈ Decimal.floatText x, isBlank c = false := by
  have hsign : ∀ negative : Bool, ∀ c ∈ if negative then ['-'] else [], isBlank c = false := by
    intro negative
    cases negative <;> exact isBlank_of_mem rfl
  rw [Decimal.floatText]
  cases Decimal.Binary.ofFloat x with
  | nan => exact isBlank_of_mem rfl
  | infinite negative => cases negative <;> exact isBlank_of_mem rfl
  | finite negative m e =>
    simp only [Decimal.Layout.text, List.forall_mem_append]
    refine ⟨hsign negative, ?_⟩
    split_ifs
    · exact isBlank_of_mem rfl
    · exact isBlank_of_mem_positional isBlank_of_mem_natText _
    · exact isBlank_of_mem_scientific isBlank_of_mem_natText _

/-- Only a string that stands alone is shown with blanks around it. -/
theorem isTrimmed_of_inner {room : Nat} {j : Json} (hj : ∀ s, j ≠ .string s) {cs : List Char}
    (h : j.inner room = .ok cs) : IsTrimmed cs := by
  -- numbers and words hold no blank at all; lists and objects stand in brackets
  match j, room with
  | .null, _ =>
    cases h
    exact isTrimmed_of_forall (isBlank_of_mem rfl)
  | .bool b, _ =>
    cases h
    cases b <;> exact isTrimmed_of_forall (isBlank_of_mem rfl)
  | .int n, _ =>
    unfold Json.inner at h
    split at h
    · cases h
      exact isTrimmed_of_forall isBlank_of_mem_intText
    · cases h
  | .float x, _ =>
    cases h
    exact isTrimmed_of_forall isBlank_of_mem_floatText
  | .string s, _ => exact absurd rfl (hj s)
  | .array [], _ | .object [], _ =>
    cases h
    exact isTrimmed_enclosed (by decide) (by decide) []
  | .array (_ :: _), 0 | .object (_ :: _), 0 => cases h
  | .array (j :: r), room + 1 =>
    obtain ⟨entries, -, h⟩ := bind_eq_ok.1 h
    cases h
    exact isTrimmed_enclosed (by decide) (by decide) _
  | .object (m :: r), room + 1 =>
    obtain ⟨entries, -, h⟩ := bind_eq_ok.1 h
    cases h
    exact isTrimmed_enclosed (by decide) (by decide) _

/-- Whatever a field states, its text is trimmed: a string is trimmed by reading it, and any other
value reads as a text that has no blanks around it. -/
theorem isTrimmed_textOfJson {limits : DepthLimits} {j : Json} {s : String}
    (h : textOfJson limits j = .ok s) : IsTrimmed s.toList := by
  have hshown : (∀ t, j ≠ .string t) → j.display limits.display = .ok s → IsTrimmed s.toList := by
    intro hj hdisplay
    have hinner : (j.inner limits.display).map String.ofList = .ok s := by
      cases j with
      | string t => exact absurd rfl (hj t)
      | _ => exact hdisplay
    match hcs : j.inner limits.display, hinner with
    | .ok cs, hinner =>
      cases hinner
      rw [String.toList_ofList]
      exact isTrimmed_of_inner hj hcs
  cases j with
  | null =>
    cases h
    exact isTrimmed_of_forall nofun
  | string t =>
    cases h
    rw [strip, String.toList_ofList]
    exact isTrimmed_trim _
  | bool | int | float | array | object => exact hshown nofun h

/-- A trimmed text is read as it is. -/
theorem textOfJson_text {limits : DepthLimits} {s : String} (h : IsTrimmed s.toList) :
    textOfJson limits (.text s) = .ok s := by
  rw [Json.text, textOfJson, Glyph.toString_ofString, strip, trim_eq_self_iff.2 h,
    String.ofList_toList]

/-! ### Plans in normal form -/

/-- The texts of an email. -/
def EmailStep.texts (s : EmailStep) : List String :=
  [s.subject, s.purpose, s.keyMessage, s.cta]

/-- The texts of a plan and its emails. -/
def Plan.texts (p : Plan) : List String :=
  [p.flowName, p.description, p.targetAudience] ++ p.emails.flatMap (·.texts)

/-- A plan in normal form. -/
structure Plan.IsNormal (p : Plan) : Prop where
  /-- The flow has a name. -/
  named : p.flowName ≠ ""
  /-- No text has blanks around it. -/
  trimmed : ∀ s ∈ p.texts, IsTrimmed s.toList
  /-- No email is sent before its turn. -/
  delays : ∀ s ∈ p.emails, 0 ≤ (s.delayDays.val : Int)
  /-- The emails are numbered from one on. -/
  numbers : p.emails.map (·.sequence.val) = List.range' 1 p.emails.length

/-- An email under the keys that a model uses. -/
def EmailStep.proposal (s : EmailStep) : Json :=
  .obj [("sequence", .nat s.sequence.val), ("delayDays", .nat s.delayDays.val),
    ("subject", .text s.subject), ("purpose", .text s.purpose),
    ("keyMessage", .text s.keyMessage), ("cta", .text s.cta)]

/-- A plan under the keys that a model uses. -/
def Plan.proposal (p : Plan) : Json :=
  .obj [("flowType", .text p.flowType.value), ("flowName", .text p.flowName),
    ("description", .text p.description), ("triggerType", .text p.triggerType.value),
    ("targetAudience", .text p.targetAudience), ("emails", .array (p.emails.map (·.proposal)))]

/-! ### What is read is normal -/

section Read

variable {limits : DepthLimits}

/-- The texts of an email that is read are trimmed. -/
theorem isTrimmed_of_ofEntry {n : Nat} {entry : Json} {step : EmailStep}
    (h : EmailStep.ofEntry limits n entry = .ok step) :
    ∀ s ∈ step.texts, IsTrimmed s.toList := by
  obtain ⟨-, -, hsubject, hpurpose, hmessage, hcta⟩ := EmailStep.ofEntry_eq_ok_iff.1 h
  simp only [EmailStep.texts, List.forall_mem_cons]
  exact ⟨isTrimmed_textOfJson hsubject, isTrimmed_textOfJson hpurpose,
    isTrimmed_textOfJson hmessage, isTrimmed_textOfJson hcta, nofun⟩

/-- So are those of all emails. -/
theorem isTrimmed_of_stepsFrom {n : Nat} {entries : List Json} {steps : List EmailStep}
    (h : stepsFrom limits n entries = .ok steps) :
    ∀ step ∈ steps, ∀ s ∈ step.texts, IsTrimmed s.toList := by
  induction entries generalizing n steps with
  | nil =>
    cases h
    exact nofun
  | cons entry r ih =>
    obtain ⟨step, rest, hstep, hrest, rfl⟩ := stepsFrom_cons_eq_ok h
    rw [List.forall_mem_cons]
    exact ⟨isTrimmed_of_ofEntry hstep, ih hrest⟩

/-- A plan has a name, which is trimmed, whether it is stated or made from the type. -/
theorem planName_named {flowType : FlowType} {raw : Json} {name : String}
    (h : planName limits flowType raw = .ok name) : name ≠ "" ∧ IsTrimmed name.toList := by
  obtain ⟨stated, hstated, h⟩ := bind_eq_ok.1 h
  cases h
  split_ifs with hempty
  · cases flowType <;> exact ⟨by decide, trim_eq_self_iff.1 (by decide)⟩
  · exact ⟨hempty, isTrimmed_textOfJson hstated⟩

/-- A plan that is read is in normal form. -/
theorem isNormal_of_ofJson {raw : Json} {p : Plan} (h : Plan.ofJson limits raw = .ok p) :
    p.IsNormal := by
  obtain ⟨entries, -, -, -, hname, hsteps, hdescription, haudience⟩ := Plan.ofJson_eq_ok_iff.1 h
  obtain ⟨ordered, -, hsteps⟩ := orderedSteps_eq_ok hsteps
  obtain ⟨hnamed, htrimmed⟩ := planName_named hname
  constructor
  case named => exact hnamed
  case trimmed =>
    simp only [Plan.texts, List.forall_mem_append, List.forall_mem_cons, List.mem_flatMap]
    refine ⟨⟨htrimmed, isTrimmed_textOfJson hdescription, isTrimmed_textOfJson haudience, nofun⟩,
      ?_⟩
    rintro s ⟨step, hstep, hs⟩
    exact isTrimmed_of_stepsFrom hsteps step hstep s hs
  case delays => exact fun s _ => Int.natCast_nonneg s.delayDays.val
  case numbers => exact p.numbered

end Read

/-! ### What is normal is read as it is -/

section Proposals

variable {limits : DepthLimits}

/-- A type of flow is read from its value. -/
theorem FlowType.ofJson_value (t : FlowType) : FlowType.ofJson limits (.text t.value) = .ok t := by
  have hname : named? FlowType.names (.text t.value) = some t := by
    cases t <;> decide
  rw [FlowType.ofJson, namedOr, hname]

/-- A type of trigger is read from its value. -/
theorem TriggerType.ofJson_value (t : TriggerType) :
    TriggerType.ofJson limits (.text t.value) = .ok t := by
  have hname : named? TriggerType.names (.text t.value) = some t := by
    cases t <;> decide
  rw [TriggerType.ofJson, namedOr, hname]

/-- What a proposed email states in each of its fields. -/
theorem EmailStep.fieldD_proposal (s : EmailStep) :
    s.proposal.fieldD "sequence" = .nat s.sequence.val ∧
      s.proposal.fieldD "delayDays" = .nat s.delayDays.val ∧
      s.proposal.fieldD "subject" = .text s.subject ∧
      s.proposal.fieldD "purpose" = .text s.purpose ∧
      s.proposal.fieldD "keyMessage" = .text s.keyMessage ∧
      s.proposal.fieldD "cta" = .text s.cta := by
  simp [EmailStep.proposal, Json.obj, Json.fieldD, Json.field?]

/-- A natural number states itself as a delay. -/
theorem delayOfJson_nat (n : Nat) : delayOfJson (.nat n) = .ok n := rfl

/-- A place is read from its number. -/
theorem sequenceOfJson_nat (place : Place) :
    sequenceOfJson (.nat place.val) = .ok (some place.toPositive) := by
  show Except.ok (place? place.val) = _
  rw [place?, dif_pos place.property.1]
  rfl

/-- An email in its place is read from its proposal. -/
theorem ofEntry_proposal {s : EmailStep} {n : Nat} (hnumber : s.sequence.val = n + 1)
    (htexts : ∀ t ∈ s.texts, IsTrimmed t.toList) :
    EmailStep.ofEntry limits n s.proposal = .ok s := by
  obtain ⟨-, hdelay, hsubject, hpurpose, hmessage, hcta⟩ := s.fieldD_proposal
  simp only [EmailStep.texts, List.forall_mem_cons] at htexts
  obtain ⟨htrimmedSubject, htrimmedPurpose, htrimmedMessage, htrimmedCta, -⟩ := htexts
  rw [EmailStep.ofEntry_eq_ok_iff, hdelay, hsubject, hpurpose, hmessage, hcta]
  exact ⟨hnumber, delayOfJson_nat _, textOfJson_text htrimmedSubject,
    textOfJson_text htrimmedPurpose, textOfJson_text htrimmedMessage, textOfJson_text htrimmedCta⟩

/-- Emails that are numbered in order are read from their proposals. -/
theorem stepsFrom_proposals {steps : List EmailStep} {n : Nat}
    (hnumbers : steps.map (·.sequence.val) = List.range' (n + 1) steps.length)
    (htexts : ∀ s ∈ steps, ∀ t ∈ s.texts, IsTrimmed t.toList) :
    stepsFrom limits n (steps.map (·.proposal)) = .ok steps := by
  induction steps generalizing n with
  | nil => rfl
  | cons s r ih =>
    rw [List.map_cons, List.length_cons, List.range'_succ, List.cons.injEq] at hnumbers
    rw [List.forall_mem_cons] at htexts
    rw [List.map_cons, stepsFrom, ofEntry_proposal hnumbers.1 htexts.1,
      ih hnumbers.2 htexts.2]
    rfl

/-- Each of them takes the place that it states, which is its position too. -/
theorem placedFrom_proposals {steps : List EmailStep} {n : Nat}
    (hnumbers : steps.map (·.sequence.val) = List.range' n steps.length) :
    placedFrom n (steps.map (·.proposal)) =
      .ok (steps.map fun s => ⟨s.sequence.val, s.sequence.val, s.proposal⟩) := by
  induction steps generalizing n with
  | nil => rfl
  | cons s r ih =>
    rw [List.map_cons, List.length_cons, List.range'_succ, List.cons.injEq] at hnumbers
    obtain ⟨rfl, hrest⟩ := hnumbers
    have hplaced : PlacedEntry.ofEntry s.proposal s.sequence.val =
        .ok ⟨s.sequence.val, s.sequence.val, s.proposal⟩ := by
      rw [PlacedEntry.ofEntry, s.fieldD_proposal.1, sequenceOfJson_nat]
      rfl
    rw [List.map_cons, placedFrom, hplaced, ih hrest]
    rfl

/-- Entries in the order of their positions stay as they are. -/
theorem orderedEntries_proposals {steps : List EmailStep}
    (hnumbers : steps.map (·.sequence.val) = List.range' 1 steps.length) :
    orderedEntries (steps.map (·.proposal)) = .ok (steps.map (·.proposal)) := by
  have hsorted : (steps.map fun s => (⟨s.sequence.val, s.sequence.val, s.proposal⟩ :
      PlacedEntry)).Pairwise fun a b => PlacedEntry.le a b := by
    have hlt : (steps.map (·.sequence.val)).Pairwise (· < ·) := by
      rw [hnumbers]
      exact List.pairwise_lt_range'
    rw [List.pairwise_map] at hlt ⊢
    refine hlt.imp fun hab => ?_
    simp [PlacedEntry.le, hab]
  rw [orderedEntries, placedFrom_proposals hnumbers]
  show Except.ok ((List.mergeSort _ PlacedEntry.le).map _) = _
  rw [List.mergeSort_of_pairwise hsorted, List.map_map]
  rfl

/-- What a proposed plan states in each of its fields. -/
theorem Plan.fieldD_proposal (p : Plan) :
    p.proposal.fieldD "flowType" = .text p.flowType.value ∧
      p.proposal.fieldD "flowName" = .text p.flowName ∧
      p.proposal.fieldD "description" = .text p.description ∧
      p.proposal.fieldD "triggerType" = .text p.triggerType.value ∧
      p.proposal.fieldD "targetAudience" = .text p.targetAudience ∧
      p.proposal.fieldD "emails" = .array (p.emails.map (·.proposal)) := by
  simp [Plan.proposal, Json.obj, Json.fieldD, Json.field?]

/-- A proposed plan states its emails. -/
theorem planEntries_proposal (limits : DepthLimits) (p : Plan) :
    ∃ h, planEntries limits p.proposal = .ok ⟨p.emails.map (·.proposal), h⟩ := by
  obtain ⟨-, -, -, -, -, hemails⟩ := p.fieldD_proposal
  have hne : p.emails.map (·.proposal) ≠ [] := by
    rw [ne_eq, List.map_eq_nil_iff]
    exact p.nonempty
  refine ⟨hne, planEntries_eq_ok_iff.2 ⟨hemails, ?_⟩⟩
  intro entry hentry
  obtain ⟨s, -, rfl⟩ := List.mem_map.1 hentry
  rfl

/-- A plan in normal form that is proposed again is read as it is. -/
theorem ofJson_proposal {p : Plan} (h : p.IsNormal) : Plan.ofJson limits p.proposal = .ok p := by
  obtain ⟨htype, hname, hdescription, htrigger, haudience, -⟩ := p.fieldD_proposal
  obtain ⟨hne, hentries⟩ := planEntries_proposal limits p
  have htexts := h.trimmed
  simp only [Plan.texts, List.forall_mem_append, List.forall_mem_cons, List.mem_flatMap] at htexts
  obtain ⟨⟨htrimmedName, htrimmedDescription, htrimmedAudience, -⟩, hemails⟩ := htexts
  have hsteps : orderedSteps limits (p.emails.map (·.proposal)) = .ok p.emails := by
    rw [orderedSteps, orderedEntries_proposals h.numbers]
    exact stepsFrom_proposals h.numbers fun s hs t ht => hemails t ⟨s, hs, ht⟩
  -- the name that is stated is taken, as it is not empty
  have hplanName : planName limits p.flowType p.proposal = .ok p.flowName := by
    rw [planName, hname, textOfJson_text htrimmedName]
    exact congrArg Except.ok (if_neg h.named)
  refine Plan.ofJson_eq_ok_iff.2 ⟨_, hentries, ?_⟩
  rw [htype, hdescription, htrigger, haudience]
  exact ⟨FlowType.ofJson_value _, TriggerType.ofJson_value _, hplanName, hsteps,
    textOfJson_text htrimmedDescription, textOfJson_text htrimmedAudience⟩

/-- Reading is a projection onto the normal form: a plan that is read is in normal form, and it is
read again, as it is, from the object that proposes it under the keys that a model uses. -/
theorem reading_projects_onto_normal {raw : Json} {p : Plan} (h : Plan.ofJson limits raw = .ok p) :
    p.IsNormal ∧ Plan.ofJson limits p.proposal = .ok p :=
  ⟨isNormal_of_ofJson h, ofJson_proposal (isNormal_of_ofJson h)⟩

end Proposals

/-- Entries of emails out of order. -/
def oddEntries : List Json :=
  [.obj [("sequence", .text " 2 "), ("delayDays", .text "3 days"), ("subject", .text " Later ")],
    .obj [("sequence", .int 1), ("delayDays", .int (-4)), ("cta", .array [.null])]]

/-- A proposal with a number as its name and a blank description. -/
def oddProposal : Json :=
  .obj [("flowName", .int 7), ("description", .text "  "), ("flowType", .text " Win-Back "),
    ("emails", .array oddEntries)]

/-- It is read, and again from its plan. -/
theorem oddProposal_projects :
    ∃ p, Plan.ofJson .standard oddProposal = .ok p ∧ p.IsNormal ∧
      Plan.ofJson .standard p.proposal = .ok p := by
  have hentries : ∀ entry ∈ oddEntries, entry.Fits 2 := by
    refine List.forall_mem_cons.2 ⟨Json.fits_obj ?_, List.forall_mem_singleton.2 (Json.fits_obj ?_)⟩
    · simp only [List.forall_mem_cons]
      exact ⟨.string _, .string _, .string _, nofun⟩
    · simp only [List.forall_mem_cons]
      exact ⟨.int (by decide), .int (by decide), .array (List.forall_mem_singleton.2 .null), nofun⟩
  have hfits : oddProposal.Fits 4 := by
    refine Json.fits_obj ?_
    simp only [List.forall_mem_cons]
    exact ⟨.int (by decide), .string _, .string _, .array hentries, nofun⟩
  have hemails : oddProposal.fieldD "emails" = .array oddEntries := by
    simp [oddProposal, Json.obj, Json.fieldD, Json.field?]
  have hstates : oddProposal.StatesEmails := ⟨oddEntries, hemails, List.cons_ne_nil _ _, by decide⟩
  have hshallow : ¬ oddProposal.TypesTooDeep .standard := by decide
  have hreadable : ¬ oddProposal.StatesOverlong := by
    rintro ⟨entries, hentries, -, hoverlong⟩
    rw [hemails] at hentries
    cases hentries
    revert hoverlong
    decide
  -- it states its emails, and neither its types nor its numbers are too much for the reader
  obtain ⟨p, hp⟩ := (exists_ofJson_eq_ok_iff (hfits.mono (by decide))).2
    ⟨hstates, hshallow, hreadable⟩
  exact ⟨p, hp, reading_projects_onto_normal hp⟩

end FlowBuilder
