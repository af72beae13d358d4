import Mathlib.Data.List.Infix
import FlowBuilder.Plan.Location
import FlowBuilder.Proofs.Json.Decoded
import FlowBuilder.Proofs.Json.Shallow

/-!
# Unreadable replies

A reply without a plan is met by guidance; a reply that cannot be read at all ends the request.
Where the text of its object has been decoded, there are two ways for a reply to be so: the value
of a type nests too deep for the warning that no type is stated (`Json.TypesTooDeep`), or the object
states an email whose place or delay is a text of too many digits (`Json.StatesOverlong`).

* `sequenceOfJson_eq_error_iff`, `delayOfJson_eq_error_iff`: the numbers that cannot be read.
* `failsJust_orderedSteps`: the entries that cannot be put in order.
* `Plan.ofEntries_eq_error_iff`, `ofJson_eq_fault_iff`: which objects cannot be read.
-/

namespace FlowBuilder

/-! ### Overlong numbers -/

/-- Digits cannot be read just if there are too many. -/
theorem readDigits_eq_error_iff {ds : List Char} {f : Fault} :
    readDigits ds = .error f ↔ f = .numberTooLong ∧ Decimal.digitLimit < ds.length := by
  rw [readDigits]
  by_cases h : Decimal.digitLimit < ds.length
  · simp [h, eq_comm]
  · simp [h]

namespace Json

/-- A place in the sequence that is a text of too many digits, between blanks. -/
def OverlongPlace (j : Json) : Prop :=
  ∃ s, j = .string s ∧ (Text.trim (Glyph.toChars s)).all Char.isDigit ∧
    Decimal.digitLimit < (Text.trim (Glyph.toChars s)).length

/-- A delay that is a text which starts, after blanks, with too many digits. -/
def OverlongDelay (j : Json) : Prop :=
  ∃ s, j = .string s ∧
    Decimal.digitLimit < (((Glyph.toChars s).dropWhile Text.isBlank).takeWhile Char.isDigit).length

/-- An entry of a plan's list of emails with an overlong place or delay. -/
def OverlongEntry (entry : Json) : Prop :=
  (entry.fieldD "sequence").OverlongPlace ∨ (entry.fieldD "delayDays").OverlongDelay

/-- Entries of a plan's list of emails of which one is overlong, or too many to be numbered. -/
def OverlongEntries (entries : List Json) : Prop :=
  (∃ entry ∈ entries, entry.OverlongEntry) ∨ ¬ Decimal.Writable entries.length

/-- Where there is too much among entries, there are entries. -/
theorem OverlongEntries.ne_nil {entries : List Json} (h : OverlongEntries entries) :
    entries ≠ [] := by
  rintro rfl
  rcases h with ⟨entry, hmem, -⟩ | hlength
  · cases hmem
  · exact hlength (by decide)

/-- An object whose emails are a list of objects, and not empty. -/
def StatesEmails (raw : Json) : Prop :=
  ∃ entries, raw.fieldD "emails" = .array entries ∧ entries ≠ [] ∧ ∀ entry ∈ entries, entry.isObject

/-- An object whose emails are objects, and overlong. -/
def StatesOverlong (raw : Json) : Prop :=
  ∃ entries, raw.fieldD "emails" = .array entries ∧ (∀ entry ∈ entries, entry.isObject) ∧
    OverlongEntries entries

/-- An object with an overlong email states emails. -/
theorem StatesOverlong.statesEmails {raw : Json} (h : raw.StatesOverlong) : raw.StatesEmails := by
  obtain ⟨entries, hemails, hall, hoverlong⟩ := h
  exact ⟨entries, hemails, hoverlong.ne_nil, hall⟩

/-- An object that states no type of flow or trigger by a value that nests too deep to be shown. -/
def TypesTooDeep (limits : DepthLimits) (raw : Json) : Prop :=
  limits.warn < (raw.fieldD "flowType").room ∨ limits.warn < (raw.fieldD "triggerType").room

end Json

/-- Only an overlong place cannot be read. -/
theorem sequenceOfJson_eq_error_iff {j : Json} {f : Fault} :
    sequenceOfJson j = .error f ↔ f = .numberTooLong ∧ j.OverlongPlace := by
  cases j with
  | string s =>
    have hplace : Json.OverlongPlace (.string s) ↔
        (Text.trim (Glyph.toChars s)).all Char.isDigit ∧
          Decimal.digitLimit < (Text.trim (Glyph.toChars s)).length := by
      refine ⟨?_, fun h => ⟨s, rfl, h⟩⟩
      rintro ⟨_, ⟨⟩, h⟩
      exact h
    rw [hplace, sequenceOfJson]
    generalize Text.trim (Glyph.toChars s) = ds
    by_cases hdigits : ds ≠ [] ∧ ds.all Char.isDigit
    · show (if ds ≠ [] ∧ ds.all Char.isDigit then _ else _) = _ ↔ _
      rw [if_pos hdigits, ← and_assoc, and_right_comm, ← readDigits_eq_error_iff]
      refine ⟨fun h => ⟨?_, hdigits.2⟩, ?_⟩
      · match hread : readDigits ds, h with
        | .error _, h => cases h; rfl
      · rintro ⟨hread, -⟩
        rw [hread]
        rfl
    · -- no number is read, and one of too many digits would not be empty
      show (if ds ≠ [] ∧ ds.all Char.isDigit then _ else _) = _ ↔ _
      rw [if_neg hdigits]
      refine ⟨nofun, ?_⟩
      rintro ⟨-, hall, hlong⟩
      refine absurd ⟨?_, hall⟩ hdigits
      rintro rfl
      cases hlong
  | _ =>
    refine ⟨nofun, ?_⟩
    rintro ⟨-, _, h, -⟩
    cases h

/-- Only an overlong delay cannot be read. -/
theorem delayOfJson_eq_error_iff {j : Json} {f : Fault} :
    delayOfJson j = .error f ↔ f = .numberTooLong ∧ j.OverlongDelay := by
  cases j with
  | string s =>
    have hdelay : Json.OverlongDelay (.string s) ↔ Decimal.digitLimit <
        (((Glyph.toChars s).dropWhile Text.isBlank).takeWhile Char.isDigit).length := by
      refine ⟨?_, fun h => ⟨s, rfl, h⟩⟩
      rintro ⟨_, ⟨⟩, h⟩
      exact h
    rw [hdelay, delayOfJson]
    cases ((Glyph.toChars s).dropWhile Text.isBlank).takeWhile Char.isDigit with
    | nil =>
      refine ⟨nofun, ?_⟩
      rintro ⟨-, hlong⟩
      cases hlong
    | cons d ds => exact readDigits_eq_error_iff
  | _ =>
    refine ⟨nofun, ?_⟩
    rintro ⟨-, _, h, -⟩
    cases h

instance (j : Json) : Decidable j.OverlongPlace :=
  decidable_of_iff (sequenceOfJson j = .error .numberTooLong)
    (by simp [sequenceOfJson_eq_error_iff])

instance (j : Json) : Decidable j.OverlongDelay :=
  decidable_of_iff (delayOfJson j = .error .numberTooLong) (by simp [delayOfJson_eq_error_iff])

instance (entry : Json) : Decidable entry.OverlongEntry :=
  inferInstanceAs (Decidable (_ ∨ _))

instance (entries : List Json) : Decidable (Json.OverlongEntries entries) :=
  inferInstanceAs (Decidable (_ ∨ _))

instance (limits : DepthLimits) (raw : Json) : Decidable (raw.TypesTooDeep limits) :=
  inferInstanceAs (Decidable (_ ∨ _))

/-! ### Decoded fields -/

section Fields

variable {limits : DepthLimits} {d : Nat} {j : Json}

/-- The digits at the front of a text are digits. -/
theorem isDigit_of_mem_takeWhile {cs : List Char} : ∀ c ∈ cs.takeWhile Char.isDigit, c.isDigit :=
  List.all_eq_true.1 List.all_takeWhile

/-- The delay that a decoded value states can be written out. -/
theorem writable_of_delayOfJson (h : j.Fits d) {days : Nat} (hdays : delayOfJson j = .ok days) :
    Decimal.Writable days := by
  have hzero : Decimal.Writable 0 := by decide
  -- a decoded number has few digits, the whole part of a double is bounded, digits are counted
  cases h with
  | int hn =>
    cases hdays
    exact hn.of_le (Int.toNat_le.2 (Int.le_natAbs))
  | float x =>
    cases hdays
    show Decimal.Writable (((Decimal.Binary.ofFloat x).truncate?).getD 0).toNat
    match hwhole : (Decimal.Binary.ofFloat x).truncate? with
    | none => exact hzero
    | some n =>
      exact (Decimal.writable_of_truncate? hwhole).of_le (Int.toNat_le.2 (Int.le_natAbs))
  | string s =>
    unfold delayOfJson at hdays
    simp only at hdays
    split at hdays
    · cases hdays
      exact hzero
    · rw [readDigits] at hdays
      split at hdays
      · cases hdays
      · next hlength =>
        cases hdays
        exact Decimal.writable_natOfDigits isDigit_of_mem_takeWhile (Nat.le_of_not_lt hlength)
  | null | bool | array | object =>
    cases hdays
    exact hzero

/-- The text of a decoded value, which there is room to show. -/
theorem exists_textOfJson_eq_ok (h : j.Fits limits.display) : ∃ s, textOfJson limits j = .ok s := by
  obtain ⟨cs, hcs⟩ := h.exists_inner_eq_ok le_rfl
  cases j with
  | null | string => exact ⟨_, rfl⟩
  | _ =>
    refine ⟨String.ofList cs, ?_⟩
    rw [textOfJson, Json.display, hcs]
    all_goals first | rfl | nofun

/-- Where a decoded value states no name, it is refused just if the warning cannot show it. -/
theorem failsJust_namedOr {α : Type} (names : List (String × α)) (fallback : α) (h : j.Fits d)
    (room : Nat) : FailsJust (namedOr names fallback room j) .nestingTooDeep (room < j.room) := by
  unfold namedOr
  split
  · next a hnamed =>
    -- only a string states a name, and it takes no room
    cases h with
    | string => exact (FailsJust.ok a).congr (by simp [Json.room])
    | _ => cases hnamed
  · have hinner := h.failsJust_inner room
    rcases hshown : j.inner room with f | text
    · obtain ⟨rfl, hroom⟩ := (hinner f).1 hshown
      exact FailsJust.error.congr (iff_of_true trivial hroom)
    · exact (FailsJust.ok fallback).congr (iff_of_false id (hinner.not_of_eq_ok hshown))

end Fields

/-! ### Objects -/

/-- An entry is placed unless its place is a text of too many digits. -/
theorem failsJust_ofEntry_place (entry : Json) (position : Nat) :
    FailsJust (PlacedEntry.ofEntry entry position) .numberTooLong
      (entry.fieldD "sequence").OverlongPlace :=
  FailsJust.bind_ok fun _ => sequenceOfJson_eq_error_iff

/-- A position has a place after it unless that cannot be written out. -/
theorem failsJust_placeAfter (n : Nat) :
    FailsJust (placeAfter n) .numberTooLong (¬ Decimal.Writable (n + 1)) := by
  unfold placeAfter
  split
  · next h => exact (FailsJust.ok _).congr (iff_of_false id fun hnot => hnot h)
  · next h => exact FailsJust.error.congr (iff_of_true trivial h)

/-- The entries cannot be placed just if some place is overlong. -/
theorem failsJust_placedFrom (n : Nat) (entries : List Json) :
    FailsJust (placedFrom n entries) .numberTooLong
      (∃ entry ∈ entries, (entry.fieldD "sequence").OverlongPlace) := by
  induction entries generalizing n with
  | nil => exact (FailsJust.ok []).congr (by simp)
  | cons entry r ih =>
    rw [placedFrom]
    refine ((failsJust_ofEntry_place entry n).bind fun _ _ => (ih (n + 1)).bind_ok).congr ?_
    rw [List.exists_mem_cons_iff]

section Steps

variable {limits : DepthLimits}

/-- A decoded entry cannot be read as the email behind `n` others just if its delay is overlong, or
its number is. -/
theorem failsJust_ofEntry {entry : Json} (h : entry.Fits limits.display) (n : Nat) :
    FailsJust (EmailStep.ofEntry limits n entry) .numberTooLong
      (¬ Decimal.Writable (n + 1) ∨ (entry.fieldD "delayDays").OverlongDelay) := by
  have hfield : ∀ key, (entry.fieldD key).Fits limits.display :=
    fun key => (h.mono (Nat.le_succ _)).fieldD key
  -- the texts can all be shown, and the delay is written out if it can be read
  obtain ⟨subject, hsubject⟩ := exists_textOfJson_eq_ok (hfield "subject")
  obtain ⟨purpose, hpurpose⟩ := exists_textOfJson_eq_ok (hfield "purpose")
  obtain ⟨keyMessage, hmessage⟩ := exists_textOfJson_eq_ok (hfield "keyMessage")
  obtain ⟨cta, hcta⟩ := exists_textOfJson_eq_ok (hfield "cta")
  have hdelay : FailsJust (delayOfJson (entry.fieldD "delayDays")) .numberTooLong
      (entry.fieldD "delayDays").OverlongDelay := fun _ => delayOfJson_eq_error_iff
  rw [EmailStep.ofEntry]
  refine (failsJust_placeAfter n).bind fun sequence _ => ?_
  refine (hdelay.bind fun days hdays => ?_).congr (or_iff_left id)
  have hdays : numeral days = .ok ⟨days, writable_of_delayOfJson (hfield _) hdays⟩ :=
    numeral_eq_ok_iff.2 rfl
  exact .of_bind_eq_ok hdays <| .of_bind_eq_ok hsubject <| .of_bind_eq_ok hpurpose <|
    .of_bind_eq_ok hmessage <| .of_bind_eq_ok hcta <| .ok _

/-- Emails cannot be read just if some delay is overlong, or the last number is. -/
theorem failsJust_stepsFrom {entries : List Json}
    (h : ∀ entry ∈ entries, entry.Fits limits.display) (n : Nat) :
    FailsJust (stepsFrom limits n entries) .numberTooLong
      ((∃ entry ∈ entries, (entry.fieldD "delayDays").OverlongDelay) ∨
        entries ≠ [] ∧ ¬ Decimal.Writable (n + entries.length)) := by
  induction entries generalizing n with
  | nil => exact (FailsJust.ok []).congr (by simp)
  | cons entry r ih =>
    rw [List.forall_mem_cons] at h
    rw [stepsFrom]
    refine ((failsJust_ofEntry h.1 n).bind fun _ _ => (ih h.2 (n + 1)).bind_ok).congr ?_
    have hlength : n + (entry :: r).length = n + 1 + r.length := by
      rw [List.length_cons]
      omega
    -- a number that is too long has only longer ones behind it
    have hlast : (¬ Decimal.Writable (n + 1) ∨ r ≠ [] ∧ ¬ Decimal.Writable (n + 1 + r.length)) ↔
        ¬ Decimal.Writable (n + 1 + r.length) := by
      constructor
      · rintro (hfirst | ⟨-, hlast⟩)
        · exact fun hlast => hfirst (hlast.of_le (Nat.le_add_right _ _))
        · exact hlast
      · intro hlast
        cases r with
        | nil => exact Or.inl hlast
        | cons => exact Or.inr ⟨List.cons_ne_nil _ _, hlast⟩
    rw [List.exists_mem_cons_iff, hlength, and_iff_right (List.cons_ne_nil entry r)]
    refine Iff.trans ?_ (or_congr_right hlast)
    simp only [or_assoc, or_left_comm, or_comm]

/-- Decoded entries cannot be put in order just if they are overlong. -/
theorem failsJust_orderedSteps {entries : List Json}
    (h : ∀ entry ∈ entries, entry.Fits limits.display) :
    FailsJust (orderedSteps limits entries) .numberTooLong (Json.OverlongEntries entries) := by
  have hordered : FailsJust (orderedEntries entries) .numberTooLong
      (∃ entry ∈ entries, (entry.fieldD "sequence").OverlongPlace) :=
    (failsJust_placedFrom 1 entries).bind_ok
  have hsteps : ∀ ordered, orderedEntries entries = .ok ordered →
      FailsJust (stepsFrom limits 0 ordered) .numberTooLong
        ((∃ entry ∈ entries, (entry.fieldD "delayDays").OverlongDelay) ∨
          ¬ Decimal.Writable entries.length) := by
    intro ordered hok
    have hperm := orderedEntries_perm hok
    refine (failsJust_stepsFrom (fun e he => h e (hperm.mem_iff.1 he)) 0).congr ?_
    simp only [hperm.mem_iff, Nat.zero_add, hperm.length_eq]
    refine or_congr_right ⟨And.right, fun hlength => ⟨?_, hlength⟩⟩
    -- no entries at all could be numbered
    rintro rfl
    rw [← hperm.length_eq] at hlength
    exact hlength (by decide)
  refine (hordered.bind hsteps).congr ?_
  rw [← or_assoc, Json.OverlongEntries]
  refine or_congr_left ?_
  rw [← exists_or]
  exact exists_congr fun entry => and_or_left.symm

end Steps

/-- A plan has entries just if its emails are a list of objects, and not empty. -/
theorem planEntries_eq_ok_iff {limits : DepthLimits} {raw : Json} {entries : List Json}
    {h : entries ≠ []} : planEntries limits raw = .ok ⟨entries, h⟩ ↔
      raw.fieldD "emails" = .array entries ∧ ∀ entry ∈ entries, entry.isObject := by
  rw [planEntries]
  -- `planEntries` takes just the lists with an entry
  split
  · next entry r hemails =>
    rw [hemails]
    cases hfind : (entry :: r).find? (!·.isObject) with
    | some odd =>
      -- the odd entry is one of the list
      refine ⟨fun hok => ?_, ?_⟩
      · simp only at hok
        split at hok <;> cases hok
      rintro ⟨harray, hall⟩
      cases harray
      have hodd := List.find?_some hfind
      rw [hall odd (List.mem_of_find?_eq_some hfind)] at hodd
      cases hodd
    | none =>
      have hall : ∀ e ∈ entry :: r, e.isObject := by simpa using hfind
      constructor
      · intro hok
        cases hok
        exact ⟨rfl, hall⟩
      · rintro ⟨harray, -⟩
        cases harray
        rfl
  · next hother =>
    refine ⟨nofun, ?_⟩
    rintro ⟨harray, -⟩
    obtain ⟨entry, r, rfl⟩ := List.exists_cons_of_ne_nil h
    exact absurd harray (hother entry r)

section Objects

variable {limits : DepthLimits} {raw : Json} {f : Fault}

/-- The entries of a decoded object. -/
theorem fits_of_planEntries (h : raw.Fits (limits.display + 1)) {entries : List Json}
    (hemails : raw.fieldD "emails" = .array entries) :
    ∀ entry ∈ entries, entry.Fits limits.display :=
  (hemails ▸ h.fieldD "emails").of_mem_items

/-- The wording of a defect can show every decoded entry. -/
theorem planEntries_ne_fault (h : raw.Fits (limits.display + 1)) :
    planEntries limits raw ≠ .error (.fault f) := by
  intro hfault
  unfold planEntries at hfault
  split at hfault
  · next entry r hemails =>
    split at hfault
    · next odd hodd =>
      have hfits := fits_of_planEntries h hemails odd (List.mem_of_find?_eq_some hodd)
      obtain ⟨cs, hshown⟩ := hfits.exists_inner_eq_ok le_rfl
      rw [hshown] at hfault
      cases hfault
    · cases hfault
  · cases hfault

/-- A decoded object always names its plan. -/
theorem exists_planName_eq_ok (h : raw.Fits (limits.display + 1)) (flowType : FlowType) :
    ∃ name, planName limits flowType raw = .ok name := by
  obtain ⟨s, hs⟩ := exists_textOfJson_eq_ok (h.fieldD "flowName")
  exact ⟨_, bind_eq_ok.2 ⟨s, hs, rfl⟩⟩

/-- A decoded object cannot be read just if it states a type by too deep a value, or else its
entries are overlong. -/
theorem Plan.ofEntries_eq_error_iff (h : raw.Fits (limits.display + 1)) {entries : List Json}
    (hentries : ∀ entry ∈ entries, entry.Fits limits.display) {hne : entries ≠ []} :
    Plan.ofEntries limits raw entries hne = .error f ↔
      f = .nestingTooDeep ∧ raw.TypesTooDeep limits ∨
        f = .numberTooLong ∧ ¬ raw.TypesTooDeep limits ∧ Json.OverlongEntries entries := by
  have hflow := failsJust_namedOr FlowType.names .nurture (h.fieldD "flowType") limits.warn
  have htrigger := failsJust_namedOr TriggerType.names .manual (h.fieldD "triggerType") limits.warn
  have hsteps := failsJust_orderedSteps hentries
  obtain ⟨description, hdescription⟩ := exists_textOfJson_eq_ok (h.fieldD "description")
  obtain ⟨audience, haudience⟩ := exists_textOfJson_eq_ok (h.fieldD "targetAudience")
  rw [Plan.ofEntries]
  -- the types are read first; behind them only the steps can fail
  refine (hflow.bind_eq_error_iff (fun flowType _ => htrigger.bind_eq_error_iff
    (C := fun f => f = .numberTooLong ∧ Json.OverlongEntries entries) fun triggerType _ f => ?_)
    f).trans ?_
  · obtain ⟨name, hname⟩ := exists_planName_eq_ok h flowType
    refine FailsJust.of_bind_eq_ok hname (fun f => ?_) f
    rw [hdescription, haudience, ← hsteps f]
    split
    · next g hfail => rw [hfail, Except.error.injEq, Except.error.injEq]
    · next steps hok =>
      refine iff_of_false ?_ ?_
      · rintro ⟨⟩
      · intro hfail
        cases hok.symm.trans hfail
  · rw [Json.TypesTooDeep]
    generalize (limits.warn < (raw.fieldD "flowType").room) = flowDeep
    generalize (limits.warn < (raw.fieldD "triggerType").room) = triggerDeep
    by_cases hflowDeep : flowDeep <;> by_cases htriggerDeep : triggerDeep <;>
      simp [hflowDeep, htriggerDeep]

/-- A decoded object cannot be read just if it states emails, and a type by too deep a value, or
else an overlong email. -/
theorem ofJson_eq_fault_iff (h : raw.Fits (limits.display + 1)) :
    Plan.ofJson limits raw = .error (.fault f) ↔
      f = .nestingTooDeep ∧ raw.StatesEmails ∧ raw.TypesTooDeep limits ∨
        f = .numberTooLong ∧ ¬ raw.TypesTooDeep limits ∧ raw.StatesOverlong := by
  rw [Plan.ofJson]
  -- without emails nothing else is read
  rcases hentries : planEntries limits raw with e | ⟨entries, hne⟩
  · have hnone : ∀ entries, raw.fieldD "emails" = .array entries → entries ≠ [] →
        ¬ ∀ entry ∈ entries, entry.isObject := by
      intro entries hemails hne hall
      cases hentries.symm.trans (planEntries_eq_ok_iff (h := hne) |>.2 ⟨hemails, hall⟩)
    refine iff_of_false ?_ ?_
    · rintro ⟨⟩
      exact planEntries_ne_fault h hentries
    · rintro (⟨-, ⟨entries, hemails, hne, hall⟩, -⟩ | ⟨-, -, entries, hemails, hall, hoverlong⟩)
      · exact hnone entries hemails hne hall
      · exact hnone entries hemails hoverlong.ne_nil hall
  · obtain ⟨hemails, hall⟩ := planEntries_eq_ok_iff.1 hentries
    have hstated : raw.StatesEmails := ⟨entries, hemails, hne, hall⟩
    have hoverlong : raw.StatesOverlong ↔ Json.OverlongEntries entries := by
      refine ⟨?_, fun h => ⟨entries, hemails, hall, h⟩⟩
      rintro ⟨_, hemails', -, h⟩
      rw [hemails] at hemails'
      cases hemails'
      exact h
    rw [hoverlong, and_iff_right hstated, orFault_eq_fault_iff,
      Plan.ofEntries_eq_error_iff h (fits_of_planEntries h hemails)]

end Objects

end FlowBuilder
