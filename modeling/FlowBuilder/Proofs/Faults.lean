import FlowBuilder.Failure

/-!
# Where a computation fails

Most computations of the library can fail with one fault only, under a condition on their input
(`FailsJust`). The condition of a computation of several steps is made of those of its steps.
-/

namespace FlowBuilder

variable {α β : Type} {x : Except Fault α} {f : Fault} {P Q : Prop}

/-- A computation fails just under a condition, and with one fault only. -/
def FailsJust (x : Except Fault α) (f : Fault) (P : Prop) : Prop :=
  ∀ f', x = .error f' ↔ f' = f ∧ P

namespace FailsJust

/-- A value never fails. -/
theorem ok (a : α) : FailsJust (.ok a) f False :=
  fun _ => ⟨nofun, fun h => h.2.elim⟩

/-- A fault always fails. -/
theorem error : FailsJust (.error f : Except Fault α) f True :=
  fun _ => ⟨fun h => ⟨(Except.error.inj h).symm, trivial⟩, fun h => congrArg _ h.1.symm⟩

/-- The condition of a failure may be put otherwise. -/
theorem congr (h : FailsJust x f P) (hPQ : P ↔ Q) : FailsJust x f Q := by
  intro f'
  rw [h f', hPQ]

/-- Where the condition does not hold, there is a value. -/
theorem exists_eq_ok (h : FailsJust x f P) (hP : ¬ P) : ∃ a, x = .ok a := by
  match x, h with
  | .ok a, _ => exact ⟨a, rfl⟩
  | .error f', h => exact absurd ((h f').1 rfl).2 hP

/-- Where there is a value, the condition of a failure does not hold. -/
theorem not_of_eq_ok (h : FailsJust x f P) {a : α} (hx : x = .ok a) : ¬ P := by
  intro hP
  cases hx.symm.trans ((h f).2 ⟨rfl, hP⟩)

/-- Where the steps behind the first one fail in their own ways, two steps fail in these as well. -/
theorem bind_eq_error_iff {g : α → Except Fault β} {C : Fault → Prop} (hx : FailsJust x f P)
    (hg : ∀ a, x = .ok a → ∀ f', g a = .error f' ↔ C f') (f' : Fault) :
    (x >>= g) = .error f' ↔ f' = f ∧ P ∨ ¬ P ∧ C f' := by
  rw [bind_eq_error, hx f']
  refine or_congr_right ⟨?_, ?_⟩
  · rintro ⟨a, ha, h⟩
    exact ⟨hx.not_of_eq_ok ha, (hg a ha f').1 h⟩
  · rintro ⟨hP, h⟩
    obtain ⟨a, ha⟩ := hx.exists_eq_ok hP
    exact ⟨a, ha, (hg a ha f').2 h⟩

/-- Two steps fail where the first one does, or else the second. -/
theorem bind {g : α → Except Fault β} (hx : FailsJust x f P)
    (hg : ∀ a, x = .ok a → FailsJust (g a) f Q) : FailsJust (x >>= g) f (P ∨ Q) := by
  intro f'
  rw [hx.bind_eq_error_iff hg f']
  by_cases hP : P <;> simp [hP]

/-- A last step that gives a value fails nowhere. -/
theorem bind_ok {g : α → β} (hx : FailsJust x f P) :
    FailsJust (x >>= fun a => .ok (g a)) f P :=
  (hx.bind fun a _ => ok (g a)).congr (or_iff_left id)

/-- Where the first step gives a value, only the second fails. -/
theorem of_bind_eq_ok {g : α → Except Fault β} {a : α} (hx : x = .ok a)
    (hg : FailsJust (g a) f P) : FailsJust (x >>= g) f P := by
  rw [hx]
  exact hg

end FailsJust

end FlowBuilder
