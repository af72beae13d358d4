import Mathlib.Data.List.Find
import Mathlib.Data.List.Infix
import FlowBuilder.Text.Search
import FlowBuilder.Text.Slot

/-!
# Filled slots

What filling the slots of a text makes of its parts. Several slots may be filled at once
(`Text.fillAll`); one slot alone is a case of this (`fillFrom_eq_fillAllFrom`). As what is put in is
not looked at again, the parts of a text between characters that stand in no slot are filled on
their own (`fillAllFrom_append_cons`), and a part without a slot stays as it is
(`fillAllFrom_eq_self`).
-/

namespace FlowBuilder.Text

/-- Slots with what they are filled with. -/
abbrev Fillings := List (List Char × List Char)

/-- A text with all slots filled at once. The first `skip` characters belong to an occurrence that
is filled already. -/
def fillAllFrom (slots : Fillings) : Nat → List Char → List Char
  | _, [] => []
  | skip + 1, _ :: r => fillAllFrom slots skip r
  | 0, c :: r =>
    match slots.find? (·.1.isPrefixOf (c :: r)) with
    | some (slot, filling) => filling ++ fillAllFrom slots (slot.length - 1) r
    | none => c :: fillAllFrom slots 0 r

/-- A text with all slots filled at once. -/
def fillAll (slots : List (String × String)) (template : List Char) : List Char :=
  fillAllFrom (slots.map fun (slot, filling) => (slot.toList, filling.toList)) 0 template

section

variable {slots : Fillings} {slot filling r : List Char} {c : Char}

/-- Where a slot stands, what it is filled with is put in, and the slot is passed over. -/
theorem fillAllFrom_of_find?_eq_some
    (h : slots.find? (·.1.isPrefixOf (c :: r)) = some (slot, filling)) :
    fillAllFrom slots 0 (c :: r) = filling ++ fillAllFrom slots (slot.length - 1) r := by
  rw [fillAllFrom, h]

/-- Where no slot stands, the character stays. -/
theorem fillAllFrom_of_find?_eq_none (h : slots.find? (·.1.isPrefixOf (c :: r)) = none) :
    fillAllFrom slots 0 (c :: r) = c :: fillAllFrom slots 0 r := by
  rw [fillAllFrom, h]

/-- Filling one slot is filling all of one. -/
theorem fillFrom_eq_fillAllFrom (slot filling : List Char) (skip : Nat) (text : List Char) :
    fillFrom slot filling skip text = fillAllFrom [(slot, filling)] skip text := by
  induction text generalizing skip with
  | nil => rw [fillFrom, fillAllFrom]
  | cons c r ih =>
    cases skip with
    | succ skip => exact ih skip
    | zero =>
      rw [fillFrom]
      split
      · next h =>
        have hfind : [(slot, filling)].find? (·.1.isPrefixOf (c :: r)) = some (slot, filling) :=
          List.find?_cons_of_pos h
        rw [fillAllFrom_of_find?_eq_some hfind, ih]
      · next h =>
        have hfind : [(slot, filling)].find? (·.1.isPrefixOf (c :: r)) = none :=
          List.find?_cons_of_neg h
        rw [fillAllFrom_of_find?_eq_none hfind, ih]

end

/-- A character that stands in no slot, as one that slots do not reach across. -/
structure Separates (slots : Fillings) (c : Char) : Prop where
  /-- There is something in each slot. -/
  slot_ne : ∀ s ∈ slots, s.1 ≠ []
  /-- The character is in none. -/
  notMem : ∀ s ∈ slots, c ∉ s.1

/-- No prefix reaches across a character that it does not have. -/
theorem isPrefixOf_append_cons {slot : List Char} {c : Char} (hc : c ∉ slot)
    (front rest : List Char) :
    slot.isPrefixOf (front ++ c :: rest) = slot.isPrefixOf front := by
  induction slot generalizing front with
  | nil => rfl
  | cons d ds ih =>
    rw [List.mem_cons, not_or] at hc
    cases front with
    | nil =>
      have hne : (d == c) = false := beq_eq_false_iff_ne.2 (Ne.symm hc.1)
      rw [List.nil_append, List.isPrefixOf_cons_cons, hne]
      rfl
    | cons e front =>
      rw [List.cons_append, List.isPrefixOf_cons_cons, List.isPrefixOf_cons_cons, ih hc.2]

section

variable {slots : Fillings} {c : Char}

/-- A slot is found ahead of a separating character just where it is found without what follows. -/
theorem Separates.find?_eq (h : Separates slots c) (front rest : List Char) :
    slots.find? (·.1.isPrefixOf (front ++ c :: rest)) = slots.find? (·.1.isPrefixOf front) :=
  List.find?_congr fun s hs => isPrefixOf_append_cons (h.notMem s hs) front rest

/-- What stands before and behind a separating character is filled on its own. -/
theorem fillAllFrom_append_cons (h : Separates slots c) (rest : List Char) {front : List Char}
    {skip : Nat} (hskip : skip ≤ front.length) :
    fillAllFrom slots skip (front ++ c :: rest) =
      fillAllFrom slots skip front ++ c :: fillAllFrom slots 0 rest := by
  induction front generalizing skip with
  | nil =>
    obtain rfl : skip = 0 := Nat.le_zero.1 hskip
    have hnone : slots.find? (·.1.isPrefixOf []) = none := by
      rw [List.find?_eq_none]
      intro s hs hprefix
      exact h.slot_ne s hs (List.prefix_nil.1 (List.isPrefixOf_iff_prefix.1 hprefix))
    exact fillAllFrom_of_find?_eq_none ((h.find?_eq [] rest).trans hnone)
  | cons d front ih =>
    match skip, hskip with
    | skip + 1, hskip => exact ih (Nat.le_of_succ_le_succ hskip)
    | 0, _ =>
      have hfind := h.find?_eq (d :: front) rest
      match hslot : slots.find? (·.1.isPrefixOf (d :: front)) with
      | some (slot, filling) =>
        -- the slot ends ahead of the character, as it does not have it
        have hprefix : slot.isPrefixOf (d :: front) = true := by
          simpa using List.find?_some hslot
        have hrest : slot.length - 1 ≤ front.length := by
          have := (List.isPrefixOf_iff_prefix.1 hprefix).length_le
          rw [List.length_cons] at this
          omega
        rw [fillAllFrom_of_find?_eq_some hslot, List.append_assoc, ← ih hrest]
        exact fillAllFrom_of_find?_eq_some (hfind.trans hslot)
      | none =>
        rw [fillAllFrom_of_find?_eq_none hslot]
        exact (fillAllFrom_of_find?_eq_none (hfind.trans hslot)).trans
          (congrArg (d :: ·) (ih (Nat.zero_le _)))

/-- A text without a slot stays as it is. -/
theorem fillAllFrom_eq_self {text : List Char} (h : ∀ s ∈ slots, ¬ s.1 <:+: text) :
    fillAllFrom slots 0 text = text := by
  induction text with
  | nil => rfl
  | cons d r ih =>
    have hnone : slots.find? (·.1.isPrefixOf (d :: r)) = none := by
      rw [List.find?_eq_none]
      intro s hs hprefix
      exact h s hs (List.isPrefixOf_iff_prefix.1 hprefix).isInfix
    rw [fillAllFrom_of_find?_eq_none hnone]
    exact congrArg (d :: ·) (ih fun s hs hinfix => h s hs (List.infix_cons hinfix))

/-- Nothing follows a slot that ends the text. -/
theorem fillAllFrom_of_length_le {text : List Char} {skip : Nat} (h : text.length ≤ skip) :
    fillAllFrom slots skip text = [] := by
  induction text generalizing skip with
  | nil => rw [fillAllFrom]
  | cons d r ih =>
    match skip, h with
    | skip + 1, h => exact ih (Nat.le_of_succ_le_succ h)

/-- A text that is a slot becomes what the slot is filled with. -/
theorem fillAllFrom_slot {slot filling : List Char} (hne : slot ≠ [])
    (h : slots.find? (·.1.isPrefixOf slot) = some (slot, filling)) :
    fillAllFrom slots 0 slot = filling := by
  match slot, hne with
  | d :: r, _ =>
    have hrest : fillAllFrom slots ((d :: r).length - 1) r = [] :=
      fillAllFrom_of_length_le (Nat.le_refl r.length)
    rw [fillAllFrom_of_find?_eq_some h, hrest, List.append_nil]

end

/-! ### Texts with a slot -/

section

variable {slot text : List Char}

/-- A text does not grow when nothing is put in. -/
theorem length_fillFrom_nil_le (slot : List Char) (skip : Nat) (text : List Char) :
    (fillFrom slot [] skip text).length ≤ text.length := by
  induction text generalizing skip with
  | nil => rw [fillFrom]
  | cons c r ih =>
    cases skip with
    | succ skip => exact (ih skip).trans (Nat.le_succ _)
    | zero =>
      rw [fillFrom]
      split
      · exact (ih _).trans (Nat.le_succ _)
      · exact Nat.succ_le_succ (ih 0)

/-- A text with a slot does not stay as it is, if what is put in is empty or starts differently. -/
theorem fillFrom_ne_self {filling : List Char} (hslot : slot ≠ [])
    (hfilling : ∀ d ∈ filling.head?, slot.head? ≠ some d) (h : slot <:+: text) :
    fillFrom slot filling 0 text ≠ text := by
  induction text with
  | nil => exact absurd (List.infix_nil.1 h) hslot
  | cons c r ih =>
    rw [fillFrom]
    split
    · next hprefix =>
      cases filling with
      | nil =>
        -- the text gets shorter
        intro heq
        have hlength := length_fillFrom_nil_le slot (slot.length - 1) r
        rw [← List.nil_append (fillFrom slot [] (slot.length - 1) r), heq,
          List.length_cons] at hlength
        exact absurd hlength (Nat.not_succ_le_self r.length)
      | cons d filling =>
        -- the text starts differently
        intro heq
        obtain ⟨rfl, -⟩ := List.cons.inj heq
        match slot, hslot, hprefix with
        | e :: slot, _, hprefix =>
          rw [List.isPrefixOf_cons_cons, Bool.and_eq_true, beq_iff_eq] at hprefix
          exact hfilling d rfl (congrArg some hprefix.1)
    · next hprefix =>
      rcases List.infix_cons_iff.1 h with h | h
      · exact absurd (List.isPrefixOf_iff_prefix.2 h) hprefix
      · intro heq
        exact ih h (List.cons.inj heq).2

end

/-! ### One slot -/

section

variable {slot filling : String} {text : List Char}

/-- A text without the slot stays as it is. -/
theorem fill_eq_self (h : holds slot.toList text = false) : fill slot filling text = text := by
  rw [fill, fillFrom_eq_fillAllFrom]
  refine fillAllFrom_eq_self (List.forall_mem_singleton.2 fun hinfix => ?_)
  rw [← holds_iff, h] at hinfix
  cases hinfix

/-- Just a text without the slot stays as it is, if what is put in is empty or starts otherwise. -/
theorem fill_eq_self_iff (hslot : slot.toList ≠ [])
    (hfilling : ∀ c ∈ filling.toList.head?, slot.toList.head? ≠ some c) :
    fill slot filling text = text ↔ holds slot.toList text = false := by
  refine ⟨fun heq => ?_, fill_eq_self⟩
  rw [← Bool.not_eq_true, holds_iff]
  exact fun hinfix => fillFrom_ne_self hslot hfilling hinfix heq

/-- The slot alone is filled. -/
theorem fill_slot (hslot : slot.toList ≠ []) : fill slot filling slot.toList = filling.toList := by
  rw [fill, fillFrom_eq_fillAllFrom]
  exact fillAllFrom_slot hslot (List.find?_cons_of_pos (by simp))

end

end FlowBuilder.Text
