import FlowBuilder.Decimal.Layout
import FlowBuilder.Proofs.Plan.Places
import FlowBuilder.Proofs.Plan.Unreadable
import FlowBuilder.Proofs.Text.Trim

/-!
# Numbers that plans state

An email states two numbers, its place in the sequence and its delay, and both may come as a number
or as a text. The readers differ on texts: a delay is read from the digits with which a text opens
(`OpensWith`), a place only from a text that is digits alone, between blanks. Such a text opens with
just these digits, so that the reader of places gives nothing or what the reader of delays gives
(`sequenceOfJson_eq_or`).

* `delayOfJson_eq_readDigits`: a text states as a delay the number of the digits with which it
  opens.
* `delayOfJson_of_wholeNumber?`: the delay that a number states is its whole part, from zero on.
* `place_agrees_with_delay`: whatever states a place states the same number as a delay.
-/

namespace FlowBuilder

open Decimal (natText)

/-! ### Digits -/

/-- A number that has no more digits than the limit is read from its digits. -/
theorem readDigits_natText {n : Nat} (h : (natText n).length ≤ Decimal.digitLimit) :
    readDigits (natText n) = .ok n := by
  rw [readDigits, if_neg (Nat.not_lt.2 h), Decimal.natOfDigits_natText]

/-! ### Texts that open with digits -/

/-- A text opens with some digits: only blanks stand before them, and no digit follows at once. -/
structure OpensWith (ds cs : List Char) : Prop where
  /-- There is a digit. -/
  ne_nil : ds ≠ []
  /-- They are digits. -/
  digits : ∀ d ∈ ds, d.isDigit
  /-- What stands before and behind them. -/
  split : ∃ front rest, cs = front ++ (ds ++ rest) ∧ (∀ c ∈ front, Text.isBlank c = true) ∧
    ∀ c ∈ rest.head?, c.isDigit = false

/-- The digits of a text of digits alone, between blanks, are those with which it opens. -/
theorem opensWith_trim {cs : List Char} (hne : Text.trim cs ≠ [])
    (hdigits : (Text.trim cs).all Char.isDigit) : OpensWith (Text.trim cs) cs := by
  obtain ⟨front, back, hcs, hfront, hback⟩ := Text.exists_eq_append_trim cs
  refine ⟨hne, List.all_eq_true.1 hdigits, front, back, ?_, hfront, fun c hc => ?_⟩
  · rwa [← List.append_assoc]
  · exact isDigit_of_isBlank (hback c (List.mem_of_mem_head? hc))

/-- Behind the blanks of a text its digits are found. -/
theorem OpensWith.takeWhile_dropWhile {ds cs : List Char} (h : OpensWith ds cs) :
    (cs.dropWhile Text.isBlank).takeWhile Char.isDigit = ds := by
  obtain ⟨d, r, rfl⟩ := List.exists_cons_of_ne_nil h.ne_nil
  obtain ⟨front, rest, rfl, hfront, hrest⟩ := h.split
  have hd : Text.isBlank d = false := isBlank_of_isDigit (h.digits d List.mem_cons_self)
  -- behind the digits, neither the end of the text nor a character of another kind is taken
  have hstop : rest.takeWhile Char.isDigit = [] := by
    cases rest with
    | nil => rfl
    | cons c _ => rw [List.takeWhile_cons_of_neg (by simp [hrest c rfl])]
  rw [List.dropWhile_append_of_pos hfront, List.cons_append,
    List.dropWhile_cons_of_neg (by simp [hd]), ← List.cons_append,
    List.takeWhile_append_of_pos h.digits, hstop, List.append_nil]

/-- The delay that a text states is that of the digits with which it opens. -/
theorem delayOfJson_eq_readDigits {ds : List Char} {s : List Glyph}
    (h : OpensWith ds (Glyph.toChars s)) : delayOfJson (.string s) = readDigits ds := by
  obtain ⟨d, r, rfl⟩ := List.exists_cons_of_ne_nil h.ne_nil
  rw [delayOfJson, h.takeWhile_dropWhile]

/-! ### Places and delays -/

/-- The reader of places gives nothing, or what the reader of delays gives, as a place. -/
theorem sequenceOfJson_eq_or (v : Json) :
    sequenceOfJson v = .ok none ∨ sequenceOfJson v = (delayOfJson v).map place? := by
  cases v with
  | string s =>
    -- a place is read just from a text that is digits alone between blanks
    by_cases h : Text.trim (Glyph.toChars s) ≠ [] ∧ (Text.trim (Glyph.toChars s)).all Char.isDigit
    · refine Or.inr ?_
      rw [delayOfJson_eq_readDigits (opensWith_trim h.1 h.2), sequenceOfJson]
      exact if_pos h
    · exact Or.inl (if_neg h)
  | _ => exact Or.inr rfl

/-- Whatever states a place states the same number as a delay. -/
theorem delayOfJson_of_sequenceOfJson {v : Json} {place : Positive}
    (h : sequenceOfJson v = .ok (some place)) : delayOfJson v = .ok place.val := by
  have hmap := (sequenceOfJson_eq_or v).resolve_left (by simp [h])
  rw [hmap] at h
  match hdelay : delayOfJson v, h with
  | .ok days, h =>
    have hplace : place? days = some place := Except.ok.inj h
    have hdays : (place? days).map (·.val) = some place.val := by rw [hplace]; rfl
    rw [(map_place?_eq_some_iff.1 hdays).1]

/-- What is too long as a place is too long as a delay. -/
theorem delayOfJson_eq_error_of_sequenceOfJson {v : Json} {f : Fault}
    (h : sequenceOfJson v = .error f) : delayOfJson v = .error f := by
  have hmap := (sequenceOfJson_eq_or v).resolve_left (by simp [h])
  rw [hmap] at h
  match hdelay : delayOfJson v, h with
  | .error _, h =>
    cases h
    rfl

/-- The delay that a number states is its whole part, from zero on. -/
theorem delayOfJson_of_wholeNumber? {v : Json} {k : Int} {days : Nat}
    (hwhole : wholeNumber? v = some k) (h : delayOfJson v = .ok days) : (days : Int) = max k 0 := by
  cases v with
  | int n =>
    cases hwhole
    cases h
    exact Int.toNat_eq_max k
  | float x =>
    have hdays : ((wholeNumber? (.float x)).getD 0).toNat = days := Except.ok.inj h
    rw [hwhole] at hdays
    rw [← hdays]
    exact Int.toNat_eq_max k
  | _ => cases hwhole

/-- The digits of a number between blanks, and a text behind them. -/
def numberText (front : List Char) (n : Nat) (back : List Char) (tail : List Glyph) : List Glyph :=
  (front ++ natText n ++ back).map .char ++ tail

/-- A number with blanks around it opens with its digits, if no digit follows it. -/
theorem opensWith_numberText {front back : List Char} {n : Nat} {tail : List Glyph}
    (hfront : ∀ c ∈ front, Text.isBlank c = true) (hback : ∀ c ∈ back, Text.isBlank c = true)
    (htail : ∀ c ∈ (Glyph.toChars tail).head?, c.isDigit = false) :
    OpensWith (natText n) (Glyph.toChars (numberText front n back tail)) := by
  refine ⟨Nat.toDigits_ne_nil, fun d => Nat.isDigit_of_mem_toDigits (by decide) (by decide),
    front, back ++ Glyph.toChars tail, ?_, hfront, ?_⟩
  · have happend : ∀ cs, Glyph.toChars (cs.map .char ++ tail) = cs ++ Glyph.toChars tail := by
      intro cs
      rw [Glyph.toChars, List.map_append]
      exact congrArg (· ++ _) (Glyph.toChars_map_char cs)
    rw [numberText, happend]
    simp only [List.append_assoc]
  · -- a blank follows the digits, or else the text behind
    cases back with
    | nil => exact htail
    | cons b _ =>
      rintro c ⟨⟩
      exact isDigit_of_isBlank (hback b List.mem_cons_self)

/-- Whatever states a place, a number from one on, states the same number as a delay, and what is
refused as a place is refused as a delay. No delay is negative: that of a number is its whole part,
from zero on. And a number states as a delay what its digits state, with blanks around them and any
text behind that starts with no digit. -/
theorem place_agrees_with_delay :
    (∀ v place, sequenceOfJson v = .ok (some place) →
      1 ≤ place.val ∧ delayOfJson v = .ok place.val) ∧
    (∀ v f, sequenceOfJson v = .error f → f = .numberTooLong ∧ delayOfJson v = .error f) ∧
    (∀ v days, delayOfJson v = .ok days →
      0 ≤ (days : Int) ∧ ∀ k, wholeNumber? v = some k → (days : Int) = max k 0) ∧
    ∀ (n : Nat) (front back : List Char) (tail : List Glyph),
      (natText n).length ≤ Decimal.digitLimit → (∀ c ∈ front, Text.isBlank c = true) →
      (∀ c ∈ back, Text.isBlank c = true) →
      (∀ c ∈ (Glyph.toChars tail).head?, c.isDigit = false) →
      delayOfJson (.int n) = .ok n ∧
        delayOfJson (.string (numberText front n back tail)) = .ok n := by
  refine ⟨fun v place h => ⟨place.property, delayOfJson_of_sequenceOfJson h⟩, fun v f h => ?_,
    fun v days h => ⟨Int.natCast_nonneg days, fun k hk => delayOfJson_of_wholeNumber? hk h⟩, ?_⟩
  · exact ⟨(sequenceOfJson_eq_error_iff.1 h).1, delayOfJson_eq_error_of_sequenceOfJson h⟩
  · intro n front back tail hlength hfront hback htail
    refine ⟨rfl, ?_⟩
    -- the padding is passed over, and the tail does not go on with the number
    rw [delayOfJson_eq_readDigits (opensWith_numberText hfront hback htail)]
    exact readDigits_natText hlength

/-- A text of one digit more than the limit. -/
def overlongDigits : List Glyph :=
  (List.replicate (Decimal.digitLimit + 1) '9').map .char

/-- There are too many digits for a place. -/
theorem overlongPlace_overlongDigits : (Json.string overlongDigits).OverlongPlace := by
  have hdigit : ∀ c ∈ List.replicate (Decimal.digitLimit + 1) '9', c.isDigit := by
    intro c hc
    rw [List.eq_of_mem_replicate hc]
    rfl
  have htrim : Text.trim (Glyph.toChars overlongDigits) =
      List.replicate (Decimal.digitLimit + 1) '9' := by
    rw [overlongDigits, Glyph.toChars_map_char]
    exact Text.trim_eq_self_iff.2
      (Text.isTrimmed_of_forall fun c hc => isBlank_of_isDigit (hdigit c hc))
  refine ⟨overlongDigits, rfl, ?_, ?_⟩
  · rw [htrim]
    exact List.all_eq_true.2 hdigit
  · rw [htrim, List.length_replicate]
    exact Nat.lt_succ_self _

/-- A place between blanks, digits beyond the limit, a number below zero, and a number between an
ideographic and an ordinary space, before the word that follows it. -/
theorem padded_seven_states_delay :
    (sequenceOfJson (.string (Glyph.ofString " 3 ")) = .ok (some ⟨3, by decide⟩) ∧
      delayOfJson (.string (Glyph.ofString " 3 ")) = .ok 3) ∧
    (sequenceOfJson (.string overlongDigits) = .error .numberTooLong ∧
      delayOfJson (.string overlongDigits) = .error .numberTooLong) ∧
    (delayOfJson (.int (-1)) = .ok 0 ∧ ((0 : Nat) : Int) = max (-1) 0) ∧
    delayOfJson (.string (numberText ['\u3000'] 7 [' '] (Glyph.ofString "days"))) = .ok 7 := by
  obtain ⟨hplace, hfault, hdays, htext⟩ := place_agrees_with_delay
  have hthree : sequenceOfJson (.string (Glyph.ofString " 3 ")) = .ok (some ⟨3, by decide⟩) := by
    decide
  have hoverlong : sequenceOfJson (.string overlongDigits) = .error .numberTooLong :=
    sequenceOfJson_eq_error_iff.2 ⟨rfl, overlongPlace_overlongDigits⟩
  refine ⟨⟨hthree, (hplace _ _ hthree).2⟩, ⟨hoverlong, (hfault _ _ hoverlong).2⟩,
    ⟨rfl, (hdays (.int (-1)) 0 rfl).2 (-1) rfl⟩, ?_⟩
  have htail : ∀ c ∈ (Glyph.toChars (Glyph.ofString "days")).head?, c.isDigit = false := by
    rintro c ⟨⟩
    rfl
  exact (htext 7 ['\u3000'] [' '] _ (by decide) (List.forall_mem_singleton.2 rfl)
    (List.forall_mem_singleton.2 rfl) htail).2

end FlowBuilder
