import FlowBuilder.Plan.Normal
import Mathlib.Algebra.Order.Field.Power
import Mathlib.Algebra.Order.Floor.Semifield
import Mathlib.Data.Fin.Tuple.Basic
import Mathlib.Data.Rat.Floor

/-!
# Places that entries state

Which values state a place in the sequence of a plan, and which place this is: whole numbers,
doubles with their fraction cut off, and texts of digits, each from one on (`Json.StatesPlace`). An
entry of a plan counts by the place that it states, and by its position in the list if it states
none (`CountsAs`).

* `Decimal.Binary.wholePart_eq_floor`: the whole part of a double is that of the number for which it
  stands.
* `statesPlace_iff`: the place that is read from a value is the one that it states.
* `exists_placedFrom_eq`: the entries of a list, each with the number by which it counts.
-/

namespace FlowBuilder

/-! ### Doubles as numbers -/

namespace Decimal.Binary

/-- The number for which a double stands, if it is finite. -/
def value? : Binary → Option ℚ
  | .finite true m e => some (-(m * 2 ^ e))
  | .finite false m e => some (m * 2 ^ e)
  | _ => none

/-- The whole part of a multiple of a power of two is its floor. -/
theorem wholePart_eq_floor (m : Nat) (e : Int) : wholePart m e = ⌊(m : ℚ) * 2 ^ e⌋₊ := by
  by_cases he : 0 ≤ e
  · obtain ⟨k, rfl⟩ := Int.eq_ofNat_of_zero_le he
    have hwhole : (m : ℚ) * 2 ^ (k : ℤ) = (m * 2 ^ k : ℕ) := by
      push_cast
      rw [zpow_natCast]
    rw [hwhole, Nat.floor_natCast, wholePart, if_pos he]
    rfl
  · obtain ⟨k, rfl⟩ : ∃ k : ℕ, e = -k := ⟨(-e).toNat, by omega⟩
    have hquotient : (m : ℚ) * 2 ^ (-k : ℤ) = m / (2 ^ k : ℕ) := by
      push_cast
      rw [zpow_neg, zpow_natCast, div_eq_mul_inv]
    rw [hquotient, Nat.floor_div_eq_div, wholePart, if_neg he, neg_neg, Int.toNat_natCast]
    rfl

/-- Cut off and taken from zero on, a double gives the floor of its number. -/
theorem toNat_truncate? (b : Binary) :
    (b.truncate?.getD 0).toNat = (b.value?.map Nat.floor).getD 0 := by
  cases b with
  | finite negative m e =>
    cases negative with
    | false =>
      show ((wholePart m e : Int)).toNat = _
      rw [Int.toNat_natCast, wholePart_eq_floor]
      rfl
    | true =>
      -- no number below zero has a floor above it
      have hnonpos : -((m : ℚ) * 2 ^ e) ≤ 0 := by
        rw [neg_nonpos]
        positivity
      show (-(wholePart m e : Int)).toNat = ⌊-((m : ℚ) * 2 ^ e)⌋₊
      rw [Nat.floor_of_nonpos hnonpos]
      omega
  | infinite => rfl
  | nan => rfl

end Decimal.Binary

/-! ### Values that state a place -/

/-- A value states a place in the sequence. -/
inductive Json.StatesPlace : Json → Nat → Prop where
  /-- A whole number from one on. -/
  | int {n : Nat} (hn : 1 ≤ n) : StatesPlace (.int n) n
  /-- A double from one on, with its fraction cut off. -/
  | float {x : Float} {q : ℚ} (hx : (Decimal.Binary.ofFloat x).value? = some q) (hq : 1 ≤ q) :
    StatesPlace (.float x) ⌊q⌋₊
  /-- A text of digits between blanks, which make a number from one on. -/
  | digits {s : List Glyph} {ds : List Char} (hs : Text.trim (Glyph.toChars s) = ds)
      (hds : ∀ d ∈ ds, d.isDigit) (hn : 1 ≤ Decimal.natOfDigits ds) :
    StatesPlace (.string s) (Decimal.natOfDigits ds)

/-- A number is a place just if it is positive. -/
theorem map_place?_eq_some_iff {n k : Nat} :
    (place? n).map (·.val) = some k ↔ n = k ∧ 1 ≤ k := by
  unfold place?
  by_cases h : 0 < n
  · rw [dif_pos h, Option.map_some, Option.some.injEq]
    constructor
    · rintro rfl
      exact ⟨rfl, h⟩
    · exact fun ⟨hk, _⟩ => hk
  · rw [dif_neg h]
    refine ⟨nofun, ?_⟩
    rintro ⟨rfl, hk⟩
    exact absurd hk h

/-- A whole number states itself, if it is positive. -/
theorem statesPlace_int_iff {k : Int} {n : Nat} :
    Json.StatesPlace (.int k) n ↔ k.toNat = n ∧ 1 ≤ n := by
  constructor
  · rintro ⟨hn⟩
    exact ⟨Int.toNat_natCast n, hn⟩
  · rintro ⟨hk, hn⟩
    obtain rfl : k = n := by omega
    exact .int hn

/-- A floating-point number states its whole part, if this is positive. -/
theorem statesPlace_float_iff {x : Float} {n : Nat} : Json.StatesPlace (.float x) n ↔
    ((Decimal.Binary.ofFloat x).value?.map Nat.floor).getD 0 = n ∧ 1 ≤ n := by
  constructor
  · intro h
    cases h with
    | float hx hq =>
      rw [hx]
      exact ⟨rfl, Nat.one_le_floor_iff _ |>.2 hq⟩
  · rintro ⟨hfloor, hn⟩
    rcases hx : (Decimal.Binary.ofFloat x).value? with _ | q
    · -- no number, and so no floor from one on
      rw [hx] at hfloor
      subst hfloor
      cases hn
    · rw [hx] at hfloor
      subst hfloor
      exact .float hx (Nat.one_le_floor_iff q |>.1 hn)

/-- A text states the number of its digits, if there is nothing else between blanks and it is
positive. -/
theorem statesPlace_string_iff {s : List Glyph} {n : Nat} : Json.StatesPlace (.string s) n ↔
    (Text.trim (Glyph.toChars s)).all Char.isDigit ∧
      Decimal.natOfDigits (Text.trim (Glyph.toChars s)) = n ∧ 1 ≤ n := by
  rw [List.all_eq_true]
  constructor
  · intro h
    cases h with
    | digits hs hds hn =>
      subst hs
      exact ⟨hds, rfl, hn⟩
  · rintro ⟨hds, rfl, hn⟩
    exact .digits rfl hds hn

/-- The absent value states no place. -/
theorem Json.not_statesPlace_null (n : Nat) : ¬ Json.null.StatesPlace n := by
  intro h
  cases h

/-- A value states one place at most. -/
theorem Json.StatesPlace.unique {j : Json} {m n : Nat} (hm : j.StatesPlace m)
    (hn : j.StatesPlace n) : m = n := by
  cases hm with
  | int => exact (statesPlace_int_iff.1 hn).1
  | float hx =>
    have hfloor := (statesPlace_float_iff.1 hn).1
    rwa [hx] at hfloor
  | digits hs =>
    subst hs
    exact (statesPlace_string_iff.1 hn).2.1

/-- The place that is read from a value is the one that it states. -/
theorem statesPlace_iff {j : Json} {place : Option Positive} (h : sequenceOfJson j = .ok place)
    {n : Nat} : j.StatesPlace n ↔ place.map (·.val) = some n := by
  cases j with
  | int k =>
    cases h
    rw [map_place?_eq_some_iff, statesPlace_int_iff]
    rfl
  | float x =>
    cases h
    rw [map_place?_eq_some_iff, statesPlace_float_iff, ← Decimal.Binary.toNat_truncate?]
    rfl
  | string s =>
    rw [statesPlace_string_iff]
    unfold sequenceOfJson at h
    simp only at h
    split at h
    · next hdigits =>
      -- the digits have been read, and are not too many
      match hread : readDigits (Text.trim (Glyph.toChars s)), h with
      | .ok k, h =>
        rw [readDigits] at hread
        split at hread
        · cases hread
        · cases hread
          cases h
          rw [map_place?_eq_some_iff]
          exact and_iff_right hdigits.2
    · next hdigits =>
      cases h
      refine ⟨?_, nofun⟩
      rintro ⟨hall, rfl, hn⟩
      -- a text without digits has no number from one on
      refine absurd ⟨?_, hall⟩ hdigits
      intro hnil
      rw [hnil] at hn
      cases hn
  | _ =>
    cases h
    exact ⟨nofun, nofun⟩

/-! ### Entries with their places -/

/-- The number by which an entry counts: the place that it states, or its position in the list if it
states none. -/
def CountsAs (entry : Json) (position key : Nat) : Prop :=
  (entry.fieldD "sequence").StatesPlace key ∨
    (∀ n, ¬ (entry.fieldD "sequence").StatesPlace n) ∧ key = position

/-- An entry that is placed counts by its key. -/
theorem countsAs_of_ofEntry {entry : Json} {position : Nat} {placed : PlacedEntry}
    (h : PlacedEntry.ofEntry entry position = .ok placed) :
    placed = ⟨placed.key, position, entry⟩ ∧ CountsAs entry position placed.key := by
  obtain ⟨stated, hstated, hplaced⟩ := bind_eq_ok.1 h
  cases hplaced
  refine ⟨rfl, ?_⟩
  cases stated with
  | none =>
    refine Or.inr ⟨fun n hn => ?_, rfl⟩
    cases (statesPlace_iff hstated).1 hn
  | some place => exact Or.inl ((statesPlace_iff hstated).2 rfl)

/-- The entries of a list, each with the number by which it counts. -/
theorem exists_placedFrom_eq {n : Nat} {entries : List Json} {placed : List PlacedEntry}
    (h : placedFrom n entries = .ok placed) :
    ∃ key : Fin entries.length → Nat,
      (∀ i : Fin entries.length, CountsAs (entries.get i) (i + n) (key i)) ∧
      placed = List.ofFn fun i : Fin entries.length => ⟨key i, i + n, entries.get i⟩ := by
  induction entries generalizing n placed with
  | nil =>
    cases h
    exact ⟨Fin.elim0, fun i => i.elim0, rfl⟩
  | cons entry r ih =>
    obtain ⟨first, hfirst, h⟩ := bind_eq_ok.1 h
    obtain ⟨rest, hrest, h⟩ := bind_eq_ok.1 h
    cases h
    obtain ⟨heq, hcounts⟩ := countsAs_of_ofEntry hfirst
    obtain ⟨key, hkey, rfl⟩ := ih hrest
    -- behind the first entry, positions are one further
    have hshift : ∀ i : Fin r.length, i.val + (n + 1) = i.succ.val + n := by
      intro i
      rw [Fin.val_succ]
      omega
    simp only [hshift] at hkey
    refine ⟨Fin.cons first.key key, ?_, ?_⟩
    · refine Fin.cases ?_ hkey
      show CountsAs entry (0 + n) first.key
      rwa [Nat.zero_add]
    · rw [List.ofFn_succ]
      simp only [hshift]
      show first :: _ = ⟨first.key, 0 + n, entry⟩ :: _
      rw [Nat.zero_add, ← heq]
      rfl

end FlowBuilder
