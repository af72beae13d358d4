import Mathlib.Algebra.Group.Nat.Defs
import Mathlib.Data.List.Infix
import FlowBuilder.Decimal.Layout

/-!
# How large numbers are

A number of so many digits lies below a power of ten, and the whole part of a double below a power
of two. So what is read from no more digits than the limit can be written out, and so can the whole
part of every double.

* `head?_natText_ne`: no number is written with a needless zero.
* `natOfDigits_lt`: the number that digits state lies below the power of ten of as many.
* `writable_natOfDigits`, `writable_of_truncate?`: which numbers can be written out.
-/

namespace FlowBuilder.Decimal

/-! ### Digits -/

/-- The numbers that can be written out are those below a power of ten. -/
theorem writable_iff {n : Nat} : Writable n ↔ n < 10 ^ digitLimit :=
  Nat.length_toDigits_le_iff (by decide) (by decide)

/-- What is less than a number that can be written out can be written out. -/
theorem Writable.of_le {m n : Nat} (h : Writable n) (hle : m ≤ n) : Writable m :=
  writable_iff.2 (Nat.lt_of_le_of_lt hle (writable_iff.1 h))

/-- The digits of a number state it. -/
theorem natOfDigits_natText (n : Nat) : natOfDigits (natText n) = n := by
  calc natOfDigits (natText n)
      = Nat.ofDigitChars 10 (natText n) 0 := by
        rw [Nat.ofDigitChars_eq_foldl, natOfDigits]
        simp only [Nat.mul_comm]
    _ = n := Nat.ofDigitChars_ten_toDigits

/-- A digit counts less than ten. -/
theorem toNat_sub_lt_of_isDigit {d : Char} (hd : d.isDigit) : d.toNat - '0'.toNat < 10 := by
  simp only [Char.isDigit, Bool.and_eq_true, decide_eq_true_eq] at hd
  have hle : d.toNat ≤ 57 := hd.2
  show d.toNat - 48 < 10
  omega

/-- A number lies below the power of ten of as many digits. -/
theorem natOfDigits_lt {ds : List Char} (hds : ∀ d ∈ ds, d.isDigit) :
    natOfDigits ds < 10 ^ ds.length := by
  -- every digit makes room for ten times as many numbers
  have hfold : ∀ n, ds.foldl (fun n d => n * 10 + (d.toNat - '0'.toNat)) n <
      (n + 1) * 10 ^ ds.length := by
    induction ds with
    | nil => exact fun n => by simp
    | cons d r ih =>
      intro n
      rw [List.forall_mem_cons] at hds
      have hd := toNat_sub_lt_of_isDigit hds.1
      calc (d :: r).foldl (fun n d => n * 10 + (d.toNat - '0'.toNat)) n
          < (n * 10 + (d.toNat - '0'.toNat) + 1) * 10 ^ r.length := ih hds.2 _
        _ ≤ ((n + 1) * 10) * 10 ^ r.length := Nat.mul_le_mul_right _ (by omega)
        _ = (n + 1) * 10 ^ (d :: r).length := by
          rw [List.length_cons, Nat.pow_succ', Nat.mul_assoc]
  have hzero := hfold 0
  rwa [Nat.zero_add, Nat.one_mul] at hzero

/-- What is stated by no more digits than the limit can be written out. -/
theorem writable_natOfDigits {ds : List Char} (hds : ∀ d ∈ ds, d.isDigit)
    (hlength : ds.length ≤ digitLimit) : Writable (natOfDigits ds) :=
  writable_iff.2 ((natOfDigits_lt hds).trans_le (Nat.pow_le_pow_right (by decide) hlength))

/-- The digits of a positive number start with no zero: without it, they would state the number in
one digit less. -/
theorem head?_natText_ne {n : Nat} (h : 0 < n) : (natText n).head? ≠ some '0' := by
  intro hzero
  obtain ⟨r, hr⟩ := List.head?_eq_some_iff.1 hzero
  have hdigits : ∀ d ∈ r, d.isDigit := fun d hd =>
    Nat.isDigit_of_mem_toDigits (b := 10) (by decide) (by decide) (hr ▸ List.mem_cons_of_mem _ hd)
  have hvalue : natOfDigits r = n := by
    have hn := natOfDigits_natText n
    rwa [hr] at hn
  have hlt := natOfDigits_lt hdigits
  rw [hvalue] at hlt
  have hr0 : 0 < r.length := by
    rcases r with _ | ⟨d, r⟩
    · exact absurd hvalue (Nat.ne_of_lt h)
    · exact Nat.succ_pos _
  -- a leading zero leaves the value to the digits behind it, and these are too few
  have hle := (Nat.length_toDigits_le_iff (b := 10) (by decide) hr0).2 hlt
  have hlength := congrArg List.length hr
  rw [natText, List.length_cons] at hlength
  omega

/-! ### Doubles -/

namespace Binary

/-- A positive exponent adds as many binary digits to those of the mantissa; a negative one adds
none. -/
theorem wholePart_lt {m k : Nat} {e : Int} (hm : m < 2 ^ k) :
    wholePart m e < 2 ^ (k + e.toNat) := by
  unfold wholePart
  split
  · calc m * Nat.pow 2 e.toNat < 2 ^ k * 2 ^ e.toNat :=
          Nat.mul_lt_mul_of_pos_right hm (Nat.two_pow_pos _)
      _ = 2 ^ (k + e.toNat) := (Nat.pow_add 2 k e.toNat).symm
  · calc m / Nat.pow 2 (-e).toNat ≤ m := Nat.div_le_self _ _
      _ < 2 ^ k := hm
      _ ≤ 2 ^ (k + e.toNat) := Nat.pow_le_pow_right (by decide) (Nat.le_add_right _ _)

/-- The mantissa and the exponent of a double are bounded. -/
theorem bounds_of_ofFloat {x : Float} {negative : Bool} {m : Nat} {e : Int}
    (h : ofFloat x = .finite negative m e) : m < 2 ^ 53 ∧ e ≤ 971 := by
  unfold ofFloat at h
  generalize x.toBits.toNat = bits at h
  have hfraction : bits % Nat.pow 2 52 < 2 ^ 52 := Nat.mod_lt _ (Nat.two_pow_pos 52)
  have hfield : bits / Nat.pow 2 52 % Nat.pow 2 11 < 2 ^ 11 := Nat.mod_lt _ (Nat.two_pow_pos 11)
  generalize bits % Nat.pow 2 52 = fraction at h hfraction
  generalize bits / Nat.pow 2 52 % Nat.pow 2 11 = field at h hfield
  have h52 : Nat.pow 2 52 = 2 ^ 52 := rfl
  have h11 : Nat.pow 2 11 = 2 ^ 11 := rfl
  simp only [h52, h11, minExponent] at h
  -- by the exponent field: not finite, without the hidden bit, with it
  split at h
  · split at h <;> cases h
  · split at h
    · cases h
      omega
    · cases h
      omega

/-- The number of binary digits in which the whole part of every double can be written. -/
def digitsOfWhole : Nat := 1024

/-- The whole part of a double lies below a power of two. -/
theorem natAbs_lt_of_truncate? {x : Float} {n : Int} (h : (ofFloat x).truncate? = some n) :
    n.natAbs < 2 ^ digitsOfWhole := by
  match hx : ofFloat x with
  | .finite negative m e =>
    obtain ⟨hm, he⟩ := bounds_of_ofFloat hx
    have hdigits : 53 + e.toNat ≤ digitsOfWhole := by
      rw [digitsOfWhole]
      omega
    have hpart : wholePart m e < 2 ^ digitsOfWhole :=
      (wholePart_lt hm).trans_le (Nat.pow_le_pow_right (by decide) hdigits)
    -- the sign does not count
    have hn : n.natAbs = wholePart m e := by
      rw [hx] at h
      cases negative with
      | true =>
        obtain rfl : -(wholePart m e : Int) = n := Option.some.inj h
        rw [Int.natAbs_neg, Int.natAbs_natCast]
      | false =>
        obtain rfl : (wholePart m e : Int) = n := Option.some.inj h
        rw [Int.natAbs_natCast]
    rwa [hn]
  | .infinite _ | .nan =>
    rw [hx] at h
    cases h

end Binary

/-- The whole part of a double can be written out. -/
theorem writable_of_truncate? {x : Float} {n : Int}
    (h : (Binary.ofFloat x).truncate? = some n) : Writable n.natAbs :=
  writable_iff.2 <| calc
    n.natAbs < 2 ^ Binary.digitsOfWhole := Binary.natAbs_lt_of_truncate? h
    _ ≤ 10 ^ Binary.digitsOfWhole := Nat.pow_le_pow_left (by decide) _
    _ ≤ 10 ^ digitLimit := Nat.pow_le_pow_right (by decide) (by decide)

end FlowBuilder.Decimal
