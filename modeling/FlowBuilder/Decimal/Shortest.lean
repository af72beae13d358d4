import FlowBuilder.Decimal.Binary

/-!
# Shortest decimal digits

The fewest decimal digits that read back as the same double and, of those, the nearest to it. The
digits are found in exact arithmetic: the numbers that round to `m * 2 ^ e` form an interval around
it, whose ends belong to it when `m` is even. On the grid of `n` digits only the two neighbours of
the number can lie nearest, so that the first `n` for which one of them is in the interval is least.
-/

namespace FlowBuilder.Decimal

/-- Digits and the place of the decimal point: the number `0.d₁d₂… * 10 ^ point`. -/
structure Digits where
  /-- The digits, the first of which is not zero, as one number. -/
  value : Nat
  /-- How many digits stand before the decimal point; negative for zeros after it. -/
  point : Int
  deriving DecidableEq, Repr

/-- A fraction of naturals, with a positive denominator in all uses. -/
structure Ratio where
  /-- What is divided. -/
  num : Nat
  /-- What divides. -/
  den : Nat

/-- The interval of numbers that round to a double, scaled to integers over one denominator. -/
structure Rounding where
  /-- The numerator of the double. -/
  centre : Nat
  /-- The numerator of the lower end. -/
  low : Nat
  /-- The numerator of the upper end. -/
  high : Nat
  /-- The common denominator. -/
  den : Nat
  /-- Whether the ends round to the double too. -/
  closed : Bool

/-- The interval of `m * 2 ^ e`: half the distance to either neighbour. Below a power of two the
neighbours lie half as far apart as above it. -/
def Rounding.of (m : Nat) (e : Int) : Rounding :=
  let below := if m = Nat.pow 2 52 ∧ Binary.minExponent < e then 1 else 2
  let scale := if 2 ≤ e then Nat.pow 2 (e - 2).toNat else 1
  { centre := 4 * m * scale
    low := (4 * m - below) * scale
    high := (4 * m + 2) * scale
    den := if 2 ≤ e then 1 else Nat.pow 2 (2 - e).toNat
    closed := m % 2 == 0 }

/-- Whether `num / den` lies in the interval. -/
def Rounding.contains (r : Rounding) (x : Ratio) : Bool :=
  if r.closed then r.low * x.den ≤ x.num * r.den && x.num * r.den ≤ r.high * x.den
  else r.low * x.den < x.num * r.den && x.num * r.den < r.high * x.den

/-- `n * 10 ^ k`. -/
def scaled (n : Nat) (k : Int) : Ratio :=
  if 0 ≤ k then ⟨n * Nat.pow 10 k.toNat, 1⟩ else ⟨n, Nat.pow 10 (-k).toNat⟩

/-- How many digits `m * 2 ^ e` has before the decimal point: the least `k` with the number below
`10 ^ k`. The estimate from the binary length is exact or one too small. -/
def pointOf (m : Nat) (e : Int) : Int :=
  let estimate := (m.log2 + e) * 30103 / 100000 + 1
  let limit := scaled 1 estimate
  let below := if 0 ≤ e then m * Nat.pow 2 e.toNat * limit.den < limit.num
    else m * limit.den < limit.num * Nat.pow 2 (-e).toNat
  if below then estimate else estimate + 1

/-- The nearest number with `count` digits that lies in the interval, if one does; of two equally
near the even one. -/
def onGrid? (r : Rounding) (point : Int) (count : Nat) : Option Nat :=
  let unit := scaled 1 (point - count)
  let under := r.centre * unit.den / (r.den * unit.num)
  let inside (n : Nat) := r.contains (scaled n (point - count))
  let twice := 2 * r.centre * unit.den
  let middle := (2 * under + 1) * r.den * unit.num
  match inside under, inside (under + 1) with
  | false, false => none
  | true, false => some under
  | false, true => some (under + 1)
  | true, true =>
    -- both neighbours read back, so that the nearer one is taken
    if twice < middle ∨ (twice = middle ∧ under % 2 = 0) then some under else some (under + 1)

/-- Digits without the zeros at their end; `fuel` bounds how many are dropped. -/
def dropZeros : Nat → Nat → Nat
  | 0, n => n
  | fuel + 1, n => if n % 10 = 0 ∧ n ≠ 0 then dropZeros fuel (n / 10) else n

/-- The shortest digits of the positive number `m * 2 ^ e`. Seventeen always suffice. -/
def shortest (m : Nat) (e : Int) : Digits :=
  let r := Rounding.of m e
  let point := pointOf m e
  match (List.range 17).findSome? fun i => (onGrid? r point (i + 1)).map fun n => (i + 1, n) with
  | some (count, n) =>
    ⟨dropZeros count n, if n = Nat.pow 10 count then point + 1 else point⟩
  | none => ⟨r.centre / r.den, point⟩

end FlowBuilder.Decimal
