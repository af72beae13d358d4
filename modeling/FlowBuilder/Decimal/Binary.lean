/-!
# Floating-point numbers as exact numbers

The number for which a double stands, read off its bits: a signed multiple of a power of two, an
infinity, or no number. What the rest of the library decides about a double (its whole part, its
digits, whether it is whole) it decides on this form, in exact arithmetic.
-/

namespace FlowBuilder.Decimal

/-- What a double stands for. -/
inductive Binary where
  /-- The number `± mantissa * 2 ^ exponent`. -/
  | finite (negative : Bool) (mantissa : Nat) (exponent : Int)
  /-- An infinity. -/
  | infinite (negative : Bool)
  /-- No number. -/
  | nan
  deriving DecidableEq, Repr

namespace Binary

/-- The least exponent of a double's mantissa, taken by zero and the subnormal numbers. -/
def minExponent : Int := -1074

/-- The number for which a double stands. -/
def ofFloat (x : Float) : Binary :=
  let bits := x.toBits.toNat
  let negative := decide (bits / Nat.pow 2 63 % 2 = 1)
  let field : Nat := bits / Nat.pow 2 52 % Nat.pow 2 11
  let fraction := bits % Nat.pow 2 52
  if field = Nat.pow 2 11 - 1 then
    if fraction = 0 then .infinite negative else .nan
  else if field = 0 then .finite negative fraction minExponent
  else .finite negative (Nat.pow 2 52 + fraction) (minExponent + (field - 1 : Nat))

/-- The whole part of `mantissa * 2 ^ exponent`. -/
def wholePart (mantissa : Nat) (exponent : Int) : Nat :=
  if 0 ≤ exponent then mantissa * Nat.pow 2 exponent.toNat
  else mantissa / Nat.pow 2 (-exponent).toNat

/-- Whether `mantissa * 2 ^ exponent` is a whole number. -/
def isWhole (mantissa : Nat) (exponent : Int) : Bool :=
  0 ≤ exponent || mantissa % Nat.pow 2 (-exponent).toNat == 0

/-- A finite number with its fraction cut off. -/
def truncate? : Binary → Option Int
  | .finite true m e => some (-(wholePart m e : Int))
  | .finite false m e => some (wholePart m e)
  | _ => none

/-- A number that is whole, as an integer. -/
def whole? : Binary → Option Int
  | .finite s m e => if isWhole m e then truncate? (.finite s m e) else none
  | _ => none

/-- Whether the number has a value: it is neither an infinity nor absent. -/
def isFinite : Binary → Bool
  | .finite .. => true
  | _ => false

end Binary

end FlowBuilder.Decimal
