/-!
# Reading decimal numbers

The double nearest to a decimal number. Numbers that lie beyond every double become an infinity or
zero before any power of ten is formed, so that an exponent of any length is read at once.
-/

namespace FlowBuilder.Decimal

/-- The greatest number of digits of a whole number that is read from a text or written as one. -/
def digitLimit : Nat := 4300

/-- The value of decimal digits; any other character counts by its distance from `0`. -/
def natOfDigits (ds : List Char) : Nat :=
  ds.foldl (fun n d => n * 10 + (d.toNat - '0'.toNat)) 0

/-- The double nearest to `± mantissa * 10 ^ exponent`. -/
def toFloat (negative : Bool) (mantissa : Nat) (exponent : Int) : Float :=
  let size : Int := (Nat.toDigits 10 mantissa).length + exponent
  let magnitude : Float :=
    -- doubles end below 10 ^ 309 and start above 10 ^ -325
    if mantissa = 0 ∨ size < -400 then 0.0
    else if 400 < size then 1.0 / 0.0
    else Float.ofScientific mantissa (exponent < 0) exponent.natAbs
  if negative then -magnitude else magnitude

/-- The double nearest to an integer. -/
def intToFloat (n : Int) : Float :=
  toFloat (n < 0) n.natAbs 0

end FlowBuilder.Decimal
