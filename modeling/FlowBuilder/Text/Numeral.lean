import FlowBuilder.Text.Blank
import FlowBuilder.Text.DecimalDigit

/-!
# Numerals

The parts of a number that is written as text: its sign, and underscores that group its digits.
-/

namespace FlowBuilder.Text

/-- A sign at the front of a text, and what follows; the sign is true for a minus. -/
def splitSign : List Char → Bool × List Char
  | '-' :: r => (true, r)
  | '+' :: r => (false, r)
  | cs => (false, cs)

/-- Whether two underscores stand side by side. -/
def doubleUnderscore : List Char → Bool
  | a :: b :: r => (a = '_' && b = '_') || doubleUnderscore (b :: r)
  | _ => false

/-- A text without its underscores, if it has some and each of them stands between two other
characters. -/
def ungrouped? (cs : List Char) : Option (List Char) :=
  if cs.contains '_' && cs.head? ≠ some '_' && cs.getLast? ≠ some '_' && !doubleUnderscore cs then
    some (cs.filter (· ≠ '_'))
  else none

/-- A text without the underscores that group its characters. Misplaced ones stay. -/
def ungroup (cs : List Char) : List Char :=
  (ungrouped? cs).getD cs

/-- The digits of a whole number in any script, after its sign: white space may stand around the
number and single underscores between its digits. -/
def signedDigits? (cs : List Char) : Option (Bool × List Nat) :=
  let (negative, body) := splitSign (trimBy isSpace cs)
  match (ungroup body).mapM decimalDigit? with
  | none => none
  | some [] => none
  | some ds => some (negative, ds)

end FlowBuilder.Text
