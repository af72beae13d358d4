import FlowBuilder.Decimal.Reading
import FlowBuilder.Decimal.Shortest

/-!
# Layout of decimal numbers

How a double is written: where positional notation ends, whether a whole number keeps its `.0`, the
form of the exponent, and the texts of infinities and of no number. A `Layout` states these choices;
`Layout.standard` is the one in which the library shows values.
-/

namespace FlowBuilder.Decimal

/-- The choices that turn digits into text. -/
structure Layout where
  /-- The least decimal point that is written positionally. -/
  leastPoint : Int
  /-- The greatest decimal point that is written positionally. -/
  greatestPoint : Int
  /-- What follows a whole number in positional notation. -/
  wholeSuffix : List Char
  /-- The least number of digits of an exponent. -/
  exponentWidth : Nat
  /-- The text of positive infinity. -/
  infinity : List Char
  /-- The text of no number. -/
  notANumber : List Char

/-- Positional from `0.0001` to below `10 ^ 16`; whole numbers end in `.0`; exponents carry a sign
and two digits at least. -/
def Layout.standard : Layout where
  leastPoint := -3
  greatestPoint := 16
  wholeSuffix := ['.', '0']
  exponentWidth := 2
  infinity := ['i', 'n', 'f']
  notANumber := ['n', 'a', 'n']

/-- The decimal digits of a natural number. -/
def natText (n : Nat) : List Char :=
  Nat.toDigits 10 n

/-- A number that can be written out: it has no more digits than the limit. -/
def Writable (n : Nat) : Prop :=
  (natText n).length ≤ digitLimit

instance (n : Nat) : Decidable (Writable n) :=
  inferInstanceAs (Decidable (_ ≤ _))

/-- The numbers that can be written out. -/
abbrev Numeral := { n : Nat // Writable n }

/-- Zero, which is written in one digit. -/
def Numeral.zero : Numeral :=
  ⟨0, by decide⟩

/-- A number that can be written out; any other one counts as zero. -/
def Numeral.ofNat (n : Nat) : Numeral :=
  if h : Writable n then ⟨n, h⟩ else .zero

/-- A number in decimal digits. -/
def Numeral.text (n : Numeral) : String :=
  toString n.val

/-- The decimal digits of an integer, after a minus if it is negative. -/
def intText : Int → List Char
  | .ofNat n => natText n
  | .negSucc n => '-' :: natText (n + 1)

/-- Digits in positional notation. -/
def Layout.positional (layout : Layout) (digits : List Char) (point : Int) : List Char :=
  if point ≤ 0 then '0' :: '.' :: List.replicate (-point).toNat '0' ++ digits
  else if digits.length ≤ point.toNat then
    digits ++ List.replicate (point.toNat - digits.length) '0' ++ layout.wholeSuffix
  else digits.take point.toNat ++ '.' :: digits.drop point.toNat

/-- Digits with an exponent, the first one before the point. -/
def Layout.scientific (layout : Layout) (digits : List Char) (point : Int) : List Char :=
  let exponent := natText (point - 1).natAbs
  let significand := match digits with
    | d :: (r@(_ :: _)) => d :: '.' :: r
    | short => short
  significand ++ ['e', if point - 1 < 0 then '-' else '+'] ++
    List.replicate (layout.exponentWidth - exponent.length) '0' ++ exponent

/-- The text of a number. -/
def Layout.text (layout : Layout) : Binary → List Char
  | .nan => layout.notANumber
  | .infinite negative => (if negative then ['-'] else []) ++ layout.infinity
  | .finite negative m e =>
    let body :=
      if m = 0 then '0' :: layout.wholeSuffix
      else
        let digits := shortest m e
        if layout.leastPoint ≤ digits.point ∧ digits.point ≤ layout.greatestPoint then
          layout.positional (natText digits.value) digits.point
        else layout.scientific (natText digits.value) digits.point
    (if negative then ['-'] else []) ++ body

/-- The text of a double in the standard layout. -/
def floatText (x : Float) : List Char :=
  Layout.standard.text (.ofFloat x)

end FlowBuilder.Decimal
