import FlowBuilder.Decimal.Layout
import FlowBuilder.Json.Basic
import FlowBuilder.Text.Quoted

/-!
# Writing JSON

Values as JSON text in ASCII: every other character is written by its UTF-16 units, a lone surrogate
by its own. Doubles keep their point or exponent, so that they are read back as doubles.
-/

namespace FlowBuilder.Json

/-- The escape of a 16-bit unit. -/
def unitEscape (n : Nat) : List Char :=
  '\\' :: 'u' :: Text.hexDigits 4 n

/-- A character as it stands between double quotes. -/
def printChar (c : Char) : List Char :=
  let n := c.toNat
  if c = '"' ∨ c = '\\' then ['\\', c]
  else if 0x20 ≤ n ∧ n < 0x7F then [c]
  else if n < 0x10000 then unitEscape n
  else unitEscape (0xD800 + (n - 0x10000) / 0x400) ++ unitEscape (0xDC00 + (n - 0x10000) % 0x400)

/-- A text between double quotes. -/
def printString (gs : List Glyph) : List Char :=
  let body := gs.flatMap fun
    | .char c => printChar c
    | .surrogate offset => unitEscape (0xD800 + offset.val)
  '"' :: body ++ ['"']

mutual

/-- The JSON text of a value. -/
def print : Json → List Char
  | .null => "null".toList
  | .bool b => (if b then "true" else "false").toList
  | .int n => Decimal.intText n
  | .float x => Decimal.floatText x
  | .string s => printString s
  | .array items => '[' :: printItems items ++ [']']
  | .object members => '\x7b' :: printMembers members ++ ['\x7d']

/-- The values of an array, with commas between. -/
def printItems : List Json → List Char
  | [] => []
  | [j] => print j
  | j :: r => print j ++ ',' :: printItems r

/-- The members of an object, with commas between. -/
def printMembers : List (List Glyph × Json) → List Char
  | [] => []
  | [(k, v)] => printString k ++ ':' :: print v
  | (k, v) :: r => printString k ++ ':' :: print v ++ ',' :: printMembers r

end

/-- The JSON text of a value. -/
def write (j : Json) : String :=
  String.ofList j.print

end FlowBuilder.Json
