import FlowBuilder.Decimal.Binary
import FlowBuilder.Decimal.Reading
import FlowBuilder.Json.Reader
import FlowBuilder.Plan.Basic
import FlowBuilder.Record.Checked
import FlowBuilder.Text.Numeral

/-!
# Scalars and fields of records

How the parts of a record are read from JSON values: texts, numbers, truth values, members of a
type's list of values, lists, and the fields of an object. Numbers and truth values may also be
stated by a text, and by each other where nothing is lost.
-/

namespace FlowBuilder

/-! ### Numbers as text -/

/-- The whole number that a text states as JSON does: digits without a needless zero in front,
perhaps after a minus. -/
def plainInt (cs : List Char) : Except DefectKind Int :=
  let (negative, body) : Bool × List Char := match cs with
    | '-' :: r => (true, r)
    | r => (false, r)
  let (ds, rest) := Json.digits body
  let zeroFirst := ds.head? = some '0'
  -- too many digits count before what follows them is looked at
  if ¬zeroFirst ∧ Decimal.digitLimit < ds.length then .error .intTooLarge
  else if ds = [] ∨ rest ≠ [] ∨ (zeroFirst ∧ 1 < ds.length) then .error .unreadableInt
  else
    let n : Int := Decimal.natOfDigits ds
    .ok (if negative then -n else n)

/-- A number without sign from its first significant character on. After a zero, more zeros and
underscores are passed over; a minus may stand behind them. Of zeros alone the last one is left, and
before a point the character that is next to it. -/
def withoutLeadingZeros? : List Char → Option (List Char)
  | '0' :: r =>
    let isFiller (c : Char) : Bool := c = '0' || c = '_'
    let last := (r.takeWhile isFiller).getLast?.getD '0'
    match r.dropWhile isFiller with
    | [] => some [last]
    | c :: rest =>
      if c = '.' then some (last :: c :: rest)
      else if c.isDigit || c = '-' then some (c :: rest)
      else none
  | c :: r => if c.isDigit then some (c :: r) else none
  | [] => none

/-- A text without the point and the zeros at its end that say that a number is whole. -/
def withoutZeroFraction (cs : List Char) : List Char :=
  match cs.dropWhile (· ≠ '.') with
  | _ :: places => if places ≠ [] ∧ places.all (· = '0') then cs.takeWhile (· ≠ '.') else cs
  | [] => cs

/-- A whole number in the form of JSON, from a text that states it less strictly: with white space
around it, a plus, zeros in front, a fraction of zeros, and single underscores between digits. -/
def tidiedInt? (cs : List Char) : Option (List Char) :=
  let (negative, body) := Text.splitSign (Text.trimBy Text.isSpace cs)
  (withoutLeadingZeros? body).map fun ds =>
    let digits := Text.ungroup (withoutZeroFraction ds)
    if negative then '-' :: digits else digits

/-- The whole number that a text states. Only one that is too large as it stands is reported as
such. -/
def intOfText (cs : List Char) : Checked Int :=
  match plainInt cs with
  | .ok n => .ok n
  | .error .unreadableInt =>
    match (tidiedInt? cs).bind fun ds => (plainInt ds).toOption with
    | some n => .ok n
    | none => .fail .unreadableInt
  | .error kind => .fail kind

/-- The magnitude that a text without sign states: the words for infinity and for no number, or
digits with a point among or around them and perhaps an exponent. -/
def magnitudeOfText? (negative : Bool) (cs : List Char) : Option Float :=
  let word := String.ofList (cs.map Char.toLower)
  if word = "inf" ∨ word = "infinity" then some (if negative then -1.0 / 0.0 else 1.0 / 0.0)
  else if word = "nan" then some (0.0 / 0.0)
  else
    let (whole, r) := Json.digits cs
    let (places, r) := match r with
      | '.' :: t => Json.digits t
      | t => ([], t)
    let (exponent, r) := Json.exponent r
    if (whole = [] ∧ places = []) ∨ r ≠ [] then none
    else some (Decimal.toFloat negative (Decimal.natOfDigits (whole ++ places))
      (exponent.getD 0 - places.length))

/-- The number that a text states, without white space around it. -/
def plainFloatOfText? (cs : List Char) : Option Float :=
  let (negative, body) := Text.splitSign cs
  magnitudeOfText? negative body

/-- The number that a text states: with white space around it, or with underscores in it. -/
def floatOfText (cs : List Char) : Checked Float :=
  match plainFloatOfText? (Text.trimBy Text.isSpace cs) with
  | some x => .ok x
  | none =>
    -- a number whose digits are grouped has no white space around it
    match (Text.ungrouped? cs).bind plainFloatOfText? with
    | some x => .ok x
    | none => .fail .unreadableFloat

/-- The truth value that a text states by a usual word, in any case. -/
def boolOfText (cs : List Char) : Checked Bool :=
  let word := String.ofList (cs.map Char.toLower)
  if ["0", "f", "n", "no", "off", "false"].contains word then .ok false
  else if ["1", "t", "y", "on", "yes", "true"].contains word then .ok true
  else .fail .unreadableBool

/-! ### Scalars -/

/-- What an ordinary text states. A text with a lone surrogate states nothing. -/
def ofOrdinary {α : Type} (read : List Char → Checked α) (s : List Glyph) : Checked α :=
  match Glyph.chars? s with
  | some cs => read cs
  | none => .fail .notUnicode

/-- A string is read as it is, having only ordinary characters. -/
@[simp]
theorem ofOrdinary_ofString {α : Type} (read : List Char → Checked α) (s : String) :
    ofOrdinary read (Glyph.ofString s) = read s.toList := by
  simp [ofOrdinary]

/-- The whole number of a double, which must be whole and lie within 64 bits. -/
def intOfFloat (x : Float) : Checked Int :=
  let b := Decimal.Binary.ofFloat x
  if !b.isFinite then .fail .notFinite
  else match b.whole? with
    | none => .fail .fractionalInt
    | some n => if n.natAbs < Nat.pow 2 63 then .ok n else .fail .intTooLarge

/-- A whole number. -/
def readInt : Json → Checked Int
  | .int n => .ok n
  | .bool b => .ok (if b then 1 else 0)
  | .float x => intOfFloat x
  | .string s => ofOrdinary intOfText s
  | _ => .fail .notInt

/-- Whether an integer is near enough to some double to be taken for it. -/
def fitsFloat (n : Int) : Bool :=
  n.natAbs < Nat.pow 2 1024 - Nat.pow 2 970

/-- A number. -/
def readFloat : Json → Checked Float
  | .float x => .ok x
  | .int n => if fitsFloat n then .ok (Decimal.intToFloat n) else .fail .notFloat
  | .bool b => .ok (if b then 1.0 else 0.0)
  | .string s => ofOrdinary floatOfText s
  | _ => .fail .notFloat

/-- The truth value of a whole number within 64 bits. -/
def boolOfInt (n : Int) : Checked Bool :=
  if n = 0 then .ok false
  else if n = 1 then .ok true
  else if -(Nat.pow 2 63 : Nat) ≤ n ∧ n < (Nat.pow 2 63 : Nat) then .fail .unreadableBool
  else .fail .notBool

/-- A truth value. -/
def readBool : Json → Checked Bool
  | .bool b => .ok b
  | .int n => boolOfInt n
  | .float x =>
    match intOfFloat x with
    | .ok n => boolOfInt n
    | .bad _ => .fail .notBool
  | .string s => ofOrdinary boolOfText s
  | _ => .fail .notBool

/-- A text; for a lone surrogate it has U+FFFD. -/
def readString : Json → Checked String
  | .string s => .ok (Glyph.toString s)
  | _ => .fail .notString

/-- A text, or none. -/
def readOptionalString : Json → Checked (Option String)
  | .null => .ok none
  | j => (readString j).map some

/-- A member of a type, by its written value. -/
def readMember {α : Type} (ofValue? : String → Option α) : Json → Checked α
  | .string s => ofOrdinary (fun cs => match ofValue? (String.ofList cs) with
    | some a => .ok a
    | none => .fail .notMember) s
  | _ => .fail .notMember

/-- A natural number. -/
def readNat (j : Json) : Checked Nat :=
  (readInt j).andThen fun n => if 0 ≤ n then .ok n.toNat else .fail .belowMinimum

/-- A positive number; `kind` names the defect of any other. -/
def readPositive (kind : DefectKind) (j : Json) : Checked { n : Nat // 0 < n } :=
  (readInt j).andThen fun n => if h : 0 < n.toNat then .ok ⟨n.toNat, h⟩ else .fail kind

/-- A number that can be written out. No JSON text states a longer one. -/
def readNumeral (j : Json) : Checked Decimal.Numeral :=
  (readNat j).andThen fun n =>
    if h : Decimal.Writable n then .ok ⟨n, h⟩ else .fail .intTooLarge

/-- A place in a sequence of emails. -/
def readPlace (j : Json) : Checked Place :=
  (readPositive .belowMinimum j).andThen fun n =>
    if h : Decimal.Writable n.val then .ok ⟨n.val, n.property, h⟩ else .fail .intTooLarge

/-! ### Lists and fields -/

/-- The entries of a list, the first of which is at position `i`. -/
def readEntries {α : Type} (read : Json → Checked α) (i : Nat) : List Json → Checked (List α)
  | [] => .ok []
  | j :: r => List.cons <$> (read j).within (.index i) <*> readEntries read (i + 1) r

/-- A list. -/
def readList {α : Type} (read : Json → Checked α) : Json → Checked (List α)
  | .array items => readEntries read 0 items
  | _ => .fail .notList

/-- The members of an object. -/
abbrev Members := List (List Glyph × Json)

/-- A record, by its members; `kind` names the defect of a value that is no object. -/
def readObject {α : Type} (kind : DefectKind) (fields : Members → Checked α) : Json → Checked α
  | .object members => fields members
  | _ => .fail kind

/-- The first of some keys that members have, with its value. -/
def firstKey? (keys : List String) (members : Members) : Option (String × Json) :=
  keys.findSome? fun key => (Json.lookup? key members).map (key, ·)

/-- A field that must be there. It may go by several keys, the first of which takes precedence. -/
def requiredField {α : Type} (keys : List String) (read : Json → Checked α)
    (members : Members) : Checked α :=
  match firstKey? keys members with
  | some (key, j) => (read j).within (.key key)
  | none => (Checked.fail .missing).within (.key (keys.headD ""))

/-- A field with a default. -/
def optionalField {α : Type} (keys : List String) (default : α) (read : Json → Checked α)
    (members : Members) : Checked α :=
  match firstKey? keys members with
  | some (key, j) => (read j).within (.key key)
  | none => .ok default

end FlowBuilder
