import FlowBuilder.Failure
import FlowBuilder.Json.Display
import FlowBuilder.Json.Reader
import FlowBuilder.Plan.Basic
import FlowBuilder.Text.Blank
import FlowBuilder.Text.Lowercase

/-!
# Reading the fields of a proposed plan

A model states the fields of a plan in many spellings. Each function here takes any JSON value to
the value of a field: a type of flow or trigger by its value or another usual name, a number of
days, a place in the sequence, a text. What cannot be understood gives the field's default; only a
number of too many digits is refused, and a value that nests too deep to be shown.
-/

namespace FlowBuilder

/-- How deep arrays and objects may nest at the steps of reading a plan. The limits are those of the
stack, of which each step has used up another part when it comes to a value. -/
structure DepthLimits where
  /-- While a reply is searched for an object. -/
  search : Nat
  /-- While the text of that object is read again. -/
  decode : Nat
  /-- While a value is shown as the text of a field, or in the wording of a defect. -/
  display : Nat
  /-- While a value is shown in a warning. -/
  warn : Nat
  /-- The search goes as deep as the second reading. -/
  decode_le_search : decode ≤ search
  /-- What has been read within an object can be shown. -/
  decode_le_display : decode ≤ display + 1

/-- Limits of which few steps have used up a part. -/
def DepthLimits.standard : DepthLimits where
  search := 990
  decode := 989
  display := 989
  warn := 982
  decode_le_search := by decide
  decode_le_display := by decide

/-! ### Names of types -/

/-- Whether a character stands between the words of a name. -/
def isWordGap (c : Char) : Bool :=
  Text.isBlank c || c = '-'

/-- A text in which each run of gap characters has become one underscore. `inGap` says that the
character before the text was such a one. -/
def underscored (inGap : Bool) : List Char → List Char
  | [] => []
  | c :: r =>
    if isWordGap c then
      if inGap then underscored true r else '_' :: underscored true r
    else c :: underscored false r

/-- The spelling by which a name is looked up: trimmed, lowercase, words joined by underscores. -/
def nameKey (cs : List Char) : List Char :=
  underscored false (Text.lower (Text.trim cs))

/-- The entry of a table of names that a value states. -/
def named? {α : Type} (names : List (String × α)) : Json → Option α
  | .string s =>
    let key := nameKey (Glyph.toChars s)
    (names.find? (·.1.toList == key)).map (·.2)
  | _ => none

/-- The names of flow types: the usual other names, then the values. -/
def FlowType.names : List (String × FlowType) :=
  [("welcome_series", .welcome), ("win_back", .winback), ("winback_flow", .winback),
    ("cart_abandonment", .abandonedCart), ("abandoned_checkout", .abandonedCart),
    ("postpurchase", .postPurchase), ("nurture_series", .nurture)] ++
  FlowType.all.map fun t => (t.value, t)

/-- The names of trigger types: the usual other names, then the values. -/
def TriggerType.names : List (String × TriggerType) :=
  [("segment", .segmentAdded), ("added_to_segment", .segmentAdded), ("tag", .tagAdded)] ++
  TriggerType.all.map fun t => (t.value, t)

/-- What a value states by a name, or else a default. That the default is taken is told in a
warning, which shows the value; of what can go wrong there, only too little room for the value gets
out. -/
def namedOr {α : Type} (names : List (String × α)) (fallback : α) (room : Nat) (j : Json) :
    Except Fault α :=
  match named? names j with
  | some a => .ok a
  | none =>
    match j.inner room with
    | .error .nestingTooDeep => .error .nestingTooDeep
    | _ => .ok fallback

/-- The flow type that a value states; a nurture flow if it states none. -/
def FlowType.ofJson (limits : DepthLimits) (j : Json) : Except Fault FlowType :=
  namedOr FlowType.names .nurture limits.warn j

/-- The trigger type that a value states; a manual trigger if it states none. -/
def TriggerType.ofJson (limits : DepthLimits) (j : Json) : Except Fault TriggerType :=
  namedOr TriggerType.names .manual limits.warn j

/-! ### Numbers -/

/-- The number that decimal digits state, unless they are too many. -/
def readDigits (ds : List Char) : Except Fault Nat :=
  if Decimal.digitLimit < ds.length then .error .numberTooLong else .ok (Decimal.natOfDigits ds)

/-- The whole part of a number value; no other value and no infinity has one. -/
def wholeNumber? : Json → Option Int
  | .int n => some n
  | .float x => (Decimal.Binary.ofFloat x).truncate?
  | _ => none

/-- The days that a value states: the whole part of a number, or the digits at the start of a text,
after blanks. Negative numbers and all else count as no delay. -/
def delayOfJson : Json → Except Fault Nat
  | .string s =>
    match ((Glyph.toChars s).dropWhile Text.isBlank).takeWhile Char.isDigit with
    | [] => .ok 0
    | ds => readDigits ds
  | j => .ok ((wholeNumber? j).getD 0).toNat

/-- A number that can be written out. -/
def numeral (n : Nat) : Except Fault Decimal.Numeral :=
  if h : Decimal.Writable n then .ok ⟨n, h⟩ else .error .numberTooLong

/-- The place behind `n` others. -/
def placeAfter (n : Nat) : Except Fault Place :=
  if h : Decimal.Writable (n + 1) then .ok ⟨n + 1, n.succ_pos, h⟩ else .error .numberTooLong

/-- A number is taken as it is, if at all. -/
@[simp]
theorem numeral_eq_ok_iff {n : Nat} {m : Decimal.Numeral} : numeral n = .ok m ↔ m.val = n := by
  unfold numeral
  split
  · next h =>
    rw [Except.ok.injEq, Subtype.ext_iff]
    exact eq_comm
  · next h =>
    refine ⟨nofun, fun heq => absurd m.property ?_⟩
    rwa [heq]

/-- The place after a position is the next number, if there is one. -/
@[simp]
theorem placeAfter_eq_ok_iff {n : Nat} {place : Place} :
    placeAfter n = .ok place ↔ place.val = n + 1 := by
  unfold placeAfter
  split
  · next h =>
    rw [Except.ok.injEq, Subtype.ext_iff]
    exact eq_comm
  · next h =>
    refine ⟨nofun, fun heq => absurd place.property.2 ?_⟩
    rwa [heq]

/-- A place in the sequence, if the number is one. -/
def place? (n : Nat) : Option Positive :=
  if h : 0 < n then some ⟨n, h⟩ else none

/-- The place in the sequence that a value states: the whole part of a number from one on, or a text
of digits alone. -/
def sequenceOfJson : Json → Except Fault (Option Positive)
  | .string s =>
    let ds := Text.trim (Glyph.toChars s)
    if ds ≠ [] ∧ ds.all Char.isDigit then (readDigits ds).map place? else .ok none
  | j => .ok (place? ((wholeNumber? j).getD 0).toNat)

/-! ### Texts -/

/-- The text that a value states: a string without the blanks around it, nothing for an absent
value, and any other value as it reads. For a lone surrogate it has U+FFFD. -/
def textOfJson (limits : DepthLimits) : Json → Except Fault String
  | .null => .ok ""
  | .string s => .ok (Text.strip (Glyph.toString s))
  | j => j.display limits.display

end FlowBuilder
