import FlowBuilder.Decimal.Binary
import FlowBuilder.Json.Basic

/-!
# Values that can be sent

Which values a response can carry, in JSON as its standard has it: numbers are finite, and no
surrogate stands alone. Members whose keys have the internal mark are left out of responses, so that
what they hold does not matter.
-/

namespace FlowBuilder.Json

/-- How the keys of internal members start. -/
def internalMark : List Glyph := Glyph.ofString "_sa"

mutual

/-- Whether a value can be sent. -/
def isSendable : Json → Bool
  | .float x => (Decimal.Binary.ofFloat x).isFinite
  | .string s => (Glyph.chars? s).isSome
  | .array items => areSendable items
  | .object members => membersAreSendable members
  | _ => true

/-- Whether all values of an array can be sent. -/
def areSendable : List Json → Bool
  | [] => true
  | j :: r => isSendable j && areSendable r

/-- Whether all members of an object that are not internal can be sent. -/
def membersAreSendable : List (List Glyph × Json) → Bool
  | [] => true
  | (k, v) :: r =>
    (internalMark.isPrefixOf k || ((Glyph.chars? k).isSome && isSendable v)) &&
      membersAreSendable r

end

/-- Ordinary text can be sent. -/
@[simp]
theorem isSendable_text (s : String) : (text s).isSendable = true := by
  simp [text, isSendable]

end FlowBuilder.Json
