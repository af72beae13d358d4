import FlowBuilder.Decimal.Layout
import FlowBuilder.Failure
import FlowBuilder.Json.Basic
import FlowBuilder.Text.Quoted

/-!
# Values as text

How a JSON value reads where a text is expected. A string stands for itself; within an array or an
object it is quoted. The absent value reads `None`, the truth values `True` and `False`; arrays take
square brackets, objects braces, with a comma and a space between entries and a colon and a space
after a key.

Not every value can be shown: a whole number must not have too many digits, and there is only so
much room for values within values.
-/

namespace FlowBuilder.Json

/-- Entries with a comma and a space between them. -/
def commaSeparated : List (List Char) → List Char
  | [] => []
  | [entry] => entry
  | entry :: rest => entry ++ [',', ' '] ++ commaSeparated rest

mutual

/-- A value as it stands within an array or an object, with room for so many arrays and objects
around each other. An empty one takes no room. -/
def inner : (room : Nat) → Json → Except Fault (List Char)
  | _, .null => .ok "None".toList
  | _, .bool b => .ok (if b then "True" else "False").toList
  | _, .int n =>
    if Decimal.Writable n.natAbs then .ok (Decimal.intText n) else .error .numberTooLong
  | _, .float x => .ok (Decimal.floatText x)
  | _, .string s => .ok (Text.quoted s)
  | _, .array [] => .ok ['[', ']']
  | _, .object [] => .ok ['\x7b', '\x7d']
  | 0, .array (_ :: _) | 0, .object (_ :: _) => .error .nestingTooDeep
  | room + 1, .array (j :: r) => do
    let entries ← innerItems room (j :: r)
    return '[' :: commaSeparated entries ++ [']']
  | room + 1, .object (m :: r) => do
    let entries ← innerMembers room (m :: r)
    return '\x7b' :: commaSeparated entries ++ ['\x7d']

/-- The values of an array. -/
def innerItems : (room : Nat) → List Json → Except Fault (List (List Char))
  | _, [] => .ok []
  | room, j :: r => do
    let entry ← inner room j
    let rest ← innerItems room r
    return entry :: rest

/-- The members of an object. -/
def innerMembers : (room : Nat) → List (List Glyph × Json) → Except Fault (List (List Char))
  | _, [] => .ok []
  | room, (k, v) :: r => do
    let entry ← inner room v
    let rest ← innerMembers room r
    return (Text.quoted k ++ [':', ' '] ++ entry) :: rest

end

/-- The text of a value. -/
def display (room : Nat) : Json → Except Fault String
  | .string s => .ok (Glyph.toString s)
  | j => (inner room j).map String.ofList

end FlowBuilder.Json
