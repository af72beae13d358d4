import FlowBuilder.Text.Search

/-!
# Addresses in numbers

Addresses of the network's versions 4 and 6. One of version 4 has four bytes in decimal between
points. One of version 6 has eight groups of hexadecimal digits between colons; the last two may be
written as an address of version 4, and one run of groups that are zero may be left out, where two
colons then stand.
-/

namespace FlowBuilder.IpAddress

/-- Whether a text is a byte in decimal, without a needless zero in front. -/
def isByte (cs : List Char) : Bool :=
  cs ≠ [] && cs.length ≤ 3 && cs.all Char.isDigit && (cs == ['0'] || cs.head? ≠ some '0') &&
    cs.foldl (fun n c => n * 10 + (c.toNat - '0'.toNat)) 0 ≤ 255

/-- Whether a text is an address of version 4. -/
def isVersion4 (cs : List Char) : Bool :=
  let bytes := Text.splitAll (· == '.') cs
  bytes.length == 4 && bytes.all isByte

/-- Whether a character is a hexadecimal digit. -/
def isHexDigit (c : Char) : Bool :=
  c.isDigit || ('a' ≤ c && c ≤ 'f') || ('A' ≤ c && c ≤ 'F')

/-- Whether a text is a group of an address of version 6. -/
def isGroup (cs : List Char) : Bool :=
  cs ≠ [] && cs.length ≤ 4 && cs.all isHexDigit

/-- The number of groups in a list of parts, if all are groups. The last may be an address of
version 4, which counts as two, if the list stands at the end of an address. -/
def groupCount? (atEnd : Bool) : List (List Char) → Option Nat
  | [] => some 0
  | [part] =>
    if isGroup part then some 1
    else if atEnd && isVersion4 part then some 2
    else none
  | part :: parts => if isGroup part then (groupCount? atEnd parts).map (· + 1) else none

/-- The parts of a text between its colons. An empty text has none. -/
def parts (cs : List Char) : List (List Char) :=
  if cs = [] then [] else Text.splitAll (· == ':') cs

/-- The texts before and after the first two colons that stand side by side. -/
def splitGap? : List Char → Option (List Char × List Char)
  | ':' :: ':' :: r => some ([], r)
  | c :: r => (splitGap? r).map fun (before, after) => (c :: before, after)
  | [] => none

/-- Whether a text is an address of version 6. -/
def isVersion6 (cs : List Char) : Bool :=
  match splitGap? cs with
  | none => groupCount? true (parts cs) == some 8
  | some (before, after) =>
    match groupCount? false (parts before), groupCount? true (parts after) with
    | some m, some n => m + n ≤ 7
    | _, _ => false

end FlowBuilder.IpAddress
