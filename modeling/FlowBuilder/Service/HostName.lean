import FlowBuilder.Text.CodeRange
import FlowBuilder.Text.DecimalDigit
import FlowBuilder.Text.Direction
import FlowBuilder.Text.Lowercase
import FlowBuilder.Text.Punycode
import FlowBuilder.Text.Quoted
import FlowBuilder.Text.Search

/-!
# Names of hosts

A host's name consists of labels with dots between them. In a name outside ASCII the labels are
written in ASCII: one that has other characters becomes a mark and its Punycode.
-/

namespace FlowBuilder

/-- Why a host's name cannot be written in ASCII. -/
inductive HostNameDefect where
  /-- The name `host` has a character without meaning for names at a position. -/
  | ignoredCharacter (host : List Char) (c : Char) (position : Nat)
  /-- A label is empty, or has too many characters in ASCII. -/
  | badLength
  /-- A label has the mark of Punycode, and characters outside ASCII. -/
  | alreadyMarked
  /-- A label has a character that no name has. -/
  | unsuitableCharacter (c : Char)
  /-- The letters of a label run in both directions. -/
  | bothDirections
  /-- A label runs from right to left, and does not start and end with such letters. -/
  | looseEnds
  deriving DecidableEq, Repr

/-- The wording of a defect of a host's name. -/
def HostNameDefect.message (defect : HostNameDefect) : String :=
  let quoted (cs : List Char) := Text.quotedString (String.ofList cs)
  let notWritten (reason : String) :=
    "encoding with 'idna' codec failed (UnicodeError: " ++ reason ++ ")"
  match defect with
  | .ignoredCharacter host c position =>
    "Host " ++ quoted host ++ " cannot contain " ++ quoted [c] ++
      " (at position " ++ toString position ++ ")"
  | .badLength => notWritten "label empty or too long"
  | .alreadyMarked => notWritten "Label starts with ACE prefix"
  | .unsuitableCharacter c => notWritten ("Invalid character " ++ quoted [c])
  | .bothDirections => notWritten "Violation of BIDI requirement 2"
  | .looseEnds => notWritten "Violation of BIDI requirement 3"

namespace HostName

/-- Whether a character would leave no trace in a name: an invisible joint, space or selector. -/
def isIgnored : Char → Bool :=
  Text.isWithin [(0xAD, 0xAD), (0x34F, 0x34F), (0x115F, 0x1160), (0x17B4, 0x17B5), (0x180B, 0x180F),
    (0x200B, 0x200D), (0x2060, 0x2064), (0x206A, 0x206F), (0x3164, 0x3164), (0xFE00, 0xFE0F),
    (0xFEFF, 0xFEFF), (0xFFA0, 0xFFA0), (0x1BCA0, 0x1BCA3), (0x1D173, 0x1D17A),
    (0xE0100, 0xE01EF)]

/-- Whether no name has a character: controls, separators, marks of direction, code points for
private use and those that are no characters. -/
def isUnsuitable (c : Char) : Bool :=
  Text.isWithin [(0x80, 0x9F), (0x6DD, 0x6DD), (0x70F, 0x70F), (0x1680, 0x1680), (0x200E, 0x200F),
    (0x2028, 0x202E), (0x2FF0, 0x2FFB), (0xE000, 0xF8FF), (0xFDD0, 0xFDEF), (0xFFF9, 0xFFFF),
    (0xE0001, 0xE0001), (0xE0020, 0xE007F), (0xF0000, 0x10FFFF)] c ||
    0xFFFE ≤ c.toNat % 0x10000

/-- Whether a mark stands with the letter before it, in a script from right to left or in any. -/
def isMark : Char → Bool :=
  Text.isWithin [(0x300, 0x36F), (0x591, 0x5BD), (0x5BF, 0x5BF), (0x5C1, 0x5C2), (0x5C4, 0x5C5),
    (0x5C7, 0x5C7), (0x610, 0x61A), (0x64B, 0x65F), (0x670, 0x670), (0x6D6, 0x6DC),
    (0x6DF, 0x6E4), (0x6E7, 0x6E8), (0x6EA, 0x6ED)]

/-- Whether a character is a dot between labels: the full stop in one of its forms. -/
def isDot (c : Char) : Bool :=
  ['.', '\u3002', '\uFF0E', '\uFF61'].contains c

/-- A character in its usual width. -/
def ofUsualWidth (c : Char) : Char :=
  if 0xFF01 ≤ c.toNat ∧ c.toNat ≤ 0xFF5E then Char.ofNat (c.toNat - 0xFEE0) else c

/-- A label in the form in which labels are compared: lowercase, in the usual width. -/
def folded (label : List Char) : List Char :=
  (Text.lower label).map ofUsualWidth

/-- Checks the directions of a label. Digits and marks may end a label from right to left. -/
def checkDirection (label : List Char) : Except HostNameDefect Unit :=
  let endsLabel (c : Char) : Bool :=
    Text.isRightToLeft c || (Text.decimalDigit? c).isSome || isMark c
  if !label.any Text.isRightToLeft then .ok ()
  else if label.any Text.isLeftToRight then .error .bothDirections
  else if label.head?.any Text.isRightToLeft && label.getLast?.any endsLabel then .ok ()
  else .error .looseEnds

/-- The mark of a label in Punycode. -/
def mark : List Char := ['x', 'n', '-', '-']

/-- A label in ASCII that has an acceptable length. -/
def ofLength (label : List Char) : Except HostNameDefect (List Char) :=
  if 0 < label.length ∧ label.length < 64 then .ok label else .error .badLength

/-- A label in ASCII. -/
def asciiLabel (label : List Char) : Except HostNameDefect (List Char) :=
  if label.all Text.Punycode.isBasic then ofLength label
  else
    let label := folded label
    match label.find? isUnsuitable with
    | some c => .error (.unsuitableCharacter c)
    | none => do
      checkDirection label
      if label.all Text.Punycode.isBasic then ofLength label
      else if mark.isPrefixOf label then .error .alreadyMarked
      else ofLength (mark ++ Text.Punycode.encode label)

/-- The first ignored character of a name, with its position. -/
def firstIgnored? (host : List Char) : Option (Char × Nat) :=
  host.zipIdx.find? fun (c, _) => isIgnored c

/-- A host's name in ASCII. A dot may stand at its end. -/
def ascii (host : List Char) : Except HostNameDefect (List Char) :=
  if host.all Text.Punycode.isBasic then .ok (Text.lower host)
  else match firstIgnored? host with
    | some (c, position) => .error (.ignoredCharacter host c position)
    | none => do
      let labels := Text.splitAll isDot host
      let (labels, ending) :=
        if labels.getLast? = some [] then (labels.dropLast, ['.']) else (labels, [])
      let labels ← labels.mapM asciiLabel
      return ['.'].intercalate labels ++ ending

end HostName

end FlowBuilder
