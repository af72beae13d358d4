import FlowBuilder.Text.Glyph
import FlowBuilder.Text.Printable

/-!
# Quoted text

How a message shows a text between quotes. The quotes are single, unless the text holds a single
quote and no double one. The quote that is used and the backslash are written after a backslash,
tab, line feed and carriage return as their letters, and every other character that is not
printable by its number: two, four or eight hexadecimal digits, whichever first suffices.
-/

namespace FlowBuilder.Text

/-- A number in lowercase hexadecimal, with leading zeros up to `width` digits. -/
def hexDigits (width n : Nat) : List Char :=
  let digits := Nat.toDigits 16 n
  List.replicate (width - digits.length) '0' ++ digits

/-- The numbered escape of a code point. -/
def numberedEscape (n : Nat) : List Char :=
  if n < 0x100 then '\\' :: 'x' :: hexDigits 2 n
  else if n < 0x10000 then '\\' :: 'u' :: hexDigits 4 n
  else '\\' :: 'U' :: hexDigits 8 n

/-- A glyph as it stands between the given quotes. -/
def quotedGlyph (quote : Char) : Glyph → List Char
  | .surrogate offset => numberedEscape (0xD800 + offset.val)
  | .char c =>
    if c = quote ∨ c = '\\' then ['\\', c]
    else if c = '\t' then ['\\', 't']
    else if c = '\n' then ['\\', 'n']
    else if c = '\r' then ['\\', 'r']
    else if isPrintable c then [c]
    else numberedEscape c.toNat

/-- The quote that encloses a text. -/
def quoteFor (gs : List Glyph) : Char :=
  if gs.contains (.char '\x27') && !gs.contains (.char '"') then '"' else '\x27'

/-- A text between quotes. -/
def quoted (gs : List Glyph) : List Char :=
  let quote := quoteFor gs
  quote :: gs.flatMap (quotedGlyph quote) ++ [quote]

/-- A string between quotes. -/
def quotedString (s : String) : String :=
  String.ofList (quoted (Glyph.ofString s))

end FlowBuilder.Text
