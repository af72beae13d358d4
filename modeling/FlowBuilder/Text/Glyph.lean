/-!
# Glyphs

The characters of a text in which a surrogate may stand alone. The escapes of a JSON text name
UTF-16 units, so that a decoded string may hold half of a pair; core's characters do not include
such halves. `Glyph.ofString` and `Glyph.toString` go between both kinds of text, and lose nothing
of an ordinary one (`toString_ofString`). `Glyph.chars?` tells whether a text is ordinary; every
string is (`chars?_ofString`).

Plans, records and claims hold strings. Where one is read from a value, a lone surrogate is kept as
U+FFFD only; what depends on the surrogate itself is decided on the glyphs before.
-/

namespace FlowBuilder

/-- A character, or a surrogate without its partner. -/
inductive Glyph where
  /-- An ordinary character. -/
  | char (c : Char)
  /-- The surrogate `0xD800 + offset`. -/
  | surrogate (offset : Fin 0x800)
  deriving DecidableEq, Repr, Inhabited

namespace Glyph

/-- The glyph of a code point or of a 16-bit unit. -/
def ofCode (n : Nat) : Glyph :=
  if h : 0xD800 ≤ n ∧ n < 0xE000 then .surrogate ⟨n - 0xD800, by omega⟩ else .char (Char.ofNat n)

/-- The character for which a surrogate pair stands, if the two glyphs are one. -/
def pair? : Glyph → Glyph → Option Char
  | .surrogate high, .surrogate low =>
    if high.val < 0x400 ∧ 0x400 ≤ low.val then
      some (Char.ofNat (0x10000 + high.val * 0x400 + (low.val - 0x400)))
    else none
  | _, _ => none

/-- A text with each surrogate pair in it joined, from the left. -/
def joinPairs : List Glyph → List Glyph
  | [] => []
  | [g] => [g]
  | g :: h :: r =>
    match pair? g h with
    | some c => .char c :: joinPairs r
    | none => g :: joinPairs (h :: r)

/-- The glyphs of a string. -/
def ofString (s : String) : List Glyph :=
  s.toList.map .char

/-- The character shown for a glyph: U+FFFD for a lone surrogate, which has no character. -/
def shown : Glyph → Char
  | .char c => c
  | .surrogate _ => '\uFFFD'

/-- The characters shown for a text. -/
def toChars (gs : List Glyph) : List Char :=
  gs.map shown

/-- The string shown for a text. -/
def toString (gs : List Glyph) : String :=
  String.ofList (toChars gs)

/-- The ordinary character of a glyph, if it is one. -/
def char? : Glyph → Option Char
  | .char c => some c
  | .surrogate _ => none

/-- The characters of a text in which no surrogate stands alone. -/
def chars? (gs : List Glyph) : Option (List Char) :=
  gs.mapM char?

/-- Ordinary characters are found again among glyphs. -/
@[simp]
theorem chars?_map_char (cs : List Char) : chars? (cs.map .char) = some cs := by
  induction cs with
  | nil => rfl
  | cons c r ih => simp_all [chars?, char?]

/-- All characters of a string are ordinary. -/
@[simp]
theorem chars?_ofString (s : String) : chars? (ofString s) = some s.toList :=
  chars?_map_char s.toList

/-- An ordinary character is shown as it is. -/
@[simp]
theorem toChars_map_char (cs : List Char) : toChars (cs.map .char) = cs := by
  induction cs with
  | nil => rfl
  | cons c r ih => simpa [toChars, shown] using ih

/-- A string survives the way to glyphs and back. -/
@[simp]
theorem toString_ofString (s : String) : toString (ofString s) = s := by
  simp [toString, ofString]

/-- Different strings have different glyphs. -/
theorem ofString_injective {s t : String} (h : ofString s = ofString t) : s = t := by
  rw [← toString_ofString s, h, toString_ofString]

/-- The glyphs of a joined text are those of its parts. -/
theorem ofString_append (s t : String) : ofString (s ++ t) = ofString s ++ ofString t := by
  simp [ofString]

/-- The glyphs of a text between two others, part by part. -/
theorem ofString_around (front s back : String) :
    ofString (front ++ s ++ back) = ofString front ++ (ofString s ++ ofString back) := by
  rw [ofString_append, ofString_append, List.append_assoc]

/-- The characters among the glyphs of a string are its own. -/
theorem mem_ofString {s : String} {c : Char} : .char c ∈ ofString s ↔ c ∈ s.toList := by
  simp [ofString]

end Glyph

end FlowBuilder
