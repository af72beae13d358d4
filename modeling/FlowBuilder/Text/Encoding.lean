import FlowBuilder.Text.Glyph

/-!
# Encodings

Texts as bytes. Unless a text says otherwise its bytes are those of UTF-8. It may say so by a byte
order mark in front; and a text that starts with an ASCII character, as every JSON text does, shows
by the zeros among its first bytes whether it is in UTF-16 or UTF-32, and in which order the bytes
of a unit stand (`Encoding.unmarked`).
-/

namespace FlowBuilder.Text

/-- The bytes of a text in UTF-8. -/
def utf8Bytes (cs : List Char) : List UInt8 :=
  cs.flatMap String.utf8EncodeChar

/-- The text that has one character for each byte, by its number. -/
def ofBytes (bytes : List UInt8) : List Char :=
  bytes.map fun b => Char.ofNat b.toNat

/-- The order of the bytes of a unit. -/
inductive ByteOrder where
  /-- The most significant byte comes first. -/
  | bigEndian
  /-- The least significant byte comes first. -/
  | littleEndian
  deriving DecidableEq, Repr

/-- The number that bytes state. -/
def ByteOrder.number : ByteOrder → List UInt8 → Nat
  | .bigEndian, bytes => bytes.foldl (fun n b => n * 256 + b.toNat) 0
  | .littleEndian, bytes => bytes.foldr (fun b n => n * 256 + b.toNat) 0

/-- An encoding of text. -/
inductive Encoding where
  /-- UTF-8. -/
  | utf8
  /-- UTF-16. -/
  | utf16 (order : ByteOrder)
  /-- UTF-32. -/
  | utf32 (order : ByteOrder)
  deriving DecidableEq, Repr

namespace Encoding

/-- The marks in front of texts in an encoding. One that starts with another stands before it. -/
def marks : List (List UInt8 × Encoding) :=
  [([0x00, 0x00, 0xFE, 0xFF], .utf32 .bigEndian), ([0xFF, 0xFE, 0x00, 0x00], .utf32 .littleEndian),
    ([0xFE, 0xFF], .utf16 .bigEndian), ([0xFF, 0xFE], .utf16 .littleEndian),
    ([0xEF, 0xBB, 0xBF], .utf8)]

/-- The encoding of a text that starts with an ASCII character, by its first bytes. -/
def unmarked : List UInt8 → Encoding
  | a :: b :: c :: d :: _ =>
    if a = 0 then (if b = 0 then .utf32 .bigEndian else .utf16 .bigEndian)
    else if b = 0 then
      if c = 0 ∧ d = 0 then .utf32 .littleEndian else .utf16 .littleEndian
    else .utf8
  | [a, b] =>
    if a = 0 then .utf16 .bigEndian
    else if b = 0 then .utf16 .littleEndian
    else .utf8
  | _ => .utf8

/-- What the first byte of a character in UTF-8 says: how many bytes follow it, its own part of the
code, and the least code that takes so many bytes. -/
def leadByte? (b : Nat) : Option (Nat × Nat × Nat) :=
  if b < 0x80 then some (0, b, 0)
  else if 0xC0 ≤ b ∧ b < 0xE0 then some (1, b - 0xC0, 0x80)
  else if 0xE0 ≤ b ∧ b < 0xF0 then some (2, b - 0xE0, 0x800)
  else if 0xF0 ≤ b ∧ b < 0xF8 then some (3, b - 0xF0, 0x10000)
  else none

/-- The codes of the characters that bytes state in UTF-8. Of the first character `missing` bytes
are still to come, `code` is the part of its code so far, and it must come to `least`. -/
def codes8? (missing code least : Nat) : List UInt8 → Option (List Nat)
  | [] => if missing = 0 then some [] else none
  | b :: r =>
    match missing with
    | 0 =>
      match leadByte? b.toNat with
      | none => none
      | some (0, code, _) => (codes8? 0 0 0 r).map (code :: ·)
      | some (missing + 1, code, least) => codes8? (missing + 1) code least r
    | missing + 1 =>
      if 0x80 ≤ b ∧ b < 0xC0 then
        let code := code * 0x40 + (b.toNat - 0x80)
        match missing with
        | 0 => if least ≤ code then (codes8? 0 0 0 r).map (code :: ·) else none
        | missing + 1 => codes8? (missing + 1) code least r
      else none

/-- The 16-bit units of bytes, which must be whole units. -/
def units16? (order : ByteOrder) : List UInt8 → Option (List Nat)
  | a :: b :: r => (units16? order r).map (order.number [a, b] :: ·)
  | [] => some []
  | [_] => none

/-- The 32-bit units of bytes, which must be whole units. -/
def units32? (order : ByteOrder) : List UInt8 → Option (List Nat)
  | a :: b :: c :: d :: r => (units32? order r).map (order.number [a, b, c, d] :: ·)
  | [] => some []
  | _ => none

/-- The greatest code of a character. -/
def greatestCode : Nat := 0x10FFFF

/-- The text of codes, none of which may be too great. -/
def ofCodes? (codes : List Nat) : Option (List Glyph) :=
  if codes.all (· ≤ greatestCode) then some (codes.map .ofCode) else none

/-- The text that bytes state in an encoding. Surrogates may stand alone. -/
def decode? : Encoding → List UInt8 → Option (List Glyph)
  | .utf8, bytes => (codes8? 0 0 0 bytes).bind ofCodes?
  | .utf16 order, bytes =>
    (units16? order bytes).map fun units => Glyph.joinPairs (units.map .ofCode)
  | .utf32 order, bytes => (units32? order bytes).bind ofCodes?

end Encoding

/-- The text that bytes state, in the encoding that they show. -/
def ofEncoded? (bytes : List UInt8) : Option (List Glyph) :=
  match Encoding.marks.find? (·.1.isPrefixOf bytes) with
  | some (mark, encoding) => encoding.decode? (bytes.drop mark.length)
  | none => (Encoding.unmarked bytes).decode? bytes

end FlowBuilder.Text
