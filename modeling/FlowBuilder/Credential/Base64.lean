/-!
# Base64

Decoding the base64 of tokens. Both alphabets are understood, that of the web and the older one, and
every other character but the padding is passed over. What follows a complete padding is not read.
-/

namespace FlowBuilder.Base64

/-- The six bits for which a character stands. -/
def digit? (b : UInt8) : Option Nat :=
  let n := b.toNat
  if 0x41 ≤ n ∧ n ≤ 0x5A then some (n - 0x41)
  else if 0x61 ≤ n ∧ n ≤ 0x7A then some (n - 0x61 + 26)
  else if 0x30 ≤ n ∧ n ≤ 0x39 then some (n - 0x30 + 52)
  else if n = 0x2B ∨ n = 0x2D then some 62
  else if n = 0x2F ∨ n = 0x5F then some 63
  else none

/-- The padding character. -/
def padding : UInt8 := 0x3D

/-- How much of a group of four characters has been read. -/
inductive Group where
  /-- Nothing. -/
  | empty
  /-- One character: six bits. -/
  | one (bits : Nat)
  /-- Two characters: four bits are left; `padded` says that a padding character has followed. -/
  | two (bits : Nat) (padded : Bool)
  /-- Three characters: two bits are left. -/
  | three (bits : Nat)
  deriving DecidableEq, Repr

/-- The bytes of the rest of a text, from within a group. A text that ends in a group has none. -/
def decodeFrom : Group → List UInt8 → Option (List UInt8)
  | .empty, [] => some []
  | _, [] => none
  | group, b :: r =>
    if b = padding then
      match group with
      | .three _ => some []
      | .two _ true => some []
      | .two bits false => decodeFrom (.two bits true) r
      -- padding that cannot end the group is passed over
      | start => decodeFrom start r
    else
      match digit? b with
      | none => decodeFrom group r
      | some d =>
        match group with
        | .empty => decodeFrom (.one d) r
        | .one bits =>
          (decodeFrom (.two (d % 16) false) r).map (UInt8.ofNat (bits * 4 + d / 16) :: ·)
        | .two bits _ =>
          (decodeFrom (.three (d % 4)) r).map (UInt8.ofNat (bits * 16 + d / 4) :: ·)
        | .three bits => (decodeFrom .empty r).map (UInt8.ofNat (bits * 64 + d) :: ·)

/-- The bytes of a text whose padding may have been left out. -/
def decode (text : List UInt8) : Option (List UInt8) :=
  decodeFrom .empty (text ++ List.replicate ((4 - text.length % 4) % 4) padding)

end FlowBuilder.Base64
