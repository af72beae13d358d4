/-!
# Punycode

A text outside ASCII in the letters, digits and hyphens of ASCII. The ASCII characters come first.
After a hyphen stand the others, from the lowest code on: for each, how many steps a reader takes
from the last one, through the places of the text and then through the codes. The steps are numbers
of digits to the base 36, the least significant first; a digit below a threshold ends its number.
The thresholds depend on a bias, which follows the size of the numbers.

Every number is written in letters and decimal digits (`isAlphanum_of_mem_digits`).
-/

namespace FlowBuilder.Text.Punycode

/-- The base of the numbers. -/
def base : Nat := 36

/-- A digit: a letter, or from 26 on a decimal digit. -/
def digit (n : Nat) : Char :=
  if n < 26 then Char.ofNat ('a'.toNat + n) else Char.ofNat ('0'.toNat + (n - 26))

/-- A digit below the base is a letter or a decimal digit. -/
theorem isAlphanum_digit {n : Nat} (h : n < base) : (digit n).isAlphanum = true := by
  have all : ∀ m < base, (digit m).isAlphanum = true := by decide
  exact all n h

/-- The threshold of the digit that stands for `place`, which counts up in steps of the base. It
lies between 1 and 26. -/
def threshold (bias place : Nat) : Nat :=
  min 26 (max 1 (place - bias))

/-- A threshold is positive, so that numbers get smaller from digit to digit. -/
theorem threshold_pos (bias place : Nat) : 0 < threshold bias place := by
  unfold threshold
  omega

/-- A threshold lies below the base. -/
theorem threshold_lt (bias place : Nat) : threshold bias place < base := by
  unfold threshold base
  omega

/-- The digits of a number from `place` on. -/
def digits (bias place n : Nat) : List Char :=
  let t := threshold bias place
  if n < t then [digit n]
  else digit (t + (n - t) % (base - t)) :: digits bias (place + base) ((n - t) / (base - t))
termination_by n
decreasing_by
  have := threshold_pos bias place
  have := Nat.div_le_self (n - threshold bias place) (base - threshold bias place)
  omega

/-- A number is written in letters and decimal digits. -/
theorem isAlphanum_of_mem_digits {bias place n : Nat} {c : Char} (h : c ∈ digits bias place n) :
    c.isAlphanum = true := by
  fun_induction digits bias place n with
  | case1 place n t hn =>
    have := threshold_lt bias place
    rw [List.mem_singleton.1 h]
    exact isAlphanum_digit (by omega)
  | case2 place n t hn ih =>
    have hlt : t < base := threshold_lt bias place
    rcases List.mem_cons.1 h with rfl | h
    · have := Nat.mod_lt (n - t) (Nat.sub_pos_of_lt hlt)
      exact isAlphanum_digit (by omega)
    · exact ih h

/-- The bias for numbers about the size of `n`, above that of `place`. -/
def biasOfSize (place n : Nat) : Nat :=
  if (base - 1) * 26 / 2 < n then biasOfSize (place + base) (n / (base - 1))
  else place + base * n / (n + 38)
termination_by n
decreasing_by
  have hb : base - 1 = 35 := rfl
  rw [hb] at *
  exact Nat.div_lt_self (by omega) (by decide)

/-- The bias after the number `n`, when `count` characters have been placed. The first number is
much larger than those that follow it. -/
def biasAfter (n count : Nat) (first : Bool) : Nat :=
  let size := if first then n / 700 else n / 2
  biasOfSize 0 (size + size / count)

/-- A text in the course of being written. -/
structure Progress where
  /-- The digits that are written. -/
  written : List Char
  /-- The number of characters that are placed. -/
  placed : Nat
  /-- The least code that is not yet dealt with. -/
  code : Nat
  /-- The steps since the last character was placed. -/
  steps : Nat
  /-- The bias of the next number. -/
  bias : Nat

/-- Steps over a character, or places it if it has the code that is dealt with. -/
def Progress.pass (basic : Nat) (p : Progress) (c : Char) : Progress :=
  if c.toNat < p.code then { p with steps := p.steps + 1 }
  else if c.toNat = p.code then
    { p with
      written := p.written ++ digits p.bias base p.steps
      placed := p.placed + 1
      steps := 0
      bias := biasAfter p.steps (p.placed + 1) (p.placed = basic) }
  else p

/-- Places all characters that have a code. -/
def Progress.place (cs : List Char) (basic : Nat) (p : Progress) (code : Nat) : Progress :=
  let start := { p with steps := p.steps + (code - p.code) * (p.placed + 1), code }
  let passed := cs.foldl (pass basic) start
  { passed with steps := passed.steps + 1, code := code + 1 }

/-- Whether a character is one of ASCII. -/
def isBasic (c : Char) : Bool :=
  c.toNat < 0x80

/-- A text in Punycode. -/
def encode (cs : List Char) : List Char :=
  let basic := cs.filter isBasic
  let codes := (((cs.filter (!isBasic ·)).map Char.toNat).mergeSort).eraseDups
  let done := codes.foldl (Progress.place cs basic.length) ⟨[], basic.length, 0x80, 0, 72⟩
  basic ++ (if basic = [] then [] else ['-']) ++ done.written

end FlowBuilder.Text.Punycode
