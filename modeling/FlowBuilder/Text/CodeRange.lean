/-!
# Ranges of code points

Classes of characters as lists of closed ranges. A character is within a list of ranges just if it
lies in one of them (`isWithin_iff`).
-/

namespace FlowBuilder.Text

/-- A closed range of code points, by its first and its last. -/
abbrev CodeRange := Nat × Nat

/-- Whether a character lies in one of some ranges. -/
def isWithin (ranges : List CodeRange) (c : Char) : Bool :=
  ranges.any fun (first, last) => first ≤ c.toNat && c.toNat ≤ last

/-- A character is within some ranges just if it lies in one of them. -/
theorem isWithin_iff {ranges : List CodeRange} {c : Char} :
    isWithin ranges c = true ↔ ∃ range ∈ ranges, range.1 ≤ c.toNat ∧ c.toNat ≤ range.2 := by
  simp [isWithin]

end FlowBuilder.Text
