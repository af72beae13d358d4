/-!
# Blank characters

Two sets of characters that separate words, and trimming by the wider one. `isSpace` is the
white-space property of the character database: what surrounds a number that is written as text.
`isBlank` adds the four information separators U+001C to U+001F: what surrounds a subject, a name
or any other text that a request states. It holds every character that core's `Char.isWhitespace`
holds (`isBlank_of_isWhitespace`).
-/

namespace FlowBuilder.Text

/-- White space by the character database. -/
def isSpace (c : Char) : Bool :=
  let n := c.toNat
  (0x9 ≤ n && n ≤ 0xD) || n == 0x20 || n == 0x85 || n == 0xA0 || n == 0x1680 ||
    (0x2000 ≤ n && n ≤ 0x200A) || n == 0x2028 || n == 0x2029 || n == 0x202F || n == 0x205F ||
    n == 0x3000

/-- White space or an information separator. -/
def isBlank (c : Char) : Bool :=
  isSpace c || (0x1C ≤ c.toNat && c.toNat ≤ 0x1F)

/-- A text without the leading and trailing characters of a class. -/
def trimBy (p : Char → Bool) (cs : List Char) : List Char :=
  ((cs.dropWhile p).reverse.dropWhile p).reverse

/-- A text without the blanks around it. -/
def trim (cs : List Char) : List Char :=
  trimBy isBlank cs

/-- A string without the blanks around it. -/
def strip (s : String) : String :=
  String.ofList (trim s.toList)

/-- Every white-space character that core knows is blank. -/
theorem isBlank_of_isWhitespace {c : Char} (h : c.isWhitespace = true) : isBlank c = true := by
  simp only [Char.isWhitespace, Bool.or_eq_true, decide_eq_true_eq] at h
  rcases h with ((rfl | rfl) | rfl) | rfl <;> decide

@[simp]
theorem trim_nil : trim [] = [] := rfl

end FlowBuilder.Text
