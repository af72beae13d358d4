import FlowBuilder.Decimal.Reading
import FlowBuilder.Json.Basic

/-!
# Reading JSON

A reader of JSON text that takes some forms beyond the standard: `NaN`, `Infinity` and `-Infinity`
are numbers, and within strings a surrogate may stand alone, as itself or as an escape. It keeps two
limits: a whole number has at most `Decimal.digitLimit` digits, and arrays and objects nest at most
to a given depth. What a number comes to is a parameter of the reader: its value, or the text in
which it is written; and so is what the members of an object come to.

Every reader returns what follows the part that it has read, which is shorter than its input; that
bound ends every loop. A malformed text is located by the number of glyphs that stand after the
place where it stops being JSON, so that a reader needs no position of its own.
-/

namespace FlowBuilder.Json

/-- Why a text is not read. -/
inductive ReadError where
  /-- The text stops being JSON where `left` glyphs remain. -/
  | malformed (left : Nat)
  /-- A whole number has more digits than the limit. -/
  | numberTooLong
  /-- Values nest deeper than the limit. -/
  | nestingTooDeep
  deriving DecidableEq, Repr

/-- What a reader leaves of its input: less than it was given. -/
abbrev Shorter (gs : List Glyph) := { rest : List Glyph // rest.length < gs.length }

/-- A reader of one part of a text. -/
abbrev Reader (α : Type) := (gs : List Glyph) → Except ReadError (α × Shorter gs)

/-- The glyphs that may stand between the parts of a JSON text. -/
def isGap (g : Glyph) : Bool :=
  g = .char ' ' || g = .char '\t' || g = .char '\n' || g = .char '\r'

/-- The text after the gap at its front. -/
def skipGap (gs : List Glyph) : List Glyph :=
  gs.dropWhile isGap

/-- Skipping a gap leaves no more than there was. -/
theorem length_skipGap_le (gs : List Glyph) : (skipGap gs).length ≤ gs.length :=
  (List.dropWhile_suffix isGap).length_le

/-! ### Strings -/

/-- The value of a hexadecimal digit. -/
def hexDigit? (c : Char) : Option Nat :=
  if c.isDigit then some (c.toNat - '0'.toNat)
  else if 'a' ≤ c && c ≤ 'f' then some (c.toNat - 'a'.toNat + 10)
  else if 'A' ≤ c && c ≤ 'F' then some (c.toNat - 'A'.toNat + 10)
  else none

/-- The number of four hexadecimal digits. -/
def hexUnit? (a b c d : Glyph) : Option Nat :=
  [a, b, c, d].foldlM (fun n g => (g.char?.bind hexDigit?).map (n * 16 + ·)) 0

/-- The character that a one-letter escape names. -/
def escaped? : Glyph → Option Char
  | .char '"' => some '"'
  | .char '\\' => some '\\'
  | .char '/' => some '/'
  | .char 'b' => some '\x08'
  | .char 'f' => some '\x0c'
  | .char 'n' => some '\n'
  | .char 'r' => some '\r'
  | .char 't' => some '\t'
  | _ => none

/-- Whether a glyph must not stand in a string as it is. -/
def isControl : Glyph → Bool
  | .char c => c.toNat < 0x20
  | .surrogate _ => false

/-- A unit of a string. -/
inductive StringUnit where
  /-- A glyph, as it is or by a one-letter escape. -/
  | plain (g : Glyph)
  /-- The number that an escape states. -/
  | numbered (n : Nat)

/-- The text of units: two surrogates that make a pair are joined if escapes state both. -/
def textOfUnits : List StringUnit → List Glyph
  | [] => []
  | .plain g :: r => g :: textOfUnits r
  | [.numbered n] => [.ofCode n]
  | .numbered n :: .plain g :: r => .ofCode n :: g :: textOfUnits r
  | .numbered m :: .numbered n :: r =>
    match Glyph.pair? (.ofCode m) (.ofCode n) with
    | some c => .char c :: textOfUnits r
    | none => .ofCode m :: textOfUnits (.numbered n :: r)

/-- The units of a string with what follows it, or why there is no string. -/
abbrev UnitReading := Except ReadError (List StringUnit × List Glyph)

/-- A unit in front of those that a reading gives. -/
def consUnit (u : StringUnit) : UnitReading → UnitReading
  | .ok (us, rest) => .ok (u :: us, rest)
  | .error e => .error e

/-- A unit is put in front of those that are read after it. -/
theorem consUnit_eq_ok_iff {u : StringUnit} {x : UnitReading} {us : List StringUnit}
    {rest : List Glyph} :
    consUnit u x = .ok (us, rest) ↔ ∃ us', x = .ok (us', rest) ∧ us = u :: us' := by
  match x with
  | .error e => exact ⟨nofun, nofun⟩
  | .ok (us', rest') =>
    constructor
    · rintro ⟨⟩
      exact ⟨us', rfl, rfl⟩
    · rintro ⟨_, ⟨⟩, rfl⟩
      rfl

/-- A unit in front keeps the bound on what follows. -/
theorem consUnit_shorter {u : StringUnit} {x : UnitReading} {us : List StringUnit}
    {rest : List Glyph} {n : Nat} (h : consUnit u x = .ok (us, rest))
    (ih : ∀ {us' : List StringUnit} {rest' : List Glyph}, x = .ok (us', rest') → rest'.length < n) :
    rest.length < n := by
  obtain ⟨us', hx, -⟩ := consUnit_eq_ok_iff.1 h
  exact ih hx

/-- The units of a string up to its closing quote, which is read too. A string that does not end is
reported at its opening quote, before which `start` glyphs remain. -/
def stringUnits (start : Nat) : List Glyph → UnitReading
  | [] => .error (.malformed start)
  | .char '"' :: r => .ok ([], r)
  | [.char '\\'] => .error (.malformed start)
  | .char '\\' :: .char 'u' :: a :: b :: c :: d :: r =>
    match hexUnit? a b c d, r with
    | some n, _ :: _ => consUnit (.numbered n) (stringUnits start r)
    -- digits at the very end of a text count as cut off, and are reported at the letter
    | _, _ => .error (.malformed (r.length + 5))
  | .char '\\' :: g :: r =>
    match escaped? g with
    | some c => consUnit (.plain (.char c)) (stringUnits start r)
    -- an escape that lacks digits is reported at its letter, an unknown one at its backslash
    | none => .error (.malformed (r.length + if g = .char 'u' then 1 else 2))
  | g :: r =>
    if isControl g then .error (.malformed (r.length + 1))
    else consUnit (.plain g) (stringUnits start r)

/-- Reading the units of a string leaves less than there was. -/
theorem stringUnits_shorter {start : Nat} {gs : List Glyph} {us : List StringUnit}
    {rest : List Glyph} (h : stringUnits start gs = .ok (us, rest)) :
    rest.length < gs.length := by
  fun_induction stringUnits start gs generalizing us rest with
  | case1 | case3 | case5 | case7 | case8 => cases h
  | case2 => cases h; simp
  | case4 a b c d n next r hn ih =>
    have := consUnit_shorter h ih
    simp only [List.length_cons] at this ⊢
    omega
  | case6 g r _ c hc ih =>
    have := consUnit_shorter h ih
    simp only [List.length_cons]
    omega
  | case9 g r _ _ _ _ _ ih =>
    have := consUnit_shorter h ih
    simp only [List.length_cons]
    omega

/-- The rest of a string after its opening quote. -/
def stringBody : Reader (List Glyph) := fun gs =>
  match h : stringUnits (gs.length + 1) gs with
  | .error e => .error e
  | .ok (us, rest) => .ok (textOfUnits us, ⟨rest, stringUnits_shorter h⟩)

/-! ### Numbers -/

/-- The digits at the front of a text, and what follows. -/
def digits (cs : List Char) : List Char × List Char :=
  (cs.takeWhile Char.isDigit, cs.dropWhile Char.isDigit)

/-- The parts of a number as they are written. -/
structure NumberText where
  /-- Whether a minus stands before it. -/
  negative : Bool
  /-- The digits before the point. -/
  whole : List Char
  /-- The digits after the point, if there is one. -/
  fraction : Option (List Char)
  /-- The exponent, if there is one. -/
  exponent : Option Int

/-- The fraction at the front of a text: a point and at least one digit. -/
def fraction : List Char → Option (List Char) × List Char
  | '.' :: d :: r =>
    if d.isDigit then (some (d :: (digits r).1), (digits r).2) else (none, '.' :: d :: r)
  | cs => (none, cs)

/-- The exponent at the front of a text: a letter, perhaps a sign, and at least one digit. -/
def exponent : List Char → Option Int × List Char
  | e :: r =>
    if e = 'e' ∨ e = 'E' then
      let (negative, r') : Bool × List Char := match r with
        | '-' :: t => (true, t)
        | '+' :: t => (false, t)
        | t => (false, t)
      match digits r' with
      | ([], _) => (none, e :: r)
      | (ds, rest) =>
        let n : Int := Decimal.natOfDigits ds
        (some (if negative then -n else n), rest)
    else (none, e :: r)
  | [] => (none, [])

/-- The number at the front of a text. The digits before the point are one zero, or start with
another digit. -/
def numberText? (cs : List Char) : Option (NumberText × List Char) :=
  let (negative, cs) : Bool × List Char := match cs with
    | '-' :: r => (true, r)
    | r => (false, r)
  let whole? : Option (List Char × List Char) := match cs with
    | '0' :: r => some (['0'], r)
    | d :: r => if d.isDigit then some (d :: (digits r).1, (digits r).2) else none
    | [] => none
  whole?.map fun (whole, r) =>
    let (frac, r) := fraction r
    let (exp, r) := exponent r
    (⟨negative, whole, frac, exp⟩, r)

/-- What a number comes to, by the characters in which it is written and its parts. -/
abbrev NumberReading := List Char → NumberText → Except ReadError Json

/-- A number as the text in which it is written. -/
def asWritten : NumberReading := fun cs _ =>
  .ok (.string (cs.map .char))

/-- The value of a number. Without fraction and exponent it is whole. -/
def asNumber : NumberReading := fun _ t =>
  match t.fraction, t.exponent with
  | none, none =>
    if Decimal.digitLimit < t.whole.length then .error .numberTooLong
    else
      let n : Int := Decimal.natOfDigits t.whole
      .ok (.int (if t.negative then -n else n))
  | frac, exp =>
    let places := frac.getD []
    .ok (.float (Decimal.toFloat t.negative (Decimal.natOfDigits (t.whole ++ places))
      (exp.getD 0 - places.length)))

theorem length_digits_le (cs : List Char) : (digits cs).2.length ≤ cs.length :=
  (List.dropWhile_suffix Char.isDigit).length_le

theorem length_fraction_le (cs : List Char) : (fraction cs).2.length ≤ cs.length := by
  fun_cases fraction cs with
  | case1 d r h => have := length_digits_le r; simp; omega
  | case2 d r h => simp
  | case3 cs h => simp

theorem length_exponent_le (cs : List Char) : (exponent cs).2.length ≤ cs.length := by
  unfold exponent
  split
  · next e r =>
    split
    · split
      next negative r' hr' =>
      have hle : r'.length ≤ r.length := by
        split at hr' <;> cases hr' <;> simp
      split
      · simp
      · next ds rest _ hd =>
        have := length_digits_le r'
        simp only [hd] at this
        simp only [List.length_cons]
        omega
    · simp
  · simp

/-- A number takes up some of the text. -/
theorem numberText?_shorter {cs : List Char} {t : NumberText} {rest : List Char}
    (h : numberText? cs = some (t, rest)) : rest.length < cs.length := by
  unfold numberText? at h
  split at h
  next negative cs' hcs =>
  have hle : cs'.length ≤ cs.length := by
    split at hcs <;> cases hcs <;> simp
  simp only [Option.map_eq_some_iff, Prod.exists, Prod.mk.injEq] at h
  obtain ⟨whole, r, hw, -, hrest⟩ := h
  -- the whole part takes a character at least; all other parts may be absent
  have hr : r.length < cs'.length := by
    split at hw
    · cases hw; simp
    · next d r' _ =>
      split at hw
      · simp only [Option.some.injEq, Prod.mk.injEq] at hw
        have := length_digits_le r'
        rw [hw.2] at this
        simp only [List.length_cons]
        omega
      · cases hw
    · cases hw
  have hf := length_fraction_le r
  have he := length_exponent_le (fraction r).2
  rw [hrest] at he
  omega

/-- The characters that occur in numbers. -/
def isOfNumber (c : Char) : Bool :=
  c.isDigit || ['-', '+', '.', 'e', 'E'].contains c

/-- The longest part at the front of a text that has only characters of numbers. -/
def numberChars : List Glyph → List Char
  | .char c :: r => if isOfNumber c then c :: numberChars r else []
  | _ => []

theorem length_numberChars_le (gs : List Glyph) : (numberChars gs).length ≤ gs.length := by
  fun_induction numberChars gs with
  | case1 c r _ ih => simpa using ih
  | case2 => simp
  | case3 => simp

/-- A number. Where none starts, the text is malformed there. -/
def number (reading : NumberReading) : Reader Json := fun gs =>
  let cs := numberChars gs
  match h : numberText? cs with
  | none => .error (.malformed gs.length)
  | some (t, rest) =>
    let used := cs.length - rest.length
    (reading (cs.take used) t).map fun v =>
      (v, ⟨gs.drop used, by
        have := numberText?_shorter h
        have : cs.length ≤ gs.length := length_numberChars_le gs
        simp only [List.length_drop]
        omega⟩)

/-! ### Values -/

/-- The words that are values. -/
def words : List (String × Json) :=
  [("null", .null), ("true", .bool true), ("false", .bool false), ("NaN", .float (0.0 / 0.0)),
    ("Infinity", .float (1.0 / 0.0)), ("-Infinity", .float (-1.0 / 0.0))]

/-- What follows a word is shorter than the text. -/
theorem length_drop_lt {front gs : List Glyph} (h : 0 < front.length ∧ front.isPrefixOf gs) :
    (gs.drop front.length).length < gs.length := by
  have hle := (List.isPrefixOf_iff_prefix.mp h.2).length_le
  rw [List.length_drop]
  omega

/-- The value whose word stands at the front of a text, if one does. -/
def word? (gs : List Glyph) : Option (Json × Shorter gs) :=
  words.findSome? fun (word, v) =>
    let front := Glyph.ofString word
    if h : 0 < front.length ∧ front.isPrefixOf gs then
      some (v, ⟨gs.drop front.length, length_drop_lt h⟩)
    else none

/-- A value without parts that is not quoted: a word, or else a number. -/
def scalar (reading : NumberReading) : Reader Json := fun gs =>
  match word? gs with
  | some v => .ok v
  | none => number reading gs

/-- One item or more, with commas between and the bracket `close` behind. -/
def items {α : Type} (item : Reader α) (close : Char) (gs : List Glyph) :
    Except ReadError (List α × Shorter gs) :=
  match item gs with
  | .error e => .error e
  | .ok (a, ⟨r, hr⟩) =>
    match hgap : skipGap r with
    | [] => .error (.malformed 0)
    | g :: r' =>
      have hr' : r'.length < gs.length := by
        have := length_skipGap_le r
        rw [hgap, List.length_cons] at this
        omega
      if g = .char close then .ok ([a], ⟨r', hr'⟩)
      else if g = .char ',' then
        have hskip := length_skipGap_le r'
        match items item close (skipGap r') with
        | .error e => .error e
        | .ok (as, ⟨rest, h⟩) => .ok (a :: as, ⟨rest, by omega⟩)
      else .error (.malformed (r'.length + 1))
termination_by gs.length
decreasing_by omega

/-- The items after an opening bracket, of which there may be none. -/
def bracketed {α : Type} (item : Reader α) (close : Char) : Reader (List α) := fun gs =>
  have hle := length_skipGap_le gs
  match hgap : skipGap gs with
  | g :: r =>
    if g = .char close then
      .ok ([], ⟨r, by rw [hgap, List.length_cons] at hle; omega⟩)
    else
      match items item close (g :: r) with
      | .error e => .error e
      | .ok (as, ⟨rest, h⟩) => .ok (as, ⟨rest, by rw [hgap] at hle; omega⟩)
  | [] =>
    match items item close [] with
    | .error e => .error e
    | .ok (_, ⟨_, h⟩) => absurd h (Nat.not_lt_zero _)

/-- A member of an object: a quoted key, a colon and a value. -/
def member (value : Reader Json) : Reader (List Glyph × Json)
  | .char '"' :: gs =>
    match stringBody gs with
    | .error e => .error e
    | .ok (key, ⟨r, hr⟩) =>
      match hgap : skipGap r with
      | .char ':' :: r' =>
        have hle := length_skipGap_le r
        have hle' := length_skipGap_le r'
        match value (skipGap r') with
        | .error e => .error e
        | .ok (v, ⟨rest, h⟩) =>
          .ok ((key, v), ⟨rest, by rw [hgap] at hle; simp only [List.length_cons] at *; omega⟩)
      | other => .error (.malformed other.length)
  | gs => .error (.malformed gs.length)

/-- A value at the front of a text, nesting at most `depth` deep. What the members of an object come
to is up to `object`. -/
def valueBy (object : List (List Glyph × Json) → Json) (reading : NumberReading) (depth : Nat) :
    Reader Json
  | .char '"' :: r =>
    (stringBody r).map fun (s, ⟨rest, h⟩) => (.string s, ⟨rest, Nat.lt_succ_of_lt h⟩)
  | .char '[' :: r =>
    match depth with
    | 0 => .error .nestingTooDeep
    | d + 1 => (bracketed (valueBy object reading d) ']' r).map fun (vs, ⟨rest, h⟩) =>
      (.array vs, ⟨rest, Nat.lt_succ_of_lt h⟩)
  | .char '\x7b' :: r =>
    match depth with
    | 0 => .error .nestingTooDeep
    | d + 1 => (bracketed (member (valueBy object reading d)) '\x7d' r).map fun (ms, ⟨rest, h⟩) =>
      (object ms, ⟨rest, Nat.lt_succ_of_lt h⟩)
  | gs => scalar reading gs

/-- A value at the front of a text. Of the members with one key, an object has the last. -/
abbrev value (reading : NumberReading) (depth : Nat) : Reader Json :=
  valueBy ofMembers reading depth

/-- The value that a whole text states, with gaps around it. -/
def readBy (object : List (List Glyph × Json) → Json) (reading : NumberReading) (depth : Nat)
    (gs : List Glyph) : Except ReadError Json :=
  match valueBy object reading depth (skipGap gs) with
  | .error e => .error e
  | .ok (v, ⟨rest, _⟩) =>
    match skipGap rest with
    | [] => .ok v
    | extra => .error (.malformed extra.length)

/-- The value that a text states in which surrogates may stand alone. -/
def readGlyphs (depth : Nat) (gs : List Glyph) : Except ReadError Json :=
  readBy ofMembers asNumber depth gs

/-- The value that a string states. -/
def read (depth : Nat) (s : String) : Except ReadError Json :=
  readGlyphs depth (Glyph.ofString s)

end FlowBuilder.Json
