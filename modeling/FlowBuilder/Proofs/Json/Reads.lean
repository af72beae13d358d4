import FlowBuilder.Json.Reader

/-!
# What the readers give

`Json.Reads` says that a reader finds a part at the front of a text, and what it leaves. The readers
give just what a grammar says: `ReadsUnits`, `ReadsScalar`, `ReadsItems`, `ReadsBracketed`,
`ReadsMember` and `ReadsValue` are its rules, by which a text that is written out can be read by
hand, and a fact about all that is read is proved by induction.

* `stringUnits_eq_ok_iff`, `reads_items_iff`, `reads_bracketed_iff`, `reads_member_iff`,
  `reads_valueBy_iff`: the readers give what the rules say, and nothing else.
* `reads_scalar_iff`: words and numbers exclude each other.
* `reads_string`, `reads_array`, `reads_object`: strings of ordinary characters, and brackets around
  one part.
-/

namespace FlowBuilder.Json

variable {α : Type}

/-- A reader finds `a` at the front of a text and leaves `rest`. -/
def Reads (reader : Reader α) (gs : List Glyph) (a : α) (rest : List Glyph) : Prop :=
  ∃ h, reader gs = .ok (a, ⟨rest, h⟩)

/-- What is read takes up some text. -/
theorem Reads.length_lt {reader : Reader α} {gs r : List Glyph} {a : α} (h : Reads reader gs a r) :
    r.length < gs.length :=
  h.1

/-- A text is read in one way. -/
theorem Reads.unique {reader : Reader α} {gs r r' : List Glyph} {a a' : α} (h : Reads reader gs a r)
    (h' : Reads reader gs a' r') : a = a' ∧ r = r' := by
  obtain ⟨_, h⟩ := h
  obtain ⟨_, h'⟩ := h'
  rw [h] at h'
  cases h'
  exact ⟨rfl, rfl⟩

/-- A glyph behind a gap takes up some text. -/
theorem length_lt_of_skipGap_eq {g : Glyph} {gs r : List Glyph} (h : skipGap gs = g :: r) :
    r.length < gs.length := by
  have hle := length_skipGap_le gs
  rw [h] at hle
  exact hle

/-! ### Strings -/

/-- The units of a string, up to its closing quote. -/
inductive ReadsUnits : List Glyph → List StringUnit → List Glyph → Prop where
  /-- The quote. -/
  | close {rest : List Glyph} : ReadsUnits (.char '"' :: rest) [] rest
  /-- Four digits that name a unit. -/
  | numbered {a b c d : Glyph} {n : Nat} {gs rest : List Glyph} {us : List StringUnit}
      (hdigits : hexUnit? a b c d = some n) (hrest : ReadsUnits gs us rest) :
      ReadsUnits (.char '\\' :: .char 'u' :: a :: b :: c :: d :: gs) (.numbered n :: us) rest
  /-- A letter that names a character. -/
  | escaped {g : Glyph} {c : Char} {gs rest : List Glyph} {us : List StringUnit}
      (hletter : escaped? g = some c) (hrest : ReadsUnits gs us rest) :
      ReadsUnits (.char '\\' :: g :: gs) (.plain (.char c) :: us) rest
  /-- A glyph that stands for itself. -/
  | plain {g : Glyph} {gs rest : List Glyph} {us : List StringUnit} (hquote : g ≠ .char '"')
      (hescape : g ≠ .char '\\') (hcontrol : isControl g = false)
      (hrest : ReadsUnits gs us rest) : ReadsUnits (g :: gs) (.plain g :: us) rest

/-- The units of a string are read by the rules. -/
theorem stringUnits_eq_ok_iff (start : Nat) {gs : List Glyph} {us : List StringUnit}
    {rest : List Glyph} : stringUnits start gs = .ok (us, rest) ↔ ReadsUnits gs us rest := by
  constructor
  · intro h
    fun_induction stringUnits start gs generalizing us rest with
    | case1 | case3 | case5 | case7 | case8 => cases h
    | case2 => cases h; exact .close
    | case4 a b c d n next r hn ih =>
      obtain ⟨us', hrest, rfl⟩ := consUnit_eq_ok_iff.1 h
      exact .numbered hn (ih hrest)
    | case6 g r _ c hc ih =>
      obtain ⟨us', hrest, rfl⟩ := consUnit_eq_ok_iff.1 h
      exact .escaped hc (ih hrest)
    | case9 g r hquote hlast hdigits hescape hcontrol ih =>
      obtain ⟨us', hrest, rfl⟩ := consUnit_eq_ok_iff.1 h
      refine .plain hquote ?_ (by simpa using hcontrol) (ih hrest)
      rintro rfl
      -- a backslash is not the last glyph, and every other one is an escape
      cases r with
      | nil => exact hlast rfl rfl
      | cons g r => exact hescape g r rfl rfl
  · intro h
    induction h with
    | close => rw [stringUnits]
    | @numbered a b c d n gs rest us hdigits hrest ih =>
      -- the digits do not end the text, as a quote follows
      cases gs with
      | nil => cases hrest
      | cons g gs =>
        rw [stringUnits]
        · exact consUnit_eq_ok_iff.2 ⟨us, ih, rfl⟩
        · exact hdigits
    | @escaped g c gs rest us hletter hrest ih =>
      rw [stringUnits, hletter]
      · exact consUnit_eq_ok_iff.2 ⟨us, ih, rfl⟩
      · -- the letter of a number names no character
        rintro _ _ _ _ _ rfl -
        cases hletter
    | @plain g gs rest us hquote hescape hcontrol hrest ih =>
      rw [stringUnits, if_neg (by simpa using hcontrol)]
      · exact consUnit_eq_ok_iff.2 ⟨us, ih, rfl⟩
      · exact hquote
      · exact fun h _ => hescape h
      · exact fun _ _ _ _ _ h _ => hescape h
      · exact fun _ _ h _ => hescape h

/-- A string is the text of its units. -/
theorem reads_stringBody_iff {gs s r : List Glyph} :
    Reads stringBody gs s r ↔ ∃ us, ReadsUnits gs us r ∧ textOfUnits us = s := by
  unfold Reads stringBody
  split
  · next e he => simp [← stringUnits_eq_ok_iff (gs.length + 1), he]
  · next us rest hok =>
    constructor
    · rintro ⟨h, ⟨⟩⟩
      exact ⟨us, (stringUnits_eq_ok_iff _).1 hok, rfl⟩
    · rintro ⟨us', hunits, rfl⟩
      rw [(stringUnits_eq_ok_iff _).2 hunits] at hok
      cases hok
      exact ⟨stringUnits_shorter ((stringUnits_eq_ok_iff 0).2 hunits), rfl⟩

/-! ### Words and numbers -/

/-- The characters of a number stand at the front. -/
theorem map_numberChars_prefix (gs : List Glyph) : (numberChars gs).map .char <+: gs := by
  fun_induction numberChars gs with
  | case1 c r _ ih => simpa using ih
  | case2 => exact List.nil_prefix
  | case3 => exact List.nil_prefix

section Scalars

variable {reading : NumberReading} {gs r : List Glyph} {v : Json}

/-- A word, or a number at the front of the characters that may belong to one. -/
inductive ReadsScalar (reading : NumberReading) : List Glyph → Json → List Glyph → Prop where
  /-- A word. -/
  | word {word : String × Json} {rest : List Glyph} (hword : word ∈ words) :
      ReadsScalar reading (Glyph.ofString word.1 ++ rest) word.2 rest
  /-- A number; `left` are the characters that do not belong to it. -/
  | number {gs : List Glyph} {left : List Char} {t : NumberText} {v : Json}
      (htext : numberText? (numberChars gs) = some (t, left))
      (hvalue : reading ((numberChars gs).take ((numberChars gs).length - left.length)) t = .ok v) :
      ReadsScalar reading gs v (gs.drop ((numberChars gs).length - left.length))

/-- A word at the front is found. -/
theorem word?_ofString_append {word : String × Json} (hword : word ∈ words) (r : List Glyph) :
    ∃ h, word? (Glyph.ofString word.1 ++ r) = some (word.2, ⟨r, h⟩) := by
  simp only [words, List.mem_cons, List.not_mem_nil, or_false] at hword
  rcases hword with rfl | rfl | rfl | rfl | rfl | rfl
  all_goals exact ⟨_, rfl⟩

/-- A word that is found stands at the front. -/
theorem exists_of_word?_eq_some {h : r.length < gs.length} (hfound : word? gs = some (v, ⟨r, h⟩)) :
    ∃ word ∈ words, gs = Glyph.ofString word.1 ++ r ∧ v = word.2 := by
  obtain ⟨word, hword, hfound⟩ := List.exists_of_findSome?_eq_some hfound
  simp only at hfound
  split at hfound
  · next hfront =>
    cases hfound
    have hprefix := List.isPrefixOf_iff_prefix.1 hfront.2
    exact ⟨word, hword, (List.prefix_iff_eq_append.1 hprefix).symm, rfl⟩
  · cases hfound

/-- A word starts with no more of a number than a minus. -/
theorem word?_eq_none_of_number {left : List Char} {t : NumberText}
    (htext : numberText? (numberChars gs) = some (t, left)) : word? gs = none := by
  match hfound : word? gs with
  | none => rfl
  | some (v, ⟨r, h⟩) =>
    obtain ⟨word, hword, hgs, -⟩ := exists_of_word?_eq_some hfound
    rw [hgs] at htext
    simp only [words, List.mem_cons, List.not_mem_nil, or_false] at hword
    rcases hword with rfl | rfl | rfl | rfl | rfl | rfl
    all_goals cases htext

/-- Scalars are read by the rules. -/
theorem reads_scalar_iff : Reads (scalar reading) gs v r ↔ ReadsScalar reading gs v r := by
  constructor
  · rintro ⟨hlt, hread⟩
    unfold scalar at hread
    split at hread
    · next found hfound =>
      cases hread
      obtain ⟨word, hword, hgs, rfl⟩ := exists_of_word?_eq_some hfound
      rw [hgs]
      exact .word hword
    · unfold number at hread
      simp only at hread
      split at hread
      · cases hread
      · next t left htext =>
        match hvalue :
            reading ((numberChars gs).take ((numberChars gs).length - left.length)) t with
        | .error e => rw [hvalue] at hread; cases hread
        | .ok w =>
          rw [hvalue] at hread
          cases hread
          exact .number htext hvalue
  · intro h
    cases h with
    -- the words are tried first, but no number begins like a word
    | word hword =>
      obtain ⟨h, hword⟩ := word?_ofString_append hword r
      refine ⟨h, ?_⟩
      rw [scalar, hword]
    | @number _ left t _ htext hvalue =>
      have hshorter := numberText?_shorter htext
      have hle := length_numberChars_le gs
      refine ⟨by rw [List.length_drop]; omega, ?_⟩
      rw [scalar, word?_eq_none_of_number htext]
      simp only [number]
      split
      · next hnone => rw [htext] at hnone; cases hnone
      · next t' left' htext' =>
        rw [htext] at htext'
        cases htext'
        rw [hvalue]
        rfl

end Scalars

/-! ### Items -/

section Items

variable {item : Reader α} {close : Char} {gs r : List Glyph} {as : List α}

/-- One item or more, up to the closing bracket. -/
inductive ReadsItems (item : Reader α) (close : Char) :
    List Glyph → List α → List Glyph → Prop where
  /-- The closing bracket stands behind the item. -/
  | last {gs a r₁ r} (hitem : Reads item gs a r₁) (hclose : skipGap r₁ = .char close :: r) :
      ReadsItems item close gs [a] r
  /-- A comma stands behind the item, and others follow. -/
  | more {gs a r₁ r₂ as r} (hitem : Reads item gs a r₁) (hcomma : skipGap r₁ = .char ',' :: r₂)
      (hmore : ReadsItems item close (skipGap r₂) as r) : ReadsItems item close gs (a :: as) r

/-- The first item, and what stands behind it. -/
theorem Reads.items_cases (h : Reads (items item close) gs as r) :
    ∃ a r₁, Reads item gs a r₁ ∧
      (as = [a] ∧ skipGap r₁ = .char close :: r ∨
        ∃ r₂ as', as = a :: as' ∧ skipGap r₁ = .char ',' :: r₂ ∧
          Reads (items item close) (skipGap r₂) as' r) := by
  obtain ⟨hlt, hread⟩ := h
  rw [items] at hread
  split at hread
  · cases hread
  · next a r₁ hr₁ hitem =>
    refine ⟨a, r₁, ⟨hr₁, hitem⟩, ?_⟩
    split at hread
    · cases hread
    · next g r₂ hgap =>
      split at hread
      · next hg =>
        cases hread
        exact Or.inl ⟨rfl, hg ▸ hgap⟩
      · split at hread
        · next hg =>
          split at hread
          · cases hread
          · next as' rest hrest hmore =>
            cases hread
            exact Or.inr ⟨r₂, as', rfl, hg ▸ hgap, hrest, hmore⟩
        · cases hread

/-- The last item stands before the closing bracket. -/
theorem reads_items_last {a : α} {r₁ : List Glyph} (hitem : Reads item gs a r₁)
    (hclose : skipGap r₁ = .char close :: r) : Reads (items item close) gs [a] r := by
  obtain ⟨hr₁, hitem⟩ := hitem
  have hlt := length_lt_of_skipGap_eq hclose
  refine ⟨by omega, ?_⟩
  rw [items, hitem]
  simp only
  split
  · next hnil => rw [hclose] at hnil; cases hnil
  · next g r' hgap =>
    rw [hclose] at hgap
    cases hgap
    rw [if_pos rfl]

/-- Any other item stands before a comma. -/
theorem reads_items_more (hcomma : close ≠ ',') {a : α} {r₁ r₂ : List Glyph}
    (hitem : Reads item gs a r₁) (hsep : skipGap r₁ = .char ',' :: r₂)
    (hmore : Reads (items item close) (skipGap r₂) as r) :
    Reads (items item close) gs (a :: as) r := by
  obtain ⟨hr₁, hitem⟩ := hitem
  obtain ⟨hrest, hmore⟩ := hmore
  have hlt := length_lt_of_skipGap_eq hsep
  have hle := length_skipGap_le r₂
  refine ⟨by omega, ?_⟩
  rw [items, hitem]
  simp only
  split
  · next hnil => rw [hsep] at hnil; cases hnil
  · next g r' hgap =>
    rw [hsep] at hgap
    cases hgap
    have hopen : Glyph.char ',' ≠ .char close := fun h => hcomma (Glyph.char.inj h).symm
    -- the comma is not the closing bracket, so the list goes on
    rw [if_neg hopen, if_pos rfl, hmore]

/-- Items are read by the rules. -/
theorem reads_items_iff (hcomma : close ≠ ',') :
    Reads (items item close) gs as r ↔ ReadsItems item close gs as r := by
  constructor
  · intro h
    induction as generalizing gs with
    | nil =>
      -- there is always a first item
      obtain ⟨a, r₁, -, ⟨hnil, -⟩ | ⟨r₂, as', hnil, -⟩⟩ := h.items_cases
      · cases hnil
      · cases hnil
    | cons a as ih =>
      obtain ⟨a', r₁, hitem, ⟨heq, hclose⟩ | ⟨r₂, as', heq, hsep, hmore⟩⟩ := h.items_cases
      · cases heq
        exact .last hitem hclose
      · cases heq
        exact .more hitem hsep (ih hmore)
  · intro h
    induction h with
    | last hitem hclose => exact reads_items_last hitem hclose
    | more hitem hsep _ ih => exact reads_items_more hcomma hitem hsep ih

/-- The items behind an opening bracket. -/
inductive ReadsBracketed (item : Reader α) (close : Char) (gs : List Glyph) :
    List α → List Glyph → Prop where
  /-- The closing bracket comes first. -/
  | none {rest : List Glyph} (hclose : skipGap gs = .char close :: rest) :
      ReadsBracketed item close gs [] rest
  /-- An item comes first. -/
  | some {g : Glyph} {gs' rest : List Glyph} {found : List α} (hopen : skipGap gs = g :: gs')
      (hg : g ≠ .char close) (hitems : ReadsItems item close (g :: gs') found rest) :
      ReadsBracketed item close gs found rest

/-- What stands in brackets is read by the rules. -/
theorem reads_bracketed_iff (hcomma : close ≠ ',') :
    Reads (bracketed item close) gs as r ↔ ReadsBracketed item close gs as r := by
  constructor
  · rintro ⟨hlt, hread⟩
    unfold bracketed at hread
    simp only at hread
    split at hread
    · next g gs' hopen =>
      by_cases hg : g = .char close
      · rw [if_pos hg] at hread
        cases hread
        exact .none (hg ▸ hopen)
      · rw [if_neg hg] at hread
        split at hread
        · cases hread
        · next found rest h hitems =>
          cases hread
          exact .some hopen hg ((reads_items_iff hcomma).1 ⟨h, hitems⟩)
    · -- there is no item in an empty text
      split at hread
      · cases hread
      · next h _ => exact absurd h (Nat.not_lt_zero _)
  · intro h
    cases h with
    | none hclose =>
      refine ⟨length_lt_of_skipGap_eq hclose, ?_⟩
      unfold bracketed
      simp only
      split
      · next g gs' hopen =>
        rw [hclose] at hopen
        cases hopen
        rw [if_pos rfl]
      · next hnil => rw [hclose] at hnil; cases hnil
    | some hopen hg hitems =>
      obtain ⟨h, hitems⟩ := (reads_items_iff hcomma).2 hitems
      have hle := length_skipGap_le gs
      rw [hopen] at hle
      refine ⟨Nat.lt_of_lt_of_le h hle, ?_⟩
      unfold bracketed
      simp only
      split
      · next g' gs'' hopen' =>
        rw [hopen] at hopen'
        cases hopen'
        rw [if_neg hg, hitems]
      · next hnil => rw [hopen] at hnil; cases hnil

end Items

/-! ### Members and values -/

/-- A quoted key, a colon and a value. -/
inductive ReadsMember (item : Reader Json) :
    List Glyph → List Glyph × Json → List Glyph → Prop where
  /-- The parts of a member, with gaps around the colon. -/
  | intro {gs r₁ r₂ rest key : List Glyph} {v : Json} (hkey : Reads stringBody gs key r₁)
      (hcolon : skipGap r₁ = .char ':' :: r₂) (hitem : Reads item (skipGap r₂) v rest) :
      ReadsMember item (.char '"' :: gs) (key, v) rest

/-- Members are read by the rules. -/
theorem reads_member_iff {item : Reader Json} {gs r : List Glyph} {m : List Glyph × Json} :
    Reads (member item) gs m r ↔ ReadsMember item gs m r := by
  constructor
  · rintro ⟨hlt, hread⟩
    unfold member at hread
    split at hread
    · next gs =>
      split at hread
      · cases hread
      · next key r₁ hr₁ hkey =>
        split at hread
        · next r₂ hcolon =>
          simp only at hread
          split at hread
          · cases hread
          · next v rest h hitem =>
            cases hread
            exact .intro ⟨hr₁, hkey⟩ hcolon ⟨h, hitem⟩
        · cases hread
    · cases hread
  · rintro ⟨⟨hr₁, hkey⟩, hcolon, ⟨h, hitem⟩⟩
    next gs r₁ r₂ key v =>
    have hlt := length_lt_of_skipGap_eq hcolon
    have hle := length_skipGap_le r₂
    refine ⟨by rw [List.length_cons]; omega, ?_⟩
    unfold member
    simp only
    rw [hkey]
    simp only
    split
    · next r₂' hcolon' =>
      rw [hcolon] at hcolon'
      cases hcolon'
      rw [hitem]
    · next hother => exact absurd hcolon (hother r₂)

/-- The glyphs with which the values start that are neither words nor numbers. -/
def openers : List Glyph := [.char '"', .char '[', .char '\x7b']

section Values

variable {object : List (List Glyph × Json) → Json} {reading : NumberReading} {depth : Nat}
  {gs r : List Glyph} {v : Json}

/-- A value, nesting at most so deep. -/
inductive ReadsValue (object : List (List Glyph × Json) → Json) (reading : NumberReading) :
    Nat → List Glyph → Json → List Glyph → Prop where
  /-- A string. -/
  | string {d : Nat} {gs s rest : List Glyph} (hbody : Reads stringBody gs s rest) :
      ReadsValue object reading d (.char '"' :: gs) (.string s) rest
  /-- An array, with items that nest less deep. -/
  | array {d : Nat} {gs rest : List Glyph} {vs : List Json}
      (hitems : ReadsBracketed (valueBy object reading d) ']' gs vs rest) :
      ReadsValue object reading (d + 1) (.char '[' :: gs) (.array vs) rest
  /-- An object, with members that nest less deep. -/
  | object {d : Nat} {gs rest : List Glyph} {ms : List (List Glyph × Json)}
      (hmembers : ReadsBracketed (member (valueBy object reading d)) '\x7d' gs ms rest) :
      ReadsValue object reading (d + 1) (.char '\x7b' :: gs) (object ms) rest
  /-- A word or a number. -/
  | scalar {d : Nat} {g : Glyph} {gs rest : List Glyph} {v : Json} (hg : g ∉ openers)
      (hscalar : ReadsScalar reading (g :: gs) v rest) :
      ReadsValue object reading d (g :: gs) v rest

/-- A part that is turned into another, with the same text behind it. -/
theorem map_eq_ok_iff {β : Type} {gs gs' : List Glyph} {f : α → β}
    {grow : ∀ {rest : List Glyph}, rest.length < gs.length → rest.length < gs'.length}
    {x : Except ReadError (α × Shorter gs)} {b : β} {r : List Glyph} :
    (∃ h, (x.map fun (a, ⟨rest, h⟩) => (f a, (⟨rest, grow h⟩ : Shorter gs'))) = .ok (b, ⟨r, h⟩)) ↔
      ∃ a, (∃ h, x = .ok (a, ⟨r, h⟩)) ∧ f a = b := by
  match x with
  | .error e => simp [Except.map]
  | .ok (a, ⟨rest, h⟩) =>
    constructor
    · rintro ⟨_, ⟨⟩⟩
      exact ⟨a, ⟨h, rfl⟩, rfl⟩
    · rintro ⟨_, ⟨_, ⟨⟩⟩, rfl⟩
      exact ⟨grow h, rfl⟩

/-- Values are read by the rules. -/
theorem reads_valueBy_iff :
    Reads (valueBy object reading depth) gs v r ↔ ReadsValue object reading depth gs v r := by
  unfold Reads valueBy
  split
  · rw [map_eq_ok_iff]
    constructor
    · rintro ⟨s, hbody, rfl⟩
      exact .string hbody
    · intro h
      cases h with
      | string hbody => exact ⟨_, hbody, rfl⟩
      | scalar hg => exact absurd List.mem_cons_self hg
  · split
    · refine ⟨nofun, fun h => ?_⟩
      cases h with
      | scalar hg => exact absurd (by decide) hg
    · rw [map_eq_ok_iff]
      constructor
      · rintro ⟨vs, hitems, rfl⟩
        exact .array ((reads_bracketed_iff (by decide)).1 hitems)
      · intro h
        cases h with
        | array hitems => exact ⟨_, (reads_bracketed_iff (by decide)).2 hitems, rfl⟩
        | scalar hg => exact absurd (by decide) hg
  · split
    · refine ⟨nofun, fun h => ?_⟩
      cases h with
      | scalar hg => exact absurd (by decide) hg
    · rw [map_eq_ok_iff]
      constructor
      · rintro ⟨ms, hmembers, rfl⟩
        exact .object ((reads_bracketed_iff (by decide)).1 hmembers)
      · intro h
        cases h with
        | object hmembers => exact ⟨_, (reads_bracketed_iff (by decide)).2 hmembers, rfl⟩
        | scalar hg => exact absurd (by decide) hg
  -- no opening character: `openers` lists the three that have been tried
  · next hquote hsquare hbrace =>
    constructor
    · rintro ⟨hlt, hread⟩
      match gs, hlt, hread with
      | g :: gs, hlt, hread =>
        refine .scalar ?_ (reads_scalar_iff.1 ⟨hlt, hread⟩)
        simp only [openers, List.mem_cons, List.not_mem_nil, or_false, not_or]
        refine ⟨?_, ?_, ?_⟩
        · rintro rfl
          exact hquote gs rfl
        · rintro rfl
          exact hsquare gs rfl
        · rintro rfl
          exact hbrace gs rfl
    · intro h
      cases h with
      | string => exact absurd rfl (hquote _)
      | array => exact absurd rfl (hsquare _)
      | object => exact absurd rfl (hbrace _)
      | scalar _ hscalar => exact reads_scalar_iff.2 hscalar

/-- A text states a value if there are only gaps around it. -/
theorem readBy_eq_ok_iff : readBy object reading depth gs = .ok v ↔
    ∃ rest, Reads (valueBy object reading depth) (skipGap gs) v rest ∧ skipGap rest = [] := by
  unfold readBy Reads
  -- the value is read in one way only, so what is left behind it decides
  split
  · next e he => simp [he]
  · next w rest h hvalue =>
    split
    · next hgap =>
      constructor
      · rintro ⟨⟩
        exact ⟨rest, ⟨h, hvalue⟩, hgap⟩
      · rintro ⟨_, ⟨_, hvalue'⟩, -⟩
        rw [hvalue] at hvalue'
        cases hvalue'
        rfl
    · next hgap =>
      refine ⟨nofun, ?_⟩
      rintro ⟨_, ⟨_, hvalue'⟩, hnil⟩
      rw [hvalue] at hvalue'
      cases hvalue'
      exact absurd hnil hgap

end Values

/-! ### Texts that are written out -/

/-- A character that stands for itself in a string. -/
def IsPlain (c : Char) : Prop :=
  c ≠ '"' ∧ c ≠ '\\' ∧ 0x20 ≤ c.toNat

/-- A text between quotes, and what follows. -/
def quoted (s : String) (r : List Glyph) : List Glyph :=
  .char '"' :: (Glyph.ofString s ++ .char '"' :: r)

/-- Plain characters are the units of a string, up to its closing quote. -/
theorem readsUnits_plain {cs : List Char} (hcs : ∀ c ∈ cs, IsPlain c) (r : List Glyph) :
    ReadsUnits (cs.map .char ++ .char '"' :: r) ((cs.map .char).map .plain) r := by
  induction cs with
  | nil => exact .close
  | cons c cs ih =>
    obtain ⟨hquote, hescape, hcontrol⟩ := hcs c List.mem_cons_self
    have hordinary : isControl (.char c) = false := by
      simpa [isControl] using hcontrol
    exact .plain (by simpa using hquote) (by simpa using hescape) hordinary
      (ih fun d hd => hcs d (List.mem_cons_of_mem c hd))

/-- The text of plain units. -/
@[simp]
theorem textOfUnits_map_plain (gs : List Glyph) : textOfUnits (gs.map .plain) = gs := by
  induction gs with
  | nil => rfl
  | cons g r ih => rw [List.map_cons, textOfUnits, ih]

variable {object : List (List Glyph × Json) → Json} {reading : NumberReading} {depth : Nat}
  {g : Glyph} {gs gs' r r' : List Glyph} {v : Json}

/-- Plain characters are read as they stand, up to the closing quote. -/
theorem reads_stringBody {s : String} (hs : ∀ c ∈ s.toList, IsPlain c) (r : List Glyph) :
    Reads stringBody (Glyph.ofString s ++ .char '"' :: r) (Glyph.ofString s) r :=
  reads_stringBody_iff.2 ⟨_, readsUnits_plain hs r, textOfUnits_map_plain _⟩

/-- A quoted text of plain characters is a string. -/
theorem reads_string {s : String} (hs : ∀ c ∈ s.toList, IsPlain c) (r : List Glyph) :
    Reads (valueBy object reading depth) (quoted s r) (.string (Glyph.ofString s)) r :=
  reads_valueBy_iff.2 (.string (reads_stringBody hs r))

/-- An array of one value. -/
theorem reads_array (hopen : skipGap gs = g :: gs') (hg : g ≠ .char ']')
    (hv : Reads (valueBy object reading depth) (g :: gs') v r)
    (hclose : skipGap r = .char ']' :: r') :
    Reads (valueBy object reading (depth + 1)) (.char '[' :: gs) (.array [v]) r' :=
  reads_valueBy_iff.2 (.array (.some hopen hg (.last hv hclose)))

/-- A member with a key of plain characters. -/
theorem reads_member {item : Reader Json} {key : String} (hkey : ∀ c ∈ key.toList, IsPlain c)
    (hv : Reads item (skipGap gs) v r) :
    Reads (member item) (quoted key (.char ':' :: gs)) (Glyph.ofString key, v) r :=
  reads_member_iff.2 (.intro (reads_stringBody hkey _) rfl hv)

/-- An object of one member, with a key of plain characters. -/
theorem reads_object {key : String} (hkey : ∀ c ∈ key.toList, IsPlain c)
    (hv : Reads (valueBy object reading depth) (skipGap gs) v r)
    (hclose : skipGap r = .char '\x7d' :: r') :
    Reads (valueBy object reading (depth + 1)) (.char '\x7b' :: quoted key (.char ':' :: gs))
      (object [(Glyph.ofString key, v)]) r' :=
  reads_valueBy_iff.2 (.object (.some rfl (by decide) (.last (reads_member hkey hv) hclose)))

end FlowBuilder.Json
