import FlowBuilder.Proofs.Json.Written

/-!
# Braces in texts

Where the text of a value has an opening brace, the brace either opens an object that is a part of
the value, or stands in a string. In the second case, all that is read from there on has strings and
structure swapped: its strings are what stands between the strings of the text. So they have no
backslash, and of the letters only those of words and numbers.

* `places_of_reads`: where the braces of a value stand.
* `notMem_key_of_alternates`: from within a string, no key with the letter `m` is read.
-/

namespace FlowBuilder.Json

variable {α : Type} {gs r : List Glyph}

/-! ### Bare glyphs -/

/-- A glyph that neither belongs to strings alone nor opens an object. No word or number has the
letter `m`. -/
def IsBare (g : Glyph) : Prop :=
  g ∉ [Glyph.char '"', .char '\\', .char '\x7b', .char 'm']

instance (g : Glyph) : Decidable (IsBare g) :=
  inferInstanceAs (Decidable (g ∉ _))

/-- Only bare glyphs stand before the rest of a text. -/
def Crosses (gs r : List Glyph) : Prop :=
  ∃ front, gs = front ++ r ∧ ∀ g ∈ front, IsBare g

/-- A bare glyph is crossed. -/
theorem Crosses.cons {g : Glyph} (hg : IsBare g) : Crosses (g :: r) r :=
  ⟨[g], rfl, by simpa using hg⟩

/-- Bare parts are crossed one after another. -/
theorem Crosses.trans {r' : List Glyph} (h : Crosses gs r) (h' : Crosses r r') : Crosses gs r' := by
  obtain ⟨front, rfl, hfront⟩ := h
  obtain ⟨front', rfl, hfront'⟩ := h'
  refine ⟨front ++ front', (List.append_assoc front front' r').symm, ?_⟩
  intro g hg
  rcases List.mem_append.1 hg with hg | hg
  · exact hfront g hg
  · exact hfront' g hg

/-- Gaps are bare. -/
theorem isBare_of_isGap {g : Glyph} (hg : isGap g) : IsBare g := by
  simp only [isGap, Bool.or_eq_true, decide_eq_true_eq] at hg
  rcases hg with ((rfl | rfl) | rfl) | rfl <;> decide

/-- Skipping a gap crosses it. -/
theorem crosses_skipGap (gs : List Glyph) : Crosses gs (skipGap gs) :=
  ⟨gs.takeWhile isGap, List.takeWhile_append_dropWhile.symm,
    fun g hg => isBare_of_isGap (List.all_eq_true.1 List.all_takeWhile g hg)⟩

/-- A bare glyph is crossed with the gap in front of it. -/
theorem crosses_of_skipGap_eq {g : Glyph} (hskip : skipGap gs = g :: r) (hg : IsBare g) :
    Crosses gs r :=
  (hskip ▸ crosses_skipGap gs).trans (Crosses.cons hg)

/-- From a part to the next one: over a gap, a bare glyph and another gap. -/
theorem crosses_to_next {g : Glyph} (hskip : skipGap gs = g :: r) (hg : IsBare g) :
    Crosses gs (skipGap r) :=
  (crosses_of_skipGap_eq hskip hg).trans (crosses_skipGap r)

/-- What may be a number has only characters of numbers. -/
theorem isOfNumber_of_mem_numberChars {c : Char} (h : c ∈ numberChars gs) : isOfNumber c := by
  fun_induction numberChars gs with
  | case1 d r hd ih =>
    rcases List.mem_cons.1 h with rfl | h
    · exact hd
    · exact ih h
  | case2 => cases h
  | case3 => cases h

/-- The characters of numbers are bare. -/
theorem isBare_of_isOfNumber {c : Char} (h : isOfNumber c) : IsBare (.char c) := by
  intro hmem
  simp only [List.mem_cons, Glyph.char.injEq, List.not_mem_nil, or_false] at hmem
  rcases hmem with rfl | rfl | rfl | rfl
  all_goals revert h; decide

/-- Words and numbers are bare. -/
theorem ReadsScalar.crosses {reading : NumberReading} {v : Json} (h : ReadsScalar reading gs v r) :
    Crosses gs r := by
  cases h with
  | @word word _ hword =>
    have hwords : ∀ w ∈ words, ∀ g ∈ Glyph.ofString w.1, IsBare g := by
      decide
    exact ⟨_, rfl, hwords word hword⟩
  | @number _ left _ _ htext =>
    have hle : (numberChars gs).length - left.length ≤ (numberChars gs).length := Nat.sub_le _ _
    -- what matters of the number is only that it is cut from number characters
    generalize (numberChars gs).length - left.length = used at hle
    refine ⟨gs.take used, (List.take_append_drop used gs).symm, ?_⟩
    intro g hg
    obtain ⟨rest, hrest⟩ := map_numberChars_prefix gs
    rw [← hrest, List.take_append_of_le_length (by rwa [List.length_map])] at hg
    obtain ⟨c, hc, rfl⟩ := List.mem_map.1 (List.mem_of_mem_take hg)
    exact isBare_of_isOfNumber (isOfNumber_of_mem_numberChars hc)

/-- The digits of an escape are bare. -/
theorem isBare_of_hexDigit? {g : Glyph} {n : Nat} (h : g.char?.bind hexDigit? = some n) :
    IsBare g := by
  intro hmem
  simp only [List.mem_cons, List.not_mem_nil, or_false] at hmem
  rcases hmem with rfl | rfl | rfl | rfl
  all_goals cases h

/-- All digits of an escape are bare. -/
theorem isBare_of_foldlM_hexDigit? {start n : Nat}
    (h : gs.foldlM (fun n g => (g.char?.bind hexDigit?).map (n * 16 + ·)) start = some n) :
    ∀ g ∈ gs, IsBare g := by
  induction gs generalizing start with
  | nil => simp
  | cons g gs ih =>
    obtain ⟨k, hk, hrest⟩ := Option.bind_eq_some_iff.1 h
    obtain ⟨digit, hdigit, -⟩ := Option.map_eq_some_iff.1 hk
    exact List.forall_mem_cons.2 ⟨isBare_of_hexDigit? hdigit, ih hrest⟩

/-- The digits of an escape are bare. -/
theorem crosses_of_hexUnit? {a b c d : Glyph} {n : Nat} (h : hexUnit? a b c d = some n)
    (r : List Glyph) : Crosses (a :: b :: c :: d :: r) r :=
  ⟨[a, b, c, d], rfl, isBare_of_foldlM_hexDigit? h⟩

/-! ### Strings that alternate with other text -/

/-- A text, cut off anywhere, whose start stands in a string (`inside`) or not. Outside of strings
it has neither a backslash nor the letter `m`. -/
inductive Alternates : Bool → List Glyph → Prop where
  /-- The end of the text. -/
  | nil {inside : Bool} : Alternates inside []
  /-- A quote opens a string, or closes it. -/
  | quote {inside : Bool} {r : List Glyph} (hrest : Alternates (!inside) r) :
      Alternates inside (.char '"' :: r)
  /-- A glyph outside of strings. -/
  | plain {g : Glyph} {r : List Glyph} (hg : g ∉ [Glyph.char '"', .char '\\', .char 'm'])
      (hrest : Alternates false r) : Alternates false (g :: r)
  /-- A glyph of a string. -/
  | content {g : Glyph} {r : List Glyph} (hquote : g ≠ .char '"') (hescape : g ≠ .char '\\')
      (hrest : Alternates true r) : Alternates true (g :: r)
  /-- A backslash of a string, and what it escapes. -/
  | escape {g : Glyph} {r : List Glyph} (hrest : Alternates true r) :
      Alternates true (.char '\\' :: g :: r)
  /-- A backslash of a string where the text is cut off. -/
  | cut : Alternates true [.char '\\']

/-- A text may be cut off anywhere. -/
theorem Alternates.of_prefix {inside : Bool} {t : List Glyph} (h : Alternates inside gs)
    (ht : t <+: gs) : Alternates inside t := by
  induction h generalizing t with
  | nil =>
    rw [List.prefix_nil.1 ht]
    exact .nil
  | quote _ ih =>
    rcases List.prefix_cons_iff.1 ht with rfl | ⟨t', rfl, ht'⟩
    · exact .nil
    · exact .quote (ih ht')
  | plain hg _ ih =>
    rcases List.prefix_cons_iff.1 ht with rfl | ⟨t', rfl, ht'⟩
    · exact .nil
    · exact .plain hg (ih ht')
  | content hquote hescape _ ih =>
    rcases List.prefix_cons_iff.1 ht with rfl | ⟨t', rfl, ht'⟩
    · exact .nil
    · exact .content hquote hescape (ih ht')
  | escape _ ih =>
    rcases List.prefix_cons_iff.1 ht with rfl | ⟨t', rfl, ht'⟩
    · exact .nil
    · rcases List.prefix_cons_iff.1 ht' with rfl | ⟨t'', rfl, ht''⟩
      · exact .cut
      · exact .escape (ih ht'')
  | cut =>
    rcases List.prefix_cons_iff.1 ht with rfl | ⟨t', rfl, ht'⟩
    · exact .nil
    · rw [List.prefix_nil.1 ht']
      exact .cut

/-- A glyph that does not belong to a string by itself leaves its place in one. -/
theorem Alternates.of_cons {g : Glyph} (hquote : g ≠ .char '"') (hescape : g ≠ .char '\\')
    (h : Alternates true (g :: r)) : Alternates true r := by
  cases h with
  | quote => exact absurd rfl hquote
  | content _ _ hrest => exact hrest
  | escape => exact absurd rfl hescape
  | cut => exact absurd rfl hescape

/-- Bare glyphs leave a place in a string, or outside of strings, as it is. -/
theorem Crosses.alternates {inside : Bool} (h : Crosses gs r) (hr : Alternates inside r) :
    Alternates inside gs := by
  obtain ⟨front, rfl, hfront⟩ := h
  induction front with
  | nil => exact hr
  | cons g front ih =>
    have hrest := ih fun k hk => hfront k (List.mem_cons_of_mem g hk)
    have hg := hfront g List.mem_cons_self
    simp only [IsBare, List.mem_cons, List.not_mem_nil, or_false, not_or] at hg
    obtain ⟨hquote, hescape, -, hm⟩ := hg
    cases inside with
    | false => exact .plain (by simp [hquote, hescape, hm]) hrest
    | true => exact .content hquote hescape hrest

/-- What is crossed in a string leaves it still in the string. -/
theorem Crosses.inside (h : Crosses gs r) (hgs : Alternates true gs) : Alternates true r := by
  obtain ⟨front, rfl, hfront⟩ := h
  induction front with
  | nil => exact hgs
  | cons g front ih =>
    have hg := hfront g List.mem_cons_self
    refine ih (fun k hk => hfront k (List.mem_cons_of_mem g hk)) (hgs.of_cons ?_ ?_)
    · rintro rfl
      exact hg (by decide)
    · rintro rfl
      exact hg (by decide)

/-! ### What is read from within a string -/

/-- Read from outside of its strings, a text gives strings without the letter `m`, and ends within
one. -/
theorem ReadsUnits.swapped {us : List StringUnit} (h : ReadsUnits gs us r)
    (hgs : Alternates false gs) : Alternates true r ∧ .char 'm' ∉ textOfUnits us := by
  induction h with
  | close =>
    -- the quote that closes what is read opens a string of the text
    cases hgs with
    | quote hrest => exact ⟨hrest, List.not_mem_nil⟩
    | plain hg => exact absurd List.mem_cons_self hg
  -- no backslash stands outside of the text's strings
  | numbered =>
    cases hgs with
    | plain hg => exact absurd (by decide) hg
  | escaped =>
    cases hgs with
    | plain hg => exact absurd (by decide) hg
  | @plain g _ _ us hquote _ _ _ ih =>
    cases hgs with
    | quote => exact absurd rfl hquote
    | plain hg hrest =>
      obtain ⟨hr, hm⟩ := ih hrest
      refine ⟨hr, ?_⟩
      rw [textOfUnits]
      rintro (_ | ⟨_, hmem⟩)
      · exact hg (by decide)
      · exact hm hmem

/-- A reader that stays within strings, and finds what has a property. -/
def StaysInside (item : Reader α) (P : α → Prop) : Prop :=
  ∀ ⦃gs a r⦄, Reads item gs a r → Alternates true gs → Alternates true r ∧ P a

section Swapped

variable {item : Reader α} {P : α → Prop} {close : Char} {as : List α}

/-- Items that are read as if the text stood in a string leave it in the string. -/
theorem ReadsItems.swapped (hitem : StaysInside item P) (hclose : IsBare (.char close))
    (h : ReadsItems item close gs as r) (hgs : Alternates true gs) :
    Alternates true r ∧ ∀ a ∈ as, P a := by
  induction h with
  | last ha hskip =>
    obtain ⟨hr, hP⟩ := hitem ha hgs
    refine ⟨(crosses_of_skipGap_eq hskip hclose).inside hr, ?_⟩
    simpa using hP
  | more ha hskip _ ih =>
    obtain ⟨hr, hP⟩ := hitem ha hgs
    have hnext := crosses_to_next hskip (by decide)
    obtain ⟨hrest, hall⟩ := ih (hnext.inside hr)
    exact ⟨hrest, List.forall_mem_cons.2 ⟨hP, hall⟩⟩

/-- So does what stands in brackets. -/
theorem ReadsBracketed.swapped (hitem : StaysInside item P) (hclose : IsBare (.char close))
    (h : ReadsBracketed item close gs as r) (hgs : Alternates true gs) :
    Alternates true r ∧ ∀ a ∈ as, P a := by
  cases h with
  | none hskip => exact ⟨(crosses_of_skipGap_eq hskip hclose).inside hgs, by simp⟩
  | some hopen _ hitems =>
    exact hitems.swapped hitem hclose (hopen ▸ (crosses_skipGap gs).inside hgs)

/-- So does a member, whose key lacks the letter. -/
theorem staysInside_member {item : Reader Json} (hitem : StaysInside item fun _ => True) :
    StaysInside (member item) fun m => .char 'm' ∉ m.1 := by
  intro gs m r h hgs
  rw [reads_member_iff] at h
  cases h with
  | intro hkey hcolon hv =>
    obtain ⟨us, hunits, rfl⟩ := reads_stringBody_iff.1 hkey
    -- the quote before the key closes a string of the text
    cases hgs with
    | quote hgs =>
      obtain ⟨hr, hm⟩ := hunits.swapped hgs
      have hnext := crosses_to_next hcolon (by decide)
      exact ⟨(hitem hv (hnext.inside hr)).1, hm⟩
    | content hquote => exact absurd rfl hquote

end Swapped

/-- So does a value. -/
theorem staysInside_valueBy (object : List (List Glyph × Json) → Json) (reading : NumberReading)
    (depth : Nat) : StaysInside (valueBy object reading depth) fun _ => True := by
  -- the parts of a value nest less deep
  induction depth using Nat.strongRecOn with
  | ind depth ih =>
    intro gs v r h hgs
    rw [reads_valueBy_iff] at h
    refine ⟨?_, trivial⟩
    cases h with
    | string hbody =>
      obtain ⟨us, hunits, -⟩ := reads_stringBody_iff.1 hbody
      cases hgs with
      | quote hgs => exact (hunits.swapped hgs).1
      | content hquote => exact absurd rfl hquote
    | array hitems =>
      exact (hitems.swapped (ih _ (Nat.lt_succ_self _)) (by decide)
        (hgs.of_cons (by decide) (by decide))).1
    | object hmembers =>
      exact (hmembers.swapped (staysInside_member (ih _ (Nat.lt_succ_self _))) (by decide)
        (hgs.of_cons (by decide) (by decide))).1
    | scalar _ hscalar => exact hscalar.crosses.inside hgs

/-- From within a string, no key with the letter `m` is read. -/
theorem notMem_key_of_alternates {object : List (List Glyph × Json) → Json}
    {reading : NumberReading} {depth : Nat} {v : Json}
    (h : Reads (valueBy object reading depth) (.char '\x7b' :: gs) v r)
    (hgs : Alternates true (.char '\x7b' :: gs)) :
    ∃ ms, v = object ms ∧ ∀ m ∈ ms, .char 'm' ∉ m.1 := by
  rw [reads_valueBy_iff] at h
  cases h with
  | object hmembers =>
    exact ⟨_, rfl, (hmembers.swapped (staysInside_member (staysInside_valueBy object reading _))
      (by decide) (hgs.of_cons (by decide) (by decide))).2⟩
  | scalar hg => exact absurd (by decide) hg

/-! ### Where braces stand -/

/-- A value is written at the front of a text. -/
def Opens (gs : List Glyph) (j : Json) : Prop :=
  ∃ depth r, Reads (written depth) gs j r

/-- The braces of a text before its rest: each stands in a string, or opens one of some objects. -/
structure Places (P : Json → Prop) (gs r : List Glyph) : Prop where
  /-- The text starts outside of its strings. -/
  outside : Alternates false gs
  /-- A brace of the text that is none of the rest. -/
  brace : ∀ after, .char '\x7b' :: after <:+ gs → .char '\x7b' :: after <:+ r ∨
    Alternates true (.char '\x7b' :: after) ∨ ∃ o, P o ∧ Opens (.char '\x7b' :: after) o

/-- Places are found one part after another. -/
theorem Places.trans {P : Json → Prop} {r' : List Glyph} (h : Places P gs r) (h' : Places P r r') :
    Places P gs r' where
  outside := h.outside
  brace after hsuffix := by
    rcases h.brace after hsuffix with hlater | hplace
    · exact h'.brace after hlater
    · exact Or.inr hplace

/-- What is found at a place may be described more weakly. -/
theorem Places.mono {P Q : Json → Prop} (h : Places P gs r) (hPQ : ∀ o, P o → Q o) :
    Places Q gs r where
  outside := h.outside
  brace after hsuffix := by
    rcases h.brace after hsuffix with hlater | hinside | ⟨o, ho, hopens⟩
    · exact Or.inl hlater
    · exact Or.inr (Or.inl hinside)
    · exact Or.inr (Or.inr ⟨o, hPQ o ho, hopens⟩)

/-- A glyph that a front part lacks is first found behind it. -/
theorem suffix_of_notMem {g : Glyph} {front after : List Glyph} (hg : g ∉ front)
    (h : g :: after <:+ front ++ r) : g :: after <:+ r := by
  induction front with
  | nil => exact h
  | cons k front ih =>
    rcases List.suffix_cons_iff.1 h with heq | hlater
    · cases heq
      exact absurd List.mem_cons_self hg
    · exact ih (fun hmem => hg (List.mem_cons_of_mem k hmem)) hlater

/-- An opening brace stands behind what is crossed. -/
theorem Crosses.suffix {after : List Glyph} (h : Crosses gs r)
    (hsuffix : .char '\x7b' :: after <:+ gs) : .char '\x7b' :: after <:+ r := by
  obtain ⟨front, rfl, hfront⟩ := h
  exact suffix_of_notMem (fun hmem => hfront _ hmem (by decide)) hsuffix

/-- Nothing is placed in what is crossed. -/
theorem Crosses.places {P : Json → Prop} (h : Crosses gs r) (hr : Alternates false r) :
    Places P gs r where
  outside := h.alternates hr
  brace _ hsuffix := Or.inl (h.suffix hsuffix)

/-- No escape has a brace. -/
theorem ReadsUnits.places {P : Json → Prop} {us : List StringUnit} (h : ReadsUnits gs us r)
    (hr : Alternates false r) : Places P (.char '"' :: gs) r := by
  suffices hunits : Alternates true gs ∧ ∀ after, .char '\x7b' :: after <:+ gs →
      .char '\x7b' :: after <:+ r ∨ Alternates true (.char '\x7b' :: after) by
    obtain ⟨hinside, hbrace⟩ := hunits
    refine ⟨.quote hinside, fun after hsuffix => ?_⟩
    rcases List.suffix_cons_iff.1 hsuffix with heq | hlater
    · cases heq
    · exact (hbrace after hlater).imp_right Or.inl
  induction h with
  | close =>
    refine ⟨.quote hr, fun after hsuffix => ?_⟩
    rcases List.suffix_cons_iff.1 hsuffix with heq | hlater
    · cases heq
    · exact Or.inl hlater
  | @numbered _ _ _ _ _ gs _ _ hdigits _ ih =>
    obtain ⟨hinside, hbrace⟩ := ih hr
    have hcrosses := crosses_of_hexUnit? hdigits gs
    refine ⟨.escape (hcrosses.alternates hinside), fun after hsuffix => ?_⟩
    rcases List.suffix_cons_iff.1 hsuffix with heq | hlater
    · cases heq
    · rcases List.suffix_cons_iff.1 hlater with heq | hlater
      · cases heq
      · exact hbrace after (hcrosses.suffix hlater)
  | escaped hletter _ ih =>
    obtain ⟨hinside, hbrace⟩ := ih hr
    refine ⟨.escape hinside, fun after hsuffix => ?_⟩
    rcases List.suffix_cons_iff.1 hsuffix with heq | hlater
    · cases heq
    · rcases List.suffix_cons_iff.1 hlater with heq | hlater
      · -- a brace names no character
        cases heq
        cases hletter
      · exact hbrace after hlater
  | plain hquote hescape _ _ ih =>
    obtain ⟨hinside, hbrace⟩ := ih hr
    have hwhole := Alternates.content hquote hescape hinside
    refine ⟨hwhole, fun after hsuffix => ?_⟩
    rcases List.suffix_cons_iff.1 hsuffix with heq | hlater
    · rw [heq]
      exact Or.inr hwhole
    · exact hbrace after hlater

section Items

variable {item : Reader α} {P : α → Json → Prop} {close : Char} {as : List α}

/-- The braces in items open objects within them. -/
theorem ReadsItems.places
    (hitem : ∀ ⦃gs a r⦄, Reads item gs a r → Alternates false r → Places (P a) gs r)
    (hclose : IsBare (.char close)) (h : ReadsItems item close gs as r) (hr : Alternates false r) :
    Places (fun o => ∃ a ∈ as, P a o) gs r := by
  induction h with
  | last ha hskip =>
    have hend := crosses_of_skipGap_eq hskip hclose
    have hfirst := hitem ha (hend.alternates hr)
    exact (hfirst.mono fun o ho => ⟨_, List.mem_cons_self, ho⟩).trans (hend.places hr)
  | more ha hskip _ ih =>
    -- from behind: the rest of the items tells where the text behind the first one stands
    have hrest := ih hr
    have hnext := crosses_to_next hskip (by decide)
    have hfirst := hitem ha (hnext.alternates hrest.outside)
    refine (hfirst.mono fun o ho => ⟨_, List.mem_cons_self, ho⟩).trans
      ((hnext.places hrest.outside).trans (hrest.mono ?_))
    rintro o ⟨b, hb, ho⟩
    exact ⟨b, List.mem_cons_of_mem _ hb, ho⟩

/-- The braces between brackets open objects within the items. -/
theorem ReadsBracketed.places
    (hitem : ∀ ⦃gs a r⦄, Reads item gs a r → Alternates false r → Places (P a) gs r)
    (hclose : IsBare (.char close)) (h : ReadsBracketed item close gs as r)
    (hr : Alternates false r) : Places (fun o => ∃ a ∈ as, P a o) gs r := by
  cases h with
  | none hskip => exact (crosses_of_skipGap_eq hskip hclose).places hr
  | some hopen _ hitems =>
    have hall := hitems.places hitem hclose hr
    exact ((hopen ▸ crosses_skipGap gs).places hall.outside).trans hall

/-- The braces in a member open objects within its value. -/
theorem member_places {item : Reader Json} {P : Json → Json → Prop}
    (hitem : ∀ ⦃gs v r⦄, Reads item gs v r → Alternates false r → Places (P v) gs r)
    ⦃gs : List Glyph⦄ ⦃m : List Glyph × Json⦄ ⦃r : List Glyph⦄ (h : Reads (member item) gs m r)
    (hr : Alternates false r) : Places (P m.2) gs r := by
  rw [reads_member_iff] at h
  cases h with
  | intro hkey hcolon hv =>
    obtain ⟨us, hunits, -⟩ := reads_stringBody_iff.1 hkey
    have hvalue := hitem hv hr
    have hnext := crosses_to_next hcolon (by decide)
    exact (hunits.places (hnext.alternates hvalue.outside)).trans
      ((hnext.places hvalue.outside).trans hvalue)

end Items

/-- Each brace of a written value stands in a string, or opens a part of the value. -/
theorem places_of_reads (depth : Nat) ⦃gs : List Glyph⦄ ⦃v : Json⦄ ⦃r : List Glyph⦄
    (h : Reads (written depth) gs v r) (hr : Alternates false r) :
    Places (fun o => o = v ∨ o ∈ v.within) gs r := by
  induction depth using Nat.strongRecOn generalizing gs v r with
  | ind depth ih =>
    have hopens : Opens gs v := ⟨depth, r, h⟩
    rw [reads_valueBy_iff] at h
    cases h with
    | string hbody =>
      obtain ⟨us, hunits, -⟩ := reads_stringBody_iff.1 hbody
      exact hunits.places hr
    | array hitems =>
      have hparts := hitems.places (ih _ (Nat.lt_succ_self _)) (by decide) hr
      refine ((Crosses.cons (by decide)).places hparts.outside).trans (hparts.mono ?_)
      exact fun o ho => Or.inr (mem_withinItems.2 ho)
    | object hmembers =>
      have hparts := hmembers.places (member_places (ih _ (Nat.lt_succ_self _)))
        (by decide) hr
      refine ⟨.plain (by decide) hparts.outside, fun after hsuffix => ?_⟩
      rcases List.suffix_cons_iff.1 hsuffix with heq | hlater
      · -- this is the brace of the object itself
        rw [heq]
        exact Or.inr (Or.inr ⟨_, Or.inl rfl, hopens⟩)
      · refine (hparts.mono ?_).brace after hlater
        exact fun o ho => Or.inr (mem_withinMembers.2 ho)
    | scalar _ hscalar => exact hscalar.crosses.places hr

end FlowBuilder.Json
