import FlowBuilder.Proofs.Json.Depth

/-!
# Reading with less room

A reader that may go less deep reads the same, unless a text nests too deep for it. So a text that
has been read before can be read again with less room in no other way, and fails for no other
reason.

* `Shallower`: a reader that gives what another one gives, or finds its text to nest too deep.
* `shallower_valueBy`: the readers of values, by their depths.
* `readGlyphs_of_reads_object`: what comes of the text of an object that has been read.
-/

namespace FlowBuilder.Json

variable {α : Type} {item item' : Reader α} {close : Char} {gs r : List Glyph}

/-- A reader gives what another one gives, or finds its text to nest too deep. -/
def Shallower (item item' : Reader α) : Prop :=
  ∀ gs, item gs = .error .nestingTooDeep ∨ item gs = item' gs

/-- Items that nest less deep are read alike, unless one of them nests too deep. -/
theorem shallower_items (hitem : Shallower item item') (gs : List Glyph) :
    items item close gs = .error .nestingTooDeep ∨ items item close gs = items item' close gs := by
  induction hlength : gs.length using Nat.strongRecOn generalizing gs with
  | ind n ih =>
    subst hlength
    rw [items, items]
    rcases hitem gs with hdeep | hsame
    · exact Or.inl (by rw [hdeep])
    rw [hsame]
    rcases item' gs with e | ⟨a, r₁, hr₁⟩
    · exact Or.inr rfl
    · simp only
      split
      · exact Or.inr rfl
      · next g r₂ hgap =>
        split
        · exact Or.inr rfl
        · split
          · -- behind a comma the others are read, of which there are fewer glyphs
            have hlt := length_lt_of_skipGap_eq hgap
            have hle := length_skipGap_le r₂
            rcases ih (skipGap r₂).length (by omega) (skipGap r₂) rfl with hdeep | hsame
            · exact Or.inl (by rw [hdeep])
            · exact Or.inr (by rw [hsame])
          · exact Or.inr rfl

/-- So are the items between brackets. -/
theorem shallower_bracketed (hitem : Shallower item item') :
    Shallower (bracketed item close) (bracketed item' close) := by
  intro gs
  unfold bracketed
  simp only
  split
  · next g r hopen =>
    split
    · exact Or.inr rfl
    · rcases shallower_items hitem (g :: r) with hdeep | hsame
      · exact Or.inl (by rw [hdeep])
      · exact Or.inr (by rw [hsame])
  · rcases shallower_items hitem [] with hdeep | hsame
    · exact Or.inl (by rw [hdeep])
    · exact Or.inr (by rw [hsame])

/-- A member is read alike, unless its value nests too deep. -/
theorem shallower_member {item item' : Reader Json} (hitem : Shallower item item') :
    Shallower (member item) (member item') := by
  intro gs
  unfold member
  split
  · next gs =>
    match stringBody gs with
    | .error e => exact Or.inr rfl
    | .ok (key, ⟨r₁, hr₁⟩) =>
      simp only
      split
      · next r₂ hcolon =>
        rcases hitem (skipGap r₂) with hdeep | hsame
        · exact Or.inl (by rw [hdeep])
        · exact Or.inr (by rw [hsame])
      · exact Or.inr rfl
  · exact Or.inr rfl

/-- A value is read alike at a smaller depth, unless it nests too deep for that. -/
theorem shallower_valueBy (object : List (List Glyph × Json) → Json) (reading : NumberReading)
    {depth depth' : Nat} (hle : depth ≤ depth') :
    Shallower (valueBy object reading depth) (valueBy object reading depth') := by
  induction depth using Nat.strongRecOn generalizing depth' with
  | ind depth ih =>
    intro gs
    unfold valueBy
    split
    · exact Or.inr rfl
    · next r =>
      -- without depth left a bracket fails at once; else one is taken from both
      match depth, depth' with
      | 0, _ => exact Or.inl rfl
      | d + 1, d' + 1 =>
        have hitem := ih d (Nat.lt_succ_self d) (Nat.le_of_succ_le_succ hle)
        rcases shallower_bracketed hitem r with hdeep | hsame
        · exact Or.inl (by rw [map_eq_error_iff]; exact hdeep)
        · exact Or.inr (by simp only [hsame])
    · next r =>
      match depth, depth' with
      | 0, _ => exact Or.inl rfl
      | d + 1, d' + 1 =>
        have hitem := ih d (Nat.lt_succ_self d) (Nat.le_of_succ_le_succ hle)
        rcases shallower_bracketed (shallower_member hitem) r with hdeep | hsame
        · exact Or.inl (by rw [map_eq_error_iff]; exact hdeep)
        · exact Or.inr (by simp only [hsame])
    · exact Or.inr rfl

/-- What is read at a depth is read at a smaller one too, unless it nests too deep for that. -/
theorem Reads.or_nestingTooDeep {object : List (List Glyph × Json) → Json} {reading : NumberReading}
    {depth depth' : Nat} (hle : depth ≤ depth') {v : Json}
    (h : Reads (valueBy object reading depth') gs v r) :
    valueBy object reading depth gs = .error .nestingTooDeep ∨
      Reads (valueBy object reading depth) gs v r := by
  obtain ⟨hr, h⟩ := h
  refine (shallower_valueBy object reading hle gs).imp_right fun hsame => ?_
  exact ⟨hr, hsame.trans h⟩

/-- Where a value fails to be read, so does the whole text. -/
theorem readBy_of_error {object : List (List Glyph × Json) → Json} {reading : NumberReading}
    {depth : Nat} {e : ReadError} (h : valueBy object reading depth (skipGap gs) = .error e) :
    readBy object reading depth gs = .error e := by
  rw [readBy, h]

/-- The text of an object that has been read states the object again, unless it nests too deep: just
if it does so where it stands. -/
theorem readGlyphs_of_reads_object {depth depth' : Nat} (hle : depth ≤ depth') {text : List Glyph}
    {v : Json} (hgs : .char '\x7b' :: gs = text ++ r)
    (h : ∀ e, Reads (value asNumber depth') (text ++ e) v e) :
    (readGlyphs depth text = .ok v ∧
        value asNumber depth (.char '\x7b' :: gs) ≠ .error .nestingTooDeep) ∨
      (readGlyphs depth text = .error .nestingTooDeep ∧
        value asNumber depth (.char '\x7b' :: gs) = .error .nestingTooDeep) := by
  have hlt := (h []).length_lt
  rw [List.append_nil] at hlt
  obtain ⟨body, rfl⟩ := exists_cons_of_cons_eq_append (List.ne_nil_of_length_pos hlt) hgs
  have htext : Reads (value asNumber depth') (.char '\x7b' :: body) v [] := by
    simpa using h []
  rw [hgs]
  -- the object ends where `text` does, so what follows changes neither outcome
  rcases htext.or_nestingTooDeep hle with hdeep | hread
  · refine Or.inr ⟨?_, (keepsDepth_valueBy ofMembers depth).keeps hdeep r⟩
    exact readBy_of_error hdeep
  · refine Or.inl ⟨readBy_eq_ok_iff.2 ⟨[], hread, rfl⟩, fun hdeep => ?_⟩
    obtain ⟨_, hlong⟩ := reads_object_append r hread
    cases hlong.symm.trans hdeep

end FlowBuilder.Json
