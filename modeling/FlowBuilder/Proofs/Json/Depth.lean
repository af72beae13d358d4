import FlowBuilder.Proofs.Json.Locality

/-!
# Texts that nest too deep

A reader that meets the limit of nesting in a text meets it in every longer text: what it has read
before is read there too, and neither strings nor numbers nest.

* `items_eq_nestingTooDeep_iff`: among items, one is read too deep after others that are read.
* `keepsDepth_valueBy`: a text that nests too deep does so in every longer text.
-/

namespace FlowBuilder.Json

variable {α : Type} {gs r : List Glyph}

/-! ### Strings and numbers -/

/-- A unit in front changes no failure. -/
theorem consUnit_eq_error_iff {u : StringUnit} {x : UnitReading} {e : ReadError} :
    consUnit u x = .error e ↔ x = .error e := by
  cases x with
  | ok found => simp [consUnit]
  | error e' => rfl

/-- The units of a string do not nest. -/
theorem stringUnits_ne_nestingTooDeep (start : Nat) (gs : List Glyph) :
    stringUnits start gs ≠ .error .nestingTooDeep := by
  intro h
  fun_induction stringUnits start gs with
  | case1 | case2 | case3 | case5 | case7 | case8 => cases h
  | case4 _ _ _ _ _ _ _ _ ih | case6 _ _ _ _ _ ih | case9 _ _ _ _ _ _ _ ih =>
    exact ih (consUnit_eq_error_iff.1 h)

/-- A string does not nest. -/
theorem stringBody_ne_nestingTooDeep (gs : List Glyph) :
    stringBody gs ≠ .error .nestingTooDeep := by
  intro h
  unfold stringBody at h
  split at h
  · next e he =>
    cases h
    exact stringUnits_ne_nestingTooDeep _ gs he
  · cases h

/-- A number does not nest. -/
theorem asNumber_ne_nestingTooDeep (cs : List Char) (t : NumberText) :
    asNumber cs t ≠ .error .nestingTooDeep := by
  intro h
  unfold asNumber at h
  split at h
  · split at h
    · cases h
    · cases h
  · cases h

/-- What is made of a value changes no failure. -/
theorem map_eq_error_iff {ε β : Type} {f : α → β} {x : Except ε α} {e : ε} :
    x.map f = .error e ↔ x = .error e := by
  cases x with
  | error e' => simp [Except.map]
  | ok a => simp [Except.map]

/-- A scalar does not nest. -/
theorem scalar_ne_nestingTooDeep (gs : List Glyph) :
    scalar asNumber gs ≠ .error .nestingTooDeep := by
  intro h
  unfold scalar at h
  split at h
  · cases h
  · unfold number at h
    simp only at h
    split at h
    · cases h
    · exact asNumber_ne_nestingTooDeep _ _ (map_eq_error_iff.1 h)

/-! ### Items -/

section Items

variable {item : Reader α} {close : Char}

/-- A text with an item, behind others and commas, that nests too deep. -/
inductive DeepItems (item : Reader α) : List Glyph → Prop where
  /-- It is the first item. -/
  | first {gs : List Glyph} (hdeep : item gs = .error .nestingTooDeep) : DeepItems item gs
  /-- It is a later one. -/
  | later {gs r₁ r₂ : List Glyph} {a : α} (hread : Reads item gs a r₁)
      (hcomma : skipGap r₁ = .char ',' :: r₂) (hlater : DeepItems item (skipGap r₂)) :
      DeepItems item gs

/-- Reading items goes too deep just if one of them nests too deep. -/
theorem items_eq_nestingTooDeep_iff (hcomma : close ≠ ',') :
    items item close gs = .error .nestingTooDeep ↔ DeepItems item gs := by
  constructor
  · intro h
    -- the other errors of the list are its own, and none of them is about depth
    fun_induction items item close gs with
    | case1 gs e he =>
      cases h
      exact .first he
    | case4 gs a r₁ hr₁ hread r₂ _ e he hsep _ _ ih =>
      cases h
      exact .later ⟨hr₁, hread⟩ hsep (ih he)
    | case2 | case3 | case5 | case6 => cases h
  · intro h
    induction h with
    | first hdeep => rw [items, hdeep]
    | later hread hsep _ ih =>
      obtain ⟨hr₁, hread⟩ := hread
      rw [items, hread]
      simp only
      split
      · next hnil => rw [hsep] at hnil; cases hnil
      · next g r' hgap =>
        rw [hsep] at hgap
        cases hgap
        have hopen : Glyph.char ',' ≠ .char close := fun h => hcomma (Glyph.char.inj h).symm
        rw [if_neg hopen, if_pos rfl, ih]

/-- A reader that nests too deep in a text does so in every longer one. -/
structure KeepsDepth (item : Reader α) : Prop where
  /-- What is too deep stays so. -/
  keeps : ∀ ⦃gs⦄, item gs = .error .nestingTooDeep → ∀ e, item (gs ++ e) = .error .nestingTooDeep
  /-- Nothing nests in an empty text. -/
  nil : item [] ≠ .error .nestingTooDeep

/-- Some text is left where an item nests too deep. -/
theorem KeepsDepth.ne_nil (hitem : KeepsDepth item) (h : DeepItems item gs) : gs ≠ [] := by
  cases h with
  | first hdeep =>
    rintro rfl
    exact hitem.nil hdeep
  | later hread => exact List.ne_nil_of_length_pos (Nat.zero_lt_of_lt hread.length_lt)

/-- Items that nest too deep do so before more text. -/
theorem DeepItems.append (hlocal : IsLocal item) (hitem : KeepsDepth item) (h : DeepItems item gs)
    (e : List Glyph) : DeepItems item (gs ++ e) := by
  induction h with
  | first hdeep => exact .first (hitem.keeps hdeep e)
  | @later gs r₁ r₂ a hread hsep hlater ih =>
    have hcomma := skipGap_append_eq_cons e hsep
    -- no number goes on before a comma, so that the item is read in the longer text too
    have hends : ∀ {r₁ r₂ : List Glyph}, skipGap r₁ = .char ',' :: r₂ → numberChars r₁ = [] :=
      fun h => numberChars_of_skipGap (h ▸ rfl)
    obtain ⟨text, rfl, htext⟩ := hlocal hread (hends hsep)
    rw [← skipGap_append e (hitem.ne_nil hlater)] at ih
    rw [List.append_assoc]
    exact .later (htext _ (hends hcomma)) hcomma ih

/-- What stands in brackets fails just if its items do. -/
theorem bracketed_eq_error_iff {g : Glyph} {e : ReadError} (hopen : skipGap gs = g :: r) :
    bracketed item close gs = .error e ↔
      g ≠ .char close ∧ items item close (g :: r) = .error e := by
  unfold bracketed
  simp only
  split
  · next g' r' hopen' =>
    rw [hopen] at hopen'
    cases hopen'
    by_cases hg : g = .char close
    · simp [hg]
    · rw [if_neg hg]
      split
      · next e' he => simp [he, hg]
      · next hok => simp [hok]
  · next hnil => rw [hopen] at hnil; cases hnil

/-- Items that nest too deep do so in every longer text. -/
theorem bracketed_append_eq_nestingTooDeep (hcomma : close ≠ ',') (hlocal : IsLocal item)
    (hitem : KeepsDepth item) (h : bracketed item close gs = .error .nestingTooDeep)
    (e : List Glyph) : bracketed item close (gs ++ e) = .error .nestingTooDeep := by
  match hskip : skipGap gs with
  | [] =>
    -- the empty text has no item
    unfold bracketed at h
    simp only at h
    split at h
    · next hopen => rw [hskip] at hopen; cases hopen
    · split at h
      · next hitems =>
        cases h
        exact absurd rfl (hitem.ne_nil ((items_eq_nestingTooDeep_iff hcomma).1 hitems))
      · next h' _ => exact absurd h' (Nat.not_lt_zero _)
  | g :: r =>
    rw [bracketed_eq_error_iff hskip, items_eq_nestingTooDeep_iff hcomma] at h
    rw [bracketed_eq_error_iff (skipGap_append_eq_cons e hskip), items_eq_nestingTooDeep_iff hcomma]
    exact ⟨h.1, h.2.append hlocal hitem e⟩

end Items

/-! ### Members and values -/

/-- Behind its key and colon, a member fails just if its value does. -/
theorem member_eq_error_iff {item : Reader Json} {key r₁ r₂ : List Glyph} {e : ReadError}
    (hkey : Reads stringBody gs key r₁) (hcolon : skipGap r₁ = .char ':' :: r₂) :
    member item (.char '"' :: gs) = .error e ↔ item (skipGap r₂) = .error e := by
  obtain ⟨hr₁, hkey⟩ := hkey
  unfold member
  simp only
  rw [hkey]
  simp only
  split
  · next r₂' hcolon' =>
    rw [hcolon] at hcolon'
    cases hcolon'
    split
    · next e' he => simp [he]
    · next hok => simp [hok]
  · next hother => exact absurd hcolon (hother r₂)

/-- A member nests too deep only in its value. -/
theorem exists_of_member_eq_nestingTooDeep {item : Reader Json}
    (h : member item gs = .error .nestingTooDeep) :
    ∃ front key r₁ r₂, gs = .char '"' :: front ∧ Reads stringBody front key r₁ ∧
      skipGap r₁ = .char ':' :: r₂ ∧ item (skipGap r₂) = .error .nestingTooDeep := by
  unfold member at h
  split at h
  · next gs =>
    split at h
    · next he =>
      cases h
      exact absurd he (stringBody_ne_nestingTooDeep gs)
    · next key r₁ hr₁ hkey =>
      split at h
      · next r₂ hcolon =>
        simp only at h
        split at h
        · next hdeep =>
          cases h
          exact ⟨gs, key, r₁, r₂, rfl, ⟨hr₁, hkey⟩, hcolon, hdeep⟩
        · cases h
      · cases h
  · cases h

/-- Members keep their depth if their values do. -/
theorem keepsDepth_member {item : Reader Json} (hitem : KeepsDepth item) :
    KeepsDepth (member item) where
  nil := by
    intro h
    cases h
  keeps gs h e := by
    obtain ⟨front, key, r₁, r₂, rfl, hkey, hcolon, hdeep⟩ := exists_of_member_eq_nestingTooDeep h
    obtain ⟨text, rfl, htext⟩ := exists_text_of_reads_stringBody hkey
    have hne : skipGap r₂ ≠ [] := by
      intro hnil
      exact hitem.nil (hnil ▸ hdeep)
    rw [List.cons_append, List.append_assoc,
      member_eq_error_iff (htext (r₁ ++ e)) (skipGap_append_eq_cons e hcolon), skipGap_append e hne]
    exact hitem.keeps hdeep e

/-- A text that nests too deep does so in every longer text. -/
theorem keepsDepth_valueBy (object : List (List Glyph × Json) → Json) (depth : Nat) :
    KeepsDepth (valueBy object asNumber depth) := by
  induction depth using Nat.strongRecOn with
  | ind depth ih =>
    constructor
    · intro gs h e
      unfold valueBy at h
      -- only brackets can nest too deep: at no depth left at once, else within
      split at h
      · rw [map_eq_error_iff] at h
        exact absurd h (stringBody_ne_nestingTooDeep _)
      · next r =>
        cases depth with
        | zero => rfl
        | succ d =>
          show valueBy object asNumber (d + 1) (.char '[' :: (r ++ e)) = _
          rw [map_eq_error_iff] at h
          rw [valueBy, map_eq_error_iff]
          exact bracketed_append_eq_nestingTooDeep (by decide) (isLocal_valueBy object asNumber d)
            (ih d (Nat.lt_succ_self d)) h e
      · next r =>
        cases depth with
        | zero => rfl
        | succ d =>
          show valueBy object asNumber (d + 1) (.char '\x7b' :: (r ++ e)) = _
          rw [map_eq_error_iff] at h
          rw [valueBy, map_eq_error_iff]
          exact bracketed_append_eq_nestingTooDeep (by decide)
            (isLocal_member (isLocal_valueBy object asNumber d))
            (keepsDepth_member (ih d (Nat.lt_succ_self d))) h e
      · exact absurd h (scalar_ne_nestingTooDeep gs)
    · unfold valueBy
      exact scalar_ne_nestingTooDeep []

end FlowBuilder.Json
