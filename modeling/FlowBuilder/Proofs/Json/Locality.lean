import FlowBuilder.Proofs.Json.Reads

/-!
# What a reading depends on

A reader looks no further than the part that it finds: the part is read in the same way whatever
stands behind it. Only a number may be longer in another text, so that the text behind it must not
go on with a glyph of numbers; behind the parts of arrays and objects, it never does.

* `isLocal_valueBy`: a value is read from its own text.
* `exists_text_of_reads_object`: an object is read from its own text, whatever stands behind it.
* `reads_object_append`: an object is read in every longer text.
-/

namespace FlowBuilder.Json

variable {α : Type} {object : List (List Glyph × Json) → Json} {reading : NumberReading}
  {gs r : List Glyph}

/-! ### Gaps -/

/-- Skipping a gap does not reach into more text, if some is left. -/
theorem skipGap_append (e : List Glyph) (h : skipGap gs ≠ []) :
    skipGap (gs ++ e) = skipGap gs ++ e := by
  rw [skipGap, List.dropWhile_append, if_neg]
  · rfl
  · simpa [skipGap] using h

/-- The glyph behind a gap stays the same before more text. -/
theorem skipGap_append_eq_cons (e : List Glyph) {g : Glyph} (h : skipGap gs = g :: r) :
    skipGap (gs ++ e) = g :: (r ++ e) := by
  rw [skipGap_append e (h ▸ List.cons_ne_nil g r), h, List.cons_append]

/-- The gap at the front of a text is one before other texts too. -/
theorem exists_gap {front : List Glyph} (hne : front ≠ []) (h : skipGap gs = front ++ r) :
    ∃ gap, gs = gap ++ front ++ r ∧ ∀ e, skipGap (gap ++ front ++ e) = front ++ e := by
  refine ⟨gs.takeWhile isGap, ?_, fun e => ?_⟩
  · rw [List.append_assoc, ← h]
    exact List.takeWhile_append_dropWhile.symm
  · -- what stands behind the gap does not start with a gap
    obtain ⟨g, front, rfl⟩ := List.exists_cons_of_ne_nil hne
    have hg : isGap g = false := by
      have hhead := List.head?_dropWhile_not isGap gs
      rw [show gs.dropWhile isGap = g :: (front ++ r) from h] at hhead
      exact hhead
    have hgap : ∀ g ∈ gs.takeWhile isGap, isGap g := List.all_eq_true.1 List.all_takeWhile
    rw [List.append_assoc, skipGap, List.dropWhile_append_of_pos hgap, List.cons_append,
      List.dropWhile_cons_of_neg (by simp [hg])]

/-- A gap ends a number. -/
theorem numberChars_of_isGap {g : Glyph} (hg : isGap g) : numberChars (g :: r) = [] := by
  simp only [isGap, Bool.or_eq_true, decide_eq_true_eq] at hg
  rcases hg with ((rfl | rfl) | rfl) | rfl <;> rfl

/-- No number goes on where, behind a gap, none does. -/
theorem numberChars_of_skipGap (h : numberChars (skipGap gs) = []) : numberChars gs = [] := by
  cases gs with
  | nil => rfl
  | cons g gs =>
    by_cases hg : isGap g
    · exact numberChars_of_isGap hg
    · rwa [skipGap, List.dropWhile_cons_of_neg hg] at h

/-! ### Strings, words and numbers -/

/-- The units of a string are read in a part of the text. -/
theorem ReadsUnits.exists_text {us : List StringUnit} (h : ReadsUnits gs us r) :
    ∃ text, gs = text ++ r ∧ ∀ e, ReadsUnits (text ++ e) us e := by
  induction h with
  | close => exact ⟨[.char '"'], rfl, fun e => .close⟩
  | @numbered a b c d n gs rest us hdigits _ ih =>
    obtain ⟨text, rfl, hlocal⟩ := ih
    exact ⟨.char '\\' :: .char 'u' :: a :: b :: c :: d :: text, rfl,
      fun e => .numbered hdigits (hlocal e)⟩
  | @escaped g c gs rest us hletter _ ih =>
    obtain ⟨text, rfl, hlocal⟩ := ih
    exact ⟨.char '\\' :: g :: text, rfl, fun e => .escaped hletter (hlocal e)⟩
  | @plain g gs rest us hquote hescape hcontrol _ ih =>
    obtain ⟨text, rfl, hlocal⟩ := ih
    exact ⟨g :: text, rfl, fun e => .plain hquote hescape hcontrol (hlocal e)⟩

/-- A string is read in a part of the text. -/
theorem exists_text_of_reads_stringBody {s : List Glyph} (h : Reads stringBody gs s r) :
    ∃ text, gs = text ++ r ∧ ∀ e, Reads stringBody (text ++ e) s e := by
  obtain ⟨us, hunits, htext⟩ := reads_stringBody_iff.1 h
  obtain ⟨text, hgs, hlocal⟩ := hunits.exists_text
  exact ⟨text, hgs, fun e => reads_stringBody_iff.2 ⟨us, hlocal e, htext⟩⟩

/-- Of the characters of a number, the rest are those of the rest. -/
theorem numberChars_drop (gs : List Glyph) {n : Nat} (hn : n ≤ (numberChars gs).length) :
    numberChars (gs.drop n) = (numberChars gs).drop n := by
  fun_induction numberChars gs generalizing n with
  | case1 c r hc ih =>
    cases n with
    | zero => rw [List.drop_zero, List.drop_zero, numberChars, if_pos hc]
    | succ n => exact ih (Nat.le_of_succ_le_succ hn)
  | case2 c r hc =>
    rw [Nat.le_zero.1 hn, List.drop_zero, List.drop_zero, numberChars, if_neg hc]
  | case3 gs hother =>
    rw [Nat.le_zero.1 hn, List.drop_zero, List.drop_zero]
    match gs with
    | [] => rfl
    | .surrogate _ :: r => rfl
    | .char c :: r => exact absurd rfl (hother c r)

/-- The characters of a number end where no number goes on. -/
theorem numberChars_map_append (gs : List Glyph) {e : List Glyph} (he : numberChars e = []) :
    numberChars ((numberChars gs).map Glyph.char ++ e) = numberChars gs := by
  fun_induction numberChars gs with
  | case1 c r hc ih => rw [List.map_cons, List.cons_append, numberChars, if_pos hc, ih]
  | case2 => exact he
  | case3 => exact he

/-- A scalar is read in a part of the text, if no number goes on behind it. -/
theorem ReadsScalar.exists_text {v : Json} (h : ReadsScalar reading gs v r)
    (hr : numberChars r = []) :
    ∃ text, gs = text ++ r ∧ ∀ e, numberChars e = [] → ReadsScalar reading (text ++ e) v e := by
  cases h with
  | word hword => exact ⟨_, rfl, fun e _ => .word hword⟩
  | @number _ left t _ htext hvalue =>
    have hshorter := numberText?_shorter htext
    rw [numberChars_drop gs (Nat.sub_le _ _), List.drop_eq_nil_iff] at hr
    -- no character is left, so that all of them belong to the number
    have hleft : (numberChars gs).length - left.length = (numberChars gs).length := by
      omega
    rw [hleft] at hvalue ⊢
    have hfront := map_numberChars_prefix gs
    have hgs := List.prefix_iff_eq_append.1 hfront
    rw [List.length_map] at hgs
    refine ⟨(numberChars gs).map Glyph.char, hgs.symm, fun e he => ?_⟩
    have hchars := numberChars_map_append gs he
    have hread : ReadsScalar reading ((numberChars gs).map Glyph.char ++ e) v
        (((numberChars gs).map Glyph.char ++ e).drop
          ((numberChars ((numberChars gs).map Glyph.char ++ e)).length - left.length)) := by
      apply ReadsScalar.number
      · rw [hchars]
        exact htext
      · rw [hchars, hleft]
        exact hvalue
    rwa [hchars, hleft, List.drop_left' (List.length_map _)] at hread

/-! ### Parts with parts -/

/-- A reader that finds a part also where something else stands behind the part, if no number goes
on there. -/
def IsLocal (item : Reader α) : Prop :=
  ∀ ⦃gs a r⦄, Reads item gs a r → numberChars r = [] →
    ∃ text, gs = text ++ r ∧ ∀ e, numberChars e = [] → Reads item (text ++ e) a e

section Parts

variable {item : Reader α} {close : Char}

/-- A part in which something is read is not empty. -/
theorem ne_nil_of_reads {a : α} {text : List Glyph}
    (h : ∀ e, numberChars e = [] → Reads item (text ++ e) a e) : text ≠ [] := by
  have hlt := (h [] rfl).length_lt
  rw [List.append_nil] at hlt
  exact List.ne_nil_of_length_pos hlt

/-- A part at the front that is not empty starts like the whole. -/
theorem exists_cons_of_cons_eq_append {g : Glyph} {text : List Glyph} (hne : text ≠ [])
    (h : g :: gs = text ++ r) : ∃ rest, text = g :: rest := by
  rcases List.cons_eq_append_iff.1 h with ⟨hnil, -⟩ | ⟨rest, htext, -⟩
  · exact absurd hnil hne
  · exact ⟨rest, htext⟩

/-- A part in which items are read is not empty. -/
theorem ne_nil_of_readsItems {as : List α} {text : List Glyph}
    (h : ∀ e, ReadsItems item close (text ++ e) as e) : text ≠ [] := by
  have hitems := h []
  rw [List.append_nil] at hitems
  cases hitems with
  | last hitem => exact List.ne_nil_of_length_pos (Nat.zero_lt_of_lt hitem.length_lt)
  | more hitem => exact List.ne_nil_of_length_pos (Nat.zero_lt_of_lt hitem.length_lt)

/-- An item, and the glyph behind it that separates it from what follows. -/
theorem IsLocal.exists_text (hitem : IsLocal item) {g : Glyph} (hg : ∀ e, numberChars (g :: e) = [])
    {a : α} {r₁ : List Glyph} (hread : Reads item gs a r₁) (hskip : skipGap r₁ = g :: r) :
    ∃ text, gs = text ++ r ∧
      ∀ e, ∃ e', Reads item (text ++ e) a e' ∧ skipGap e' = g :: e := by
  obtain ⟨text, rfl, hlocal⟩ := hitem hread (numberChars_of_skipGap (hskip ▸ hg r))
  obtain ⟨gap, rfl, hgap⟩ := exists_gap (List.cons_ne_nil g []) hskip
  refine ⟨text ++ (gap ++ [g]), (List.append_assoc text _ r).symm, fun e => ?_⟩
  rw [List.append_assoc]
  exact ⟨_, hlocal _ (numberChars_of_skipGap (hgap e ▸ hg e)), hgap e⟩

/-- Items are read in a part of the text. -/
theorem ReadsItems.exists_text {as : List α} (hitem : IsLocal item)
    (hclose : ∀ e, numberChars (.char close :: e) = []) (h : ReadsItems item close gs as r) :
    ∃ text, gs = text ++ r ∧ ∀ e, ReadsItems item close (text ++ e) as e := by
  induction h with
  | last hread hskip =>
    obtain ⟨text, rfl, hlocal⟩ := hitem.exists_text hclose hread hskip
    refine ⟨text, rfl, fun e => ?_⟩
    obtain ⟨e', hread, hskip⟩ := hlocal e
    exact .last hread hskip
  | more hread hcomma _ ih =>
    obtain ⟨text, rfl, hlocal⟩ := hitem.exists_text (fun _ => rfl) hread hcomma
    obtain ⟨others, hskip, hothers⟩ := ih
    obtain ⟨gap, rfl, hgap⟩ := exists_gap (ne_nil_of_readsItems hothers) hskip
    refine ⟨text ++ (gap ++ others), (List.append_assoc text _ _).symm, fun e => ?_⟩
    obtain ⟨e', hread, hcomma⟩ := hlocal (gap ++ others ++ e)
    rw [List.append_assoc]
    exact .more hread hcomma (hgap e ▸ hothers e)

/-- What stands in brackets is read in a part of the text. -/
theorem ReadsBracketed.exists_text {as : List α} (hitem : IsLocal item)
    (hclose : ∀ e, numberChars (.char close :: e) = []) (h : ReadsBracketed item close gs as r) :
    ∃ text, gs = text ++ r ∧ ∀ e, ReadsBracketed item close (text ++ e) as e := by
  cases h with
  | none hskip =>
    obtain ⟨gap, rfl, hgap⟩ := exists_gap (List.cons_ne_nil (.char close) []) hskip
    exact ⟨gap ++ [.char close], rfl, fun e => .none (hgap e)⟩
  | @some g gs' _ _ hopen hg hitems =>
    obtain ⟨text, htext, hlocal⟩ := hitems.exists_text hitem hclose
    have hne := ne_nil_of_readsItems hlocal
    obtain ⟨gap, rfl, hgap⟩ := exists_gap hne (hopen.trans htext)
    obtain ⟨rest, rfl⟩ := exists_cons_of_cons_eq_append hne htext
    exact ⟨gap ++ g :: rest, rfl, fun e => .some (hgap e) hg (hlocal e)⟩

end Parts

/-- Members are local if their values are. -/
theorem isLocal_member {item : Reader Json} (hitem : IsLocal item) : IsLocal (member item) := by
  intro gs m r hmember hr
  rw [reads_member_iff] at hmember
  cases hmember with
  | intro hkey hcolon hread =>
    obtain ⟨front, rfl, hfront⟩ := exists_text_of_reads_stringBody hkey
    obtain ⟨before, rfl, hbefore⟩ := exists_gap (List.cons_ne_nil (.char ':') []) hcolon
    obtain ⟨text, hskip, hlocal⟩ := hitem hread hr
    obtain ⟨behind, rfl, hbehind⟩ := exists_gap (ne_nil_of_reads hlocal) hskip
    refine ⟨.char '"' :: (front ++ ((before ++ [.char ':']) ++ (behind ++ text))), ?_, ?_⟩
    · simp only [List.cons_append, List.append_assoc, List.nil_append]
    · intro e he
      rw [List.cons_append, List.append_assoc, List.append_assoc]
      apply reads_member_iff.2
      exact .intro (hfront _) (hbefore _) (hbehind e ▸ hlocal e he)

/-- A value is read from its own text. -/
theorem isLocal_valueBy (object : List (List Glyph × Json) → Json) (reading : NumberReading)
    (depth : Nat) : IsLocal (valueBy object reading depth) := by
  induction depth using Nat.strongRecOn with
  | ind depth ih =>
    intro gs v r hvalue hr
    rw [reads_valueBy_iff] at hvalue
    -- the text of a value is its opening character and the text of what that opens
    cases hvalue with
    | string hbody =>
      obtain ⟨text, rfl, hlocal⟩ := exists_text_of_reads_stringBody hbody
      exact ⟨.char '"' :: text, rfl, fun e _ => reads_valueBy_iff.2 (.string (hlocal e))⟩
    | array hitems =>
      obtain ⟨text, rfl, hlocal⟩ := hitems.exists_text (ih _ (Nat.lt_succ_self _)) fun _ => rfl
      exact ⟨.char '[' :: text, rfl, fun e _ => reads_valueBy_iff.2 (.array (hlocal e))⟩
    | object hmembers =>
      obtain ⟨text, rfl, hlocal⟩ :=
        hmembers.exists_text (isLocal_member (ih _ (Nat.lt_succ_self _))) fun _ => rfl
      exact ⟨.char '\x7b' :: text, rfl, fun e _ => reads_valueBy_iff.2 (.object (hlocal e))⟩
    | @scalar _ g gs _ _ hg hscalar =>
      obtain ⟨text, htext, hlocal⟩ := hscalar.exists_text hr
      have hne := ne_nil_of_reads fun e he => reads_scalar_iff.2 (hlocal e he)
      obtain ⟨rest, rfl⟩ := exists_cons_of_cons_eq_append hne htext
      exact ⟨g :: rest, htext, fun e he => reads_valueBy_iff.2 (.scalar hg (hlocal e he))⟩

/-- An object is read from its own text, whatever stands behind it. -/
theorem exists_text_of_reads_object {depth : Nat} {v : Json}
    (h : Reads (valueBy object reading depth) (.char '\x7b' :: gs) v r) :
    ∃ text, .char '\x7b' :: gs = text ++ r ∧
      ∀ e, Reads (valueBy object reading depth) (text ++ e) v e := by
  rw [reads_valueBy_iff] at h
  cases h with
  | object hmembers =>
    obtain ⟨text, rfl, hlocal⟩ :=
      hmembers.exists_text (isLocal_member (isLocal_valueBy object reading _)) fun _ => rfl
    exact ⟨.char '\x7b' :: text, rfl, fun e => reads_valueBy_iff.2 (.object (hlocal e))⟩
  | scalar hg => exact absurd (by decide) hg

/-- An object is read in every longer text. -/
theorem reads_object_append {depth : Nat} {v : Json} (e : List Glyph)
    (h : Reads (valueBy object reading depth) (.char '\x7b' :: gs) v r) :
    Reads (valueBy object reading depth) (.char '\x7b' :: gs ++ e) v (r ++ e) := by
  obtain ⟨text, htext, hlocal⟩ := exists_text_of_reads_object h
  rw [htext, List.append_assoc]
  exact hlocal (r ++ e)

end FlowBuilder.Json
