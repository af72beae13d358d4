import FlowBuilder.Proofs.Json.Written
import FlowBuilder.Proofs.Plan.Unreadable

/-!
# The search for an object

The search for an object in a reply comes to one brace after another (`SearchReaches`), until one
opens an object (`HoldsFirst`) or the text nests too deep there (`NestsTooDeep`). The text of that
object is then read a second time, which fails only if it nests too deep for that
(`NestsTooDeepAgain`).

* `firstObject?_eq_error_iff`, `firstObject?_eq_some_iff`: where the search stops.
* `decode_of_firstObject?`: what comes of the second reading.
* `ofReply_eq_fault_iff`, `exists_ofReply_eq_fault_iff`: which replies cannot be read.
-/

namespace FlowBuilder

open Json (Reads value asNumber)

section Search

variable {depth : Nat}

/-- Whether no object can be read at the front of a text, for another reason than its depth. -/
def PassedOver (depth : Nat) (gs : List Glyph) : Prop :=
  ∃ e, Json.value Json.asNumber depth gs = .error e ∧ e ≠ .nestingTooDeep

/-- The search for an object comes to a brace of the text, which stands in front of `after`. -/
structure SearchReaches (depth : Nat) (gs after : List Glyph) : Prop where
  /-- The brace is one of the text. -/
  suffix : .char '\x7b' :: after <:+ gs
  /-- Every brace before it has been passed over. -/
  passed : ∀ r, .char '\x7b' :: r <:+ gs → after.length < r.length →
    PassedOver depth (.char '\x7b' :: r)

/-- A brace at which an object is read is not passed over. -/
theorem not_passedOver {gs : List Glyph} {found : Json × Json.Shorter gs}
    (h : value asNumber depth gs = .ok found) : ¬ PassedOver depth gs := by
  rintro ⟨e, he, -⟩
  cases h.symm.trans he

/-- The search comes to one brace at most that is not passed over. -/
theorem SearchReaches.unique {gs after after' : List Glyph} (h : SearchReaches depth gs after)
    (hstops : ¬ PassedOver depth (.char '\x7b' :: after)) (h' : SearchReaches depth gs after')
    (hstops' : ¬ PassedOver depth (.char '\x7b' :: after')) : after = after' := by
  rcases Nat.lt_trichotomy after.length after'.length with hlt | heq | hlt
  · exact absurd (h.passed after' h'.suffix hlt) hstops'
  · have hsuffix := List.suffix_of_suffix_length_le h.suffix h'.suffix (by simp [heq])
    exact (List.cons.inj (hsuffix.eq_of_length (by simp [heq]))).2
  · exact absurd (h'.passed after h.suffix hlt) hstops

/-- The search comes to the first brace, or passes over it and goes on. -/
theorem searchReaches_cons_iff {g : Glyph} {r after : List Glyph} :
    SearchReaches depth (g :: r) after ↔
      g = .char '\x7b' ∧ after = r ∨
        SearchReaches depth r after ∧ (g = .char '\x7b' → PassedOver depth (g :: r)) := by
  constructor
  · rintro ⟨hsuffix, hpassed⟩
    rcases List.suffix_cons_iff.1 hsuffix with heq | hlater
    · cases heq
      exact Or.inl ⟨rfl, rfl⟩
    · refine Or.inr ⟨⟨hlater, fun r' hr' => hpassed r' (hr'.trans (List.suffix_cons g r))⟩, ?_⟩
      rintro rfl
      exact hpassed r List.suffix_rfl hlater.length_le
  · rintro (⟨rfl, rfl⟩ | ⟨⟨hsuffix, hpassed⟩, hfront⟩)
    · refine ⟨List.suffix_rfl, fun r' hr' hlength => ?_⟩
      -- no brace stands before the first glyph
      have hle := hr'.length_le
      simp only [List.length_cons] at hle
      omega
    · refine ⟨hsuffix.trans (List.suffix_cons g r), fun r' hr' hlength => ?_⟩
      rcases List.suffix_cons_iff.1 hr' with heq | hlater
      · cases heq
        exact hfront rfl
      · exact hpassed r' hlater hlength

/-- What holds behind a brace that the search comes to in `g :: r` holds behind `g`, if the search
stops there, or behind a brace that it comes to in `r`. -/
theorem exists_searchReaches_cons_iff {g : Glyph} {r : List Glyph} {P : List Glyph → Prop} :
    (∃ after, SearchReaches depth (g :: r) after ∧ P after) ↔
      g = .char '\x7b' ∧ P r ∨
        (∃ after, SearchReaches depth r after ∧ P after) ∧
          (g = .char '\x7b' → PassedOver depth (g :: r)) := by
  simp only [searchReaches_cons_iff]
  constructor
  · rintro ⟨after, ⟨hg, rfl⟩ | ⟨hreaches, hfront⟩, hP⟩
    · exact Or.inl ⟨hg, hP⟩
    · exact Or.inr ⟨⟨after, hreaches, hP⟩, hfront⟩
  · rintro (⟨hg, hP⟩ | ⟨⟨after, hreaches, hP⟩, hfront⟩)
    · exact ⟨r, Or.inl ⟨hg, rfl⟩, hP⟩
    · exact ⟨after, Or.inr ⟨hreaches, hfront⟩, hP⟩

/-- A text with a brace, before any object, at which it nests too deep. -/
def NestsTooDeep (depth : Nat) (gs : List Glyph) : Prop :=
  ∃ after, SearchReaches depth gs after ∧
    Json.value Json.asNumber depth (.char '\x7b' :: after) = .error .nestingTooDeep

/-- A text nests too deep at the first brace, or behind it if this is passed over. -/
theorem nestsTooDeep_cons_iff {g : Glyph} {r : List Glyph} :
    NestsTooDeep depth (g :: r) ↔
      g = .char '\x7b' ∧ Json.value Json.asNumber depth (.char '\x7b' :: r) =
          .error .nestingTooDeep ∨
        NestsTooDeep depth r ∧ (g = .char '\x7b' → PassedOver depth (g :: r)) :=
  exists_searchReaches_cons_iff

/-- A text whose first object has the given value. -/
def HoldsFirst (depth : Nat) (gs : List Glyph) (v : Json) : Prop :=
  ∃ after, SearchReaches depth gs after ∧ ∃ rest,
    Json.value Json.asNumber depth (.char '\x7b' :: after) = .ok (v, rest)

/-- The search fails just if it comes to a brace at which the text nests too deep. -/
theorem firstObject?_eq_error_iff {gs : List Glyph} {f : Fault} :
    firstObject? depth gs = .error f ↔ f = .nestingTooDeep ∧ NestsTooDeep depth gs := by
  induction gs with
  | nil =>
    refine ⟨nofun, ?_⟩
    rintro ⟨-, after, ⟨hsuffix, -⟩, -⟩
    cases List.suffix_nil.1 hsuffix
  | cons g r ih =>
    rw [nestsTooDeep_cons_iff, firstObject?]
    by_cases hg : g = .char '\x7b'
    · -- only a text that nests too deep stops the search here without an object
      subst hg
      rw [if_pos rfl]
      match hvalue : Json.value Json.asNumber depth (.char '\x7b' :: r) with
      | .ok (v, ⟨rest, _⟩) => simp [PassedOver, hvalue]
      | .error .nestingTooDeep => simp [PassedOver, hvalue, eq_comm]
      | .error .numberTooLong => simpa [PassedOver, hvalue] using ih
      | .error (.malformed left) => simpa [PassedOver, hvalue] using ih
    · rw [if_neg hg, ih]
      simp [hg]

/-- The search finds the first object, and its part of the text. -/
theorem firstObject?_eq_ok_some_iff {gs : List Glyph} {located : LocatedObject} :
    firstObject? depth gs = .ok (some located) ↔ ∃ after, SearchReaches depth gs after ∧ ∃ rest,
      .char '\x7b' :: after = located.span ++ rest ∧
        Reads (value asNumber depth) (.char '\x7b' :: after) located.value rest := by
  induction gs with
  | nil =>
    refine ⟨nofun, ?_⟩
    rintro ⟨after, ⟨hsuffix, -⟩, -⟩
    cases List.suffix_nil.1 hsuffix
  | cons g r ih =>
    rw [exists_searchReaches_cons_iff, ← ih, firstObject?]
    by_cases hg : g = .char '\x7b'
    · subst hg
      rw [if_pos rfl]
      match hvalue : value asNumber depth (.char '\x7b' :: r) with
      | .ok (v, ⟨rest, hrest⟩) =>
        obtain ⟨text, htext, -⟩ := Json.exists_text_of_reads_object ⟨hrest, hvalue⟩
        -- what is left tells how long the text of the object is
        have htake : (.char '\x7b' :: r : List Glyph).take
            ((.char '\x7b' :: r : List Glyph).length - rest.length) = text := by
          rw [htext, List.length_append, Nat.add_sub_cancel_right, List.take_left]
        obtain ⟨span, w⟩ := located
        constructor
        · rintro ⟨⟩
          exact Or.inl ⟨rfl, rest, htake ▸ htext, hrest, hvalue⟩
        · rintro (⟨-, rest', hspan, hread⟩ | ⟨-, h⟩)
          · obtain ⟨rfl, rfl⟩ := hread.unique ⟨hrest, hvalue⟩
            rw [htext] at hspan
            simp only [htake, List.append_cancel_right hspan]
          · exact absurd (h rfl) (not_passedOver hvalue)
      | .error .nestingTooDeep => simp [PassedOver, Reads, hvalue]
      | .error .numberTooLong => simp [PassedOver, Reads, hvalue]
      | .error (.malformed left) => simp [PassedOver, Reads, hvalue]
    · rw [if_neg hg]
      simp [hg]

/-- The value of what the search finds. -/
theorem firstObject?_eq_some_iff {gs : List Glyph} {v : Json} :
    (∃ located, firstObject? depth gs = .ok (some located) ∧ located.value = v) ↔
      HoldsFirst depth gs v := by
  simp only [firstObject?_eq_ok_some_iff]
  constructor
  · rintro ⟨located, ⟨after, hreaches, rest, -, hrest, hvalue⟩, rfl⟩
    exact ⟨after, hreaches, ⟨rest, hrest⟩, hvalue⟩
  · rintro ⟨after, hreaches, ⟨rest, hrest⟩, hvalue⟩
    obtain ⟨text, htext, -⟩ := Json.exists_text_of_reads_object ⟨hrest, hvalue⟩
    exact ⟨⟨text, v⟩, ⟨after, hreaches, rest, htext, hrest, hvalue⟩, rfl⟩

/-- A text has one first object at most. -/
theorem HoldsFirst.eq {gs : List Glyph} {v w : Json} (hv : HoldsFirst depth gs v)
    (hw : HoldsFirst depth gs w) : w = v := by
  obtain ⟨after, hreaches, rest, hvalue⟩ := hv
  obtain ⟨after', hreaches', rest', hvalue'⟩ := hw
  obtain rfl := hreaches.unique (not_passedOver hvalue) hreaches' (not_passedOver hvalue')
  cases hvalue.symm.trans hvalue'
  rfl

/-- A text that nests too deep before any object has no first one. -/
theorem NestsTooDeep.not_holdsFirst {gs : List Glyph} {v : Json} (h : NestsTooDeep depth gs) :
    ¬ HoldsFirst depth gs v := by
  rintro ⟨after, hreaches, rest, hvalue⟩
  obtain ⟨after', hreaches', hdeep⟩ := h
  have hstops : ¬ PassedOver depth (.char '\x7b' :: after') := by
    rintro ⟨e, he, hother⟩
    exact hother (Except.error.inj (he.symm.trans hdeep))
  obtain rfl := hreaches.unique (not_passedOver hvalue) hreaches' hstops
  cases hvalue.symm.trans hdeep

end Search

/-! ### The second reading -/

/-- A text with an object, the first one, that nests too deep to be read a second time. -/
def NestsTooDeepAgain (limits : DepthLimits) (gs : List Glyph) : Prop :=
  ∃ after, SearchReaches limits.search gs after ∧
    (∃ v rest, value asNumber limits.search (.char '\x7b' :: after) = .ok (v, rest)) ∧
    value asNumber limits.decode (.char '\x7b' :: after) = .error .nestingTooDeep

section Again

variable {limits : DepthLimits} {gs : List Glyph} {located : LocatedObject}

/-- An object in front that is read at the depth of the second reading is the first one, and does
not nest too deep for it. -/
theorem holdsFirst_of_reads {r rest : List Glyph} {v : Json}
    (h : Reads (value asNumber limits.decode) (.char '\x7b' :: r) v rest) :
    HoldsFirst limits.search (.char '\x7b' :: r) v ∧
      ¬ NestsTooDeepAgain limits (.char '\x7b' :: r) := by
  obtain ⟨hrest, hvalue⟩ := Json.reads_valueBy_mono limits.decode_le_search h
  have hfront : SearchReaches limits.search (.char '\x7b' :: r) r :=
    searchReaches_cons_iff.2 (Or.inl ⟨rfl, rfl⟩)
  refine ⟨⟨r, hfront, ⟨rest, hrest⟩, hvalue⟩, ?_⟩
  rintro ⟨after, hreaches, ⟨w, rest', hw⟩, hdeep⟩
  obtain rfl := hreaches.unique (not_passedOver hw) hfront (not_passedOver hvalue)
  obtain ⟨_, hdecode⟩ := h
  cases hdecode.symm.trans hdeep

/-- The text of the first object states the same object again, unless it nests too deep for the
second reading. -/
theorem decode_of_firstObject? (h : firstObject? limits.search gs = .ok (some located)) :
    (located.decode limits.decode = .ok located.value ∧ ¬ NestsTooDeepAgain limits gs) ∨
      (located.decode limits.decode = .error .nestingTooDeep ∧ NestsTooDeepAgain limits gs) := by
  obtain ⟨after, hreaches, rest, hspan, hread⟩ := firstObject?_eq_ok_some_iff.1 h
  obtain ⟨text, htext, hlocal⟩ := Json.exists_text_of_reads_object hread
  rw [htext] at hspan
  obtain rfl := List.append_cancel_right hspan
  -- the search stops at one brace only, so it is this one that is read again
  have honly : NestsTooDeepAgain limits gs ↔
      value asNumber limits.decode (.char '\x7b' :: after) = .error .nestingTooDeep := by
    obtain ⟨hrest, hvalue⟩ := hread
    constructor
    · rintro ⟨after', hreaches', ⟨v, rest', hvalue'⟩, hdeep⟩
      obtain rfl := hreaches.unique (not_passedOver hvalue) hreaches' (not_passedOver hvalue')
      exact hdeep
    · exact fun hdeep => ⟨after, hreaches, ⟨located.value, _, hvalue⟩, hdeep⟩
  rw [honly, LocatedObject.decode]
  rcases Json.readGlyphs_of_reads_object limits.decode_le_search htext hlocal with
    ⟨hok, hshallow⟩ | ⟨herror, hdeep⟩
  · exact Or.inl ⟨by rw [hok], hshallow⟩
  · exact Or.inr ⟨by rw [herror], hdeep⟩

/-- The first object of a text fits the depth of the second reading, unless it nests too deep for
that. -/
theorem HoldsFirst.fits {v : Json} (hv : HoldsFirst limits.search gs v)
    (hagain : ¬ NestsTooDeepAgain limits gs) : v.Fits (limits.display + 1) := by
  obtain ⟨located, hlocated, rfl⟩ := firstObject?_eq_some_iff.2 hv
  obtain ⟨hok, -⟩ | ⟨-, hdeep⟩ := decode_of_firstObject? hlocated
  · rw [LocatedObject.decode] at hok
    split at hok
    · next v hread =>
      cases hok
      exact (Json.fits_of_readGlyphs hread).mono limits.decode_le_display
    all_goals cases hok
  · exact absurd hdeep hagain

end Again

/-! ### Replies -/

section Replies

variable {limits : DepthLimits} {reply : Option String}

/-- A reply whose text nests too deep, in front of its first object or in it, cannot be read. -/
theorem ofReply_of_nestsTooDeep
    (h : NestsTooDeep limits.search (Glyph.ofString (reply.getD "")) ∨
      NestsTooDeepAgain limits (Glyph.ofString (reply.getD ""))) :
    Plan.ofReply limits reply = .error (.fault .nestingTooDeep) := by
  rw [Plan.ofReply, locateObject]
  rcases h with hdeep | hagain
  · rw [firstObject?_eq_error_iff.2 ⟨rfl, hdeep⟩]
    rfl
  · obtain ⟨after, hreaches, ⟨v, rest, hvalue⟩, hdeep⟩ := id hagain
    obtain ⟨located, hlocated, -⟩ := firstObject?_eq_some_iff.2 ⟨after, hreaches, rest, hvalue⟩
    obtain ⟨-, hshallow⟩ | ⟨hdecode, -⟩ := decode_of_firstObject? hlocated
    · exact absurd hagain hshallow
    · rw [hlocated]
      show (orFault (located.decode limits.decode) >>= Plan.ofJson limits) = _
      rw [hdecode]
      rfl

/-- The first object of a reply decides what comes of it, unless its text nests too deep. -/
theorem ofReply_of_holdsFirst {v : Json}
    (h : HoldsFirst limits.search (Glyph.ofString (reply.getD "")) v)
    (hagain : ¬ NestsTooDeepAgain limits (Glyph.ofString (reply.getD ""))) :
    Plan.ofReply limits reply = Plan.ofJson limits v := by
  obtain ⟨located, hlocated, rfl⟩ := firstObject?_eq_some_iff.2 h
  obtain ⟨hdecode, -⟩ | ⟨-, hdeep⟩ := decode_of_firstObject? hlocated
  · rw [Plan.ofReply, locateObject, hlocated]
    show (orFault (located.decode limits.decode) >>= Plan.ofJson limits) = _
    rw [hdecode]
    rfl
  · exact absurd hdeep hagain

/-- A reply in which the search finds nothing holds no object. -/
theorem ofReply_of_firstObject?_eq_none
    (h : firstObject? limits.search (Glyph.ofString (reply.getD "")) = .ok none) :
    Plan.ofReply limits reply = .error (.error .noObject) := by
  rw [Plan.ofReply, locateObject, h]
  rfl

/-- The plan of a reply is the one that its first object states. -/
theorem exists_holdsFirst_of_ofReply {p : Plan} (h : Plan.ofReply limits reply = .ok p) :
    ∃ v, HoldsFirst limits.search (Glyph.ofString (reply.getD "")) v ∧
      Plan.ofJson limits v = .ok p := by
  by_cases hdeep : NestsTooDeep limits.search (Glyph.ofString (reply.getD "")) ∨
      NestsTooDeepAgain limits (Glyph.ofString (reply.getD ""))
  · cases h.symm.trans (ofReply_of_nestsTooDeep hdeep)
  · obtain ⟨hsearch, hagain⟩ := not_or.1 hdeep
    match hfirst : firstObject? limits.search (Glyph.ofString (reply.getD "")) with
    | .error f => exact absurd (firstObject?_eq_error_iff.1 hfirst).2 hsearch
    | .ok none => cases h.symm.trans (ofReply_of_firstObject?_eq_none hfirst)
    | .ok (some located) =>
      have hv := firstObject?_eq_some_iff.1 ⟨located, hfirst, rfl⟩
      exact ⟨located.value, hv, (ofReply_of_holdsFirst hv hagain).symm.trans h⟩

/-- A reply cannot be read just if it nests too deep before its first object or in it, or its first
object cannot be read as a plan. -/
theorem ofReply_eq_fault_iff {f : Fault} :
    Plan.ofReply limits reply = .error (.fault f) ↔
      f = .nestingTooDeep ∧ (NestsTooDeep limits.search (Glyph.ofString (reply.getD "")) ∨
          NestsTooDeepAgain limits (Glyph.ofString (reply.getD ""))) ∨
        ¬ NestsTooDeepAgain limits (Glyph.ofString (reply.getD "")) ∧
          ∃ v, HoldsFirst limits.search (Glyph.ofString (reply.getD "")) v ∧
            (f = .nestingTooDeep ∧ v.StatesEmails ∧ v.TypesTooDeep limits ∨
              f = .numberTooLong ∧ ¬ v.TypesTooDeep limits ∧ v.StatesOverlong) := by
  by_cases hdeep : NestsTooDeep limits.search (Glyph.ofString (reply.getD "")) ∨
      NestsTooDeepAgain limits (Glyph.ofString (reply.getD ""))
  · rw [ofReply_of_nestsTooDeep hdeep]
    constructor
    · rintro ⟨⟩
      exact Or.inl ⟨rfl, hdeep⟩
    · rintro (⟨rfl, -⟩ | ⟨hagain, v, hv, -⟩)
      · rfl
      · exact absurd hv (hdeep.resolve_right hagain).not_holdsFirst
  -- the object is found and read again, so only its own content can be unreadable
  · obtain ⟨hsearch, hagain⟩ := not_or.1 hdeep
    rw [or_iff_right fun h => hdeep h.2, and_iff_right hagain]
    rcases hfirst : firstObject? limits.search (Glyph.ofString (reply.getD "")) with
      g | _ | located
    · exact absurd (firstObject?_eq_error_iff.1 hfirst).2 hsearch
    · rw [ofReply_of_firstObject?_eq_none hfirst]
      refine iff_of_false nofun ?_
      rintro ⟨v, hv, -⟩
      obtain ⟨located, hlocated, -⟩ := firstObject?_eq_some_iff.2 hv
      cases hfirst.symm.trans hlocated
    · have hv : HoldsFirst limits.search (Glyph.ofString (reply.getD "")) located.value :=
        firstObject?_eq_some_iff.1 ⟨located, hfirst, rfl⟩
      rw [ofReply_of_holdsFirst hv hagain, ofJson_eq_fault_iff (hv.fits hagain)]
      constructor
      · exact fun h => ⟨located.value, hv, h⟩
      · rintro ⟨w, hw, h⟩
        rwa [hv.eq hw] at h

/-- The ways in which a reply cannot be read. -/
theorem exists_ofReply_eq_fault_iff :
    (∃ f, Plan.ofReply limits reply = .error (.fault f)) ↔
      NestsTooDeep limits.search (Glyph.ofString (reply.getD "")) ∨
        NestsTooDeepAgain limits (Glyph.ofString (reply.getD "")) ∨
          ∃ v, HoldsFirst limits.search (Glyph.ofString (reply.getD "")) v ∧
            (v.StatesEmails ∧ v.TypesTooDeep limits ∨ v.StatesOverlong) := by
  simp only [ofReply_eq_fault_iff]
  constructor
  · rintro ⟨f, ⟨-, hdeep⟩ | ⟨-, v, hv, ⟨-, hemails, htypes⟩ | ⟨-, -, hoverlong⟩⟩⟩
    · exact hdeep.imp_right Or.inl
    · exact Or.inr (Or.inr ⟨v, hv, Or.inl ⟨hemails, htypes⟩⟩)
    · exact Or.inr (Or.inr ⟨v, hv, Or.inr hoverlong⟩)
  · intro h
    by_cases hagain : NestsTooDeepAgain limits (Glyph.ofString (reply.getD ""))
    · exact ⟨_, Or.inl ⟨rfl, Or.inr hagain⟩⟩
    rcases h with hdeep | hdeep | ⟨v, hv, hunread⟩
    · exact ⟨_, Or.inl ⟨rfl, Or.inl hdeep⟩⟩
    · exact absurd hdeep hagain
    · -- too deep a type comes before an overlong number
      have hemails : v.StatesEmails := hunread.elim And.left Json.StatesOverlong.statesEmails
      by_cases htypes : v.TypesTooDeep limits
      · exact ⟨_, Or.inr ⟨hagain, v, hv, Or.inl ⟨rfl, hemails, htypes⟩⟩⟩
      · have hoverlong := hunread.resolve_left fun h => htypes h.2
        exact ⟨_, Or.inr ⟨hagain, v, hv, Or.inr ⟨rfl, htypes, hoverlong⟩⟩⟩

end Replies

end FlowBuilder
