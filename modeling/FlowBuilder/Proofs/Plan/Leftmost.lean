import FlowBuilder.Proofs.Json.Depth
import FlowBuilder.Proofs.Plan.Search
import Mathlib.Data.Nat.Find

/-!
# The leftmost object of a text

The search for an object finds the leftmost one (`IsLeftmost`). The part of the text in which the
object is written states it also on its own. What stands behind that part has no influence on how it
is read, but it may complete an object that starts further left.

* `firstObject?_eq_ok_some_iff_isLeftmost`, `firstObject?_eq_ok_none_iff`: what the search finds.
* `IsLeftmost.firstObject?_take`: nothing behind an object is needed to find it.
* `IsLeftmost.firstObject?_append_iff`: when another text behind an object hides it.
* `locateObject_leftmost`: the object that is found in a reply.
-/

namespace FlowBuilder

open Json (Reads value asNumber)

/-- An object with the value `v` is read in a text from place `i` to place `j`. -/
structure DecodesAt (depth : Nat) (gs : List Glyph) (i j : Nat) (v : Json) : Prop where
  /-- A brace stands at the first place. -/
  brace : gs[i]? = some (.char '\x7b')
  /-- The object is read there, up to the second place. -/
  reads : Reads (value asNumber depth) (gs.drop i) v (gs.drop j)
  /-- The second place is one of the text. -/
  le_length : j ≤ gs.length

/-- The object that is read from place `i` to place `j` is the leftmost one of a text. -/
structure IsLeftmost (depth : Nat) (gs : List Glyph) (i j : Nat) (v : Json) : Prop
    extends DecodesAt depth gs i j v where
  /-- No object is read at a place before. -/
  leftmost : ∀ i' < i, ∀ j' w, ¬ DecodesAt depth gs i' j' w

variable {depth : Nat} {gs gs' : List Glyph} {i j : Nat} {v : Json}

/-- A glyph at a place starts the rest of the text. -/
theorem getElem?_eq_some_iff_drop {g : Glyph} :
    gs[i]? = some g ↔ gs.drop i = g :: gs.drop (i + 1) := by
  constructor
  · intro h
    obtain ⟨hi, hg⟩ := List.getElem?_eq_some_iff.1 h
    rw [List.drop_eq_getElem_cons hi, hg]
  · intro h
    rw [← List.head?_drop, h]
    rfl

/-- A part of a text and what stands behind it are the rest of the text. -/
theorem drop_take_append_drop (gs : List Glyph) (hij : i ≤ j) :
    (gs.take j).drop i ++ gs.drop j = gs.drop i := by
  have hdrop : gs.drop j = (gs.drop i).drop (j - i) := by
    rw [List.drop_drop, Nat.add_sub_cancel' hij]
  rw [hdrop, List.drop_take, List.take_append_drop]

namespace DecodesAt

/-- A decoded part is not empty. -/
theorem lt (h : DecodesAt depth gs i j v) : i < j := by
  have hlt := h.reads.length_lt
  have hle := h.le_length
  rw [List.length_drop, List.length_drop] at hlt
  omega

/-- The text of an object, whatever stands behind it. -/
theorem reads_append (h : DecodesAt depth gs i j v) (e : List Glyph) :
    Reads (value asNumber depth) ((gs.take j).drop i ++ e) v e := by
  have hreads := h.reads
  rw [getElem?_eq_some_iff_drop.1 h.brace] at hreads
  obtain ⟨text, htext, hlocal⟩ := Json.exists_text_of_reads_object hreads
  -- the text from which the object is read is the one between its places
  have hsplit : (gs.take j).drop i ++ gs.drop j = text ++ gs.drop j := by
    rw [drop_take_append_drop gs h.lt.le, getElem?_eq_some_iff_drop.1 h.brace, htext]
  rw [List.append_cancel_right hsplit]
  exact hlocal e

/-- Only the text up to its end matters for an object. -/
theorem of_take_eq (h : DecodesAt depth gs i j v) (heq : gs'.take j = gs.take j) :
    DecodesAt depth gs' i j v := by
  have hlength : j ≤ gs'.length := by
    have hlength := congrArg List.length heq
    have hle := h.le_length
    rw [List.length_take, List.length_take] at hlength
    omega
  refine ⟨?_, ?_, hlength⟩
  · rw [← List.getElem?_take_of_lt h.lt, heq, List.getElem?_take_of_lt h.lt]
    exact h.brace
  · -- between the places, the other text is that of the object
    have hreads := h.reads_append (gs'.drop j)
    rwa [← heq, drop_take_append_drop gs' h.lt.le] at hreads

end DecodesAt

/-- What is read at a brace ends at a place of the text. -/
theorem exists_decodesAt {r : List Glyph} (hbrace : gs[i]? = some (.char '\x7b'))
    (h : Reads (value asNumber depth) (gs.drop i) v r) :
    ∃ j, DecodesAt depth gs i j v ∧ r = gs.drop j := by
  have hi := getElem?_eq_some_iff_drop.1 hbrace
  obtain ⟨text, htext, -⟩ := Json.exists_text_of_reads_object (hi ▸ h)
  have hsuffix : r <:+ gs.drop i := (hi.trans htext) ▸ List.suffix_append text r
  have hr := List.suffix_iff_eq_drop.1 (hsuffix.trans (List.drop_suffix i gs))
  exact ⟨gs.length - r.length, ⟨hbrace, hr ▸ h, Nat.sub_le _ _⟩, hr⟩

/-! ### The search by places -/

/-- Every brace before a place is passed over. -/
def PassedBefore (depth : Nat) (gs : List Glyph) (i : Nat) : Prop :=
  ∀ i' < i, gs[i']? = some (.char '\x7b') → PassedOver depth (gs.drop i')

/-- The search comes to a brace just if everything before it is passed over. -/
theorem searchReaches_iff {after : List Glyph} :
    SearchReaches depth gs after ↔
      ∃ i, gs.drop i = .char '\x7b' :: after ∧ PassedBefore depth gs i := by
  constructor
  · -- the place of a brace is told by the length of what stands before it
    rintro ⟨⟨front, rfl⟩, hpassed⟩
    refine ⟨front.length, List.drop_left, fun i hi hbrace => ?_⟩
    rw [getElem?_eq_some_iff_drop.1 hbrace]
    apply hpassed
    · rw [← getElem?_eq_some_iff_drop.1 hbrace]
      exact List.drop_suffix i _
    · rw [List.length_drop, List.length_append, List.length_cons]
      omega
  · rintro ⟨i, hi, hpassed⟩
    refine ⟨hi ▸ List.drop_suffix i gs, fun r hr hlonger => ?_⟩
    -- the rest is longer, so that its brace stands at an earlier place
    obtain ⟨front, rfl⟩ := hr
    have hlength := congrArg List.length hi
    rw [List.length_drop, List.length_append, List.length_cons, List.length_cons] at hlength
    have hpassed := hpassed front.length (by omega)
    rw [List.drop_left] at hpassed
    exact hpassed (getElem?_eq_some_iff_drop.2 (by simp))

/-- What the search finds: an object behind braces that are passed over. -/
theorem firstObject?_eq_ok_some_iff_decodesAt {located : LocatedObject} :
    firstObject? depth gs = .ok (some located) ↔ ∃ i j, DecodesAt depth gs i j located.value ∧
      PassedBefore depth gs i ∧ located.span = (gs.take j).drop i := by
  -- a brace that the search reaches is a position with every brace before it passed over
  rw [firstObject?_eq_ok_some_iff]
  constructor
  · rintro ⟨after, hreaches, rest, hspan, hread⟩
    obtain ⟨i, hi, hpassed⟩ := searchReaches_iff.1 hreaches
    have hbrace : gs[i]? = some (.char '\x7b') := by
      rw [← List.head?_drop, hi]
      rfl
    rw [← hi] at hspan hread
    obtain ⟨j, hdecodes, rfl⟩ := exists_decodesAt hbrace hread
    refine ⟨i, j, hdecodes, hpassed, ?_⟩
    rw [← drop_take_append_drop gs hdecodes.lt.le] at hspan
    exact (List.append_cancel_right hspan).symm
  · rintro ⟨i, j, hdecodes, hpassed, hspan⟩
    have hi := getElem?_eq_some_iff_drop.1 hdecodes.brace
    refine ⟨_, searchReaches_iff.2 ⟨i, hi, hpassed⟩, gs.drop j, ?_, hi ▸ hdecodes.reads⟩
    rw [hspan, drop_take_append_drop gs hdecodes.lt.le, hi]

/-- In a text that does not nest too deep, braces are passed over where no object is read. -/
theorem passedBefore_of_not_decodesAt (hdepth : ¬ NestsTooDeep depth gs)
    (hnone : ∀ i' < i, ∀ j w, ¬ DecodesAt depth gs i' j w) : PassedBefore depth gs i := by
  intro i' hi' hbrace
  induction i' using Nat.strongRecOn with
  | ind i' ih =>
    match hvalue : value asNumber depth (gs.drop i') with
    | .ok (w, ⟨rest, hrest⟩) =>
      obtain ⟨j, hdecodes, -⟩ := exists_decodesAt hbrace ⟨hrest, hvalue⟩
      exact absurd hdecodes (hnone i' hi' j w)
    | .error e =>
      refine ⟨e, hvalue, ?_⟩
      rintro rfl
      -- the search comes to the brace, as those before it are passed over
      have hcons := getElem?_eq_some_iff_drop.1 hbrace
      have hreaches := searchReaches_iff.2 ⟨i', hcons, fun k hk => ih k hk (hk.trans hi')⟩
      exact hdepth ⟨_, hreaches, hcons ▸ hvalue⟩

/-- Nothing is decoded at a place that is passed over. -/
theorem PassedBefore.not_decodesAt (h : PassedBefore depth gs i) :
    ∀ i' < i, ∀ j w, ¬ DecodesAt depth gs i' j w := by
  intro i' hi' j w hdecodes
  obtain ⟨_, hvalue⟩ := hdecodes.reads
  obtain ⟨e, herror, -⟩ := h i' hi' hdecodes.brace
  rw [hvalue] at herror
  cases herror

/-- The search finds the leftmost object. -/
theorem firstObject?_eq_ok_some_iff_isLeftmost (hdepth : ¬ NestsTooDeep depth gs)
    {located : LocatedObject} : firstObject? depth gs = .ok (some located) ↔
      ∃ i j, IsLeftmost depth gs i j located.value ∧ located.span = (gs.take j).drop i := by
  rw [firstObject?_eq_ok_some_iff_decodesAt]
  constructor
  · rintro ⟨i, j, hdecodes, hpassed, hspan⟩
    exact ⟨i, j, ⟨hdecodes, hpassed.not_decodesAt⟩, hspan⟩
  · rintro ⟨i, j, hleftmost, hspan⟩
    exact ⟨i, j, hleftmost.toDecodesAt, passedBefore_of_not_decodesAt hdepth hleftmost.leftmost,
      hspan⟩

/-- Where an object is decoded, there is a leftmost one. -/
theorem exists_isLeftmost (h : DecodesAt depth gs i j v) : ∃ i j v, IsLeftmost depth gs i j v := by
  classical
  have hexists : ∃ i, ∃ j v, DecodesAt depth gs i j v := ⟨i, j, v, h⟩
  obtain ⟨j, v, hfirst⟩ := Nat.find_spec hexists
  exact ⟨_, j, v, hfirst, fun i' hi' j' w h' => Nat.find_min hexists hi' ⟨j', w, h'⟩⟩

/-- The search finds nothing just if there is nothing to find. -/
theorem firstObject?_eq_ok_none_iff (hdepth : ¬ NestsTooDeep depth gs) :
    firstObject? depth gs = .ok none ↔ ∀ i j v, ¬ DecodesAt depth gs i j v := by
  constructor
  · intro hnone i j v hdecodes
    obtain ⟨i, j, v, hleftmost⟩ := exists_isLeftmost hdecodes
    have hfirst : firstObject? depth gs = .ok (some ⟨(gs.take j).drop i, v⟩) :=
      (firstObject?_eq_ok_some_iff_isLeftmost hdepth).2 ⟨i, j, hleftmost, rfl⟩
    rw [hnone] at hfirst
    cases hfirst
  · intro hnone
    rcases hfirst : firstObject? depth gs with f | _ | located
    · exact absurd (firstObject?_eq_error_iff.1 hfirst).2 hdepth
    · rfl
    · obtain ⟨i, j, hdecodes, -⟩ := firstObject?_eq_ok_some_iff_decodesAt.1 hfirst
      exact absurd hdecodes (hnone i j _)

/-! ### The text of an object -/

namespace DecodesAt

/-- A part has as many glyphs as lie between its ends. -/
theorem length_span (h : DecodesAt depth gs i j v) : ((gs.take j).drop i).length = j - i := by
  rw [List.length_drop, List.length_take_of_le h.le_length]

/-- The part of the text that an object takes. -/
theorem of_span (h : DecodesAt depth gs i j v) :
    DecodesAt depth ((gs.take j).drop i) 0 (j - i) v := by
  have hreads := h.reads_append []
  rw [List.append_nil] at hreads
  refine ⟨?_, ?_, h.length_span.ge⟩
  · rw [List.getElem?_drop, Nat.add_zero, List.getElem?_take_of_lt h.lt]
    exact h.brace
  · rwa [List.drop_zero, ← h.length_span, List.drop_length]

/-- On its own, the text of an object states that object, at a smaller depth too unless it nests too
deep for that. -/
theorem readGlyphs_span (h : DecodesAt depth gs i j v) {depth' : Nat} (hle : depth' ≤ depth) :
    Json.readGlyphs depth' ((gs.take j).drop i) = .ok v ∨
      Json.readGlyphs depth' ((gs.take j).drop i) = .error .nestingTooDeep := by
  have hspan := drop_take_append_drop gs h.lt.le
  rw [getElem?_eq_some_iff_drop.1 h.brace] at hspan
  exact (Json.readGlyphs_of_reads_object hle hspan.symm h.reads_append).imp And.left And.left

/-- At the same depth it does not nest too deep. -/
theorem readGlyphs_span_self (h : DecodesAt depth gs i j v) :
    Json.readGlyphs depth ((gs.take j).drop i) = .ok v := by
  have hreads := h.reads_append []
  have hbrace := getElem?_eq_some_iff_drop.1 h.of_span.brace
  rw [List.drop_zero] at hbrace
  rw [List.append_nil, hbrace] at hreads
  rw [hbrace]
  exact Json.readBy_eq_ok_iff.2 ⟨[], hreads, rfl⟩

/-- In the text of an object, that object is found. -/
theorem firstObject?_span (h : DecodesAt depth gs i j v) :
    firstObject? depth ((gs.take j).drop i) = .ok (some ⟨(gs.take j).drop i, v⟩) := by
  refine firstObject?_eq_ok_some_iff_decodesAt.2 ⟨0, j - i, h.of_span, nofun, ?_⟩
  exact (List.take_of_length_le h.length_span.le).symm

end DecodesAt

/-- What is passed over in a text is passed over where the text is cut off. -/
theorem PassedOver.of_append {r e : List Glyph} (h : PassedOver depth (.char '\x7b' :: r ++ e)) :
    PassedOver depth (.char '\x7b' :: r) := by
  obtain ⟨error, herror, hother⟩ := h
  match hvalue : value asNumber depth (.char '\x7b' :: r) with
  | .ok (w, ⟨rest, hrest⟩) =>
    obtain ⟨_, hlonger⟩ := Json.reads_object_append e ⟨hrest, hvalue⟩
    cases herror.symm.trans hlonger
  | .error e' =>
    refine ⟨e', hvalue, ?_⟩
    rintro rfl
    have hdeep := (Json.keepsDepth_valueBy Json.ofMembers depth).keeps hvalue e
    cases herror.symm.trans hdeep
    exact hother rfl

namespace IsLeftmost

/-- Nothing behind an object is needed to find it. -/
theorem firstObject?_take (hdepth : ¬ NestsTooDeep depth gs) (h : IsLeftmost depth gs i j v) :
    firstObject? depth (gs.take j) = .ok (some ⟨(gs.take j).drop i, v⟩) := by
  have htake : (gs.take j).take j = gs.take j := by
    rw [List.take_take, Nat.min_self]
  refine firstObject?_eq_ok_some_iff_decodesAt.2 ⟨i, j, h.of_take_eq htake, ?_, ?_⟩
  · -- a brace that is passed over in the whole text is so where the text ends with the object
    intro i' hi' hbrace
    have hbrace' : gs[i']? = some (.char '\x7b') := by
      rwa [List.getElem?_take_of_lt (hi'.trans h.lt)] at hbrace
    have hpassed := passedBefore_of_not_decodesAt hdepth h.leftmost i' hi' hbrace'
    rw [← drop_take_append_drop gs (hi'.trans h.lt).le,
      getElem?_eq_some_iff_drop.1 hbrace] at hpassed
    rw [getElem?_eq_some_iff_drop.1 hbrace]
    exact hpassed.of_append
  · rw [htake]

/-- Where another text stands behind an object, the same object is found unless one that starts
before it is read in the other text. -/
theorem firstObject?_append_iff (h : IsLeftmost depth gs i j v) {e : List Glyph}
    (hdepth : ¬ NestsTooDeep depth (gs.take j ++ e)) :
    firstObject? depth (gs.take j ++ e) = .ok (some ⟨(gs.take j).drop i, v⟩) ↔
      ∀ i' < i, ∀ j' w, ¬ DecodesAt depth (gs.take j ++ e) i' j' w := by
  have htake : (gs.take j ++ e).take j = gs.take j :=
    List.take_left' (List.length_take_of_le h.le_length)
  rw [firstObject?_eq_ok_some_iff_isLeftmost hdepth]
  -- only an earlier brace that closes in the text behind can change the object found
  constructor
  · rintro ⟨i₀, j₀, hleftmost, hspan⟩
    have hle : i₀ ≤ i := by
      by_contra hlt
      exact hleftmost.leftmost i (Nat.lt_of_not_le hlt) j v (h.of_take_eq htake)
    rcases hle.lt_or_eq with hlt | rfl
    · -- the object found would be longer, or one of the old text
      rcases Nat.lt_or_ge j j₀ with hj | hj
      · have hlength := congrArg List.length hspan
        have hi := h.lt
        rw [hleftmost.length_span, h.length_span] at hlength
        omega
      · have hold : gs.take j₀ = (gs.take j ++ e).take j₀ := by
          rw [List.take_append_of_le_length, List.take_take, Nat.min_eq_left hj]
          rwa [List.length_take_of_le h.le_length]
        exact absurd (hleftmost.of_take_eq hold) (h.leftmost i₀ hlt j₀ v)
    · exact hleftmost.leftmost
  · intro hnone
    exact ⟨i, j, ⟨h.of_take_eq htake, hnone⟩, by rw [htake]⟩

end IsLeftmost

/-! ### Replies -/

/-- The part of a text between two places. -/
def slice (text : String) (i j : Nat) : String :=
  String.ofList ((text.toList.take j).drop i)

/-- The glyphs of a slice are those between its ends. -/
theorem ofString_slice (text : String) (i j : Nat) :
    Glyph.ofString (slice text i j) = ((Glyph.ofString text).take j).drop i := by
  rw [Glyph.ofString, slice, String.toList_ofList, List.map_drop, List.map_take]
  rfl

/-- The object of a reply is the first one of its text. -/
theorem locateObject_eq_ok_iff {text : String} {located : LocatedObject} :
    locateObject depth (some text) = .ok located ↔
      firstObject? depth (Glyph.ofString text) = .ok (some located) := by
  rw [locateObject, Option.getD_some]
  rcases firstObject? depth (Glyph.ofString text) with f | _ | found <;> simp

/-- A reply lacks an object just if there is no first one. -/
theorem locateObject_eq_noObject_iff {text : String} :
    locateObject depth (some text) = .error (.error .noObject) ↔
      firstObject? depth (Glyph.ofString text) = .ok none := by
  rw [locateObject, Option.getD_some]
  rcases firstObject? depth (Glyph.ofString text) with f | _ | found <;> simp

/-- The object that is found in a reply is the leftmost one. Its part of the text states the same
object on its own, also to a reader with less room unless it nests too deep for that one, and that
object is what is found in that part. What stands behind it is not needed to find it. Whatever
stands there, the object is read at its place in the same way, and it is found unless the other text
completes an object that starts before it. -/
theorem locateObject_leftmost {text : String}
    (hdepth : ¬ NestsTooDeep depth (Glyph.ofString text)) :
    (∀ located, locateObject depth (some text) = .ok located ↔
      ∃ i j, IsLeftmost depth (Glyph.ofString text) i j located.value ∧
        located.span = Glyph.ofString (slice text i j)) ∧
    (locateObject depth (some text) = .error (.error .noObject) ↔
      ∀ i j v, ¬ DecodesAt depth (Glyph.ofString text) i j v) ∧
    ∀ i j v, IsLeftmost depth (Glyph.ofString text) i j v →
      Json.read depth (slice text i j) = .ok v ∧
      (∀ depth' ≤ depth, Json.read depth' (slice text i j) = .ok v ∨
        Json.read depth' (slice text i j) = .error .nestingTooDeep) ∧
      locateObject depth (some (slice text i j)) = .ok ⟨Glyph.ofString (slice text i j), v⟩ ∧
      locateObject depth (some (slice text 0 j)) = locateObject depth (some text) ∧
      ∀ behind, DecodesAt depth (Glyph.ofString (slice text 0 j ++ behind)) i j v ∧
        (¬ NestsTooDeep depth (Glyph.ofString (slice text 0 j ++ behind)) →
          (locateObject depth (some (slice text 0 j ++ behind)) = locateObject depth (some text) ↔
            ∀ i' < i, ∀ j' w,
              ¬ DecodesAt depth (Glyph.ofString (slice text 0 j ++ behind)) i' j' w)) := by
  have hfound : ∀ located, locateObject depth (some text) = .ok located ↔
      ∃ i j, IsLeftmost depth (Glyph.ofString text) i j located.value ∧
        located.span = Glyph.ofString (slice text i j) := by
    intro located
    rw [locateObject_eq_ok_iff, firstObject?_eq_ok_some_iff_isLeftmost hdepth]
    simp only [ofString_slice]
  refine ⟨hfound, locateObject_eq_noObject_iff.trans (firstObject?_eq_ok_none_iff hdepth), ?_⟩
  intro i j v hleftmost
  -- from here on, positions in `text` are positions among its glyphs
  have hlocated : locateObject depth (some text) = .ok ⟨Glyph.ofString (slice text i j), v⟩ :=
    (hfound _).2 ⟨i, j, hleftmost, rfl⟩
  refine ⟨?_, fun depth' hle => ?_, ?_, ?_, fun behind => ⟨?_, fun hdepth' => ?_⟩⟩
  · rw [Json.read, ofString_slice]
    exact hleftmost.readGlyphs_span_self
  · rw [Json.read, ofString_slice]
    exact hleftmost.readGlyphs_span hle
  · rw [locateObject_eq_ok_iff, ofString_slice]
    exact hleftmost.firstObject?_span
  · rw [hlocated, locateObject_eq_ok_iff, ofString_slice, ofString_slice, List.drop_zero]
    exact hleftmost.firstObject?_take hdepth
  · rw [Glyph.ofString_append, ofString_slice, List.drop_zero]
    exact hleftmost.of_take_eq (List.take_left' (List.length_take_of_le hleftmost.le_length))
  · rw [Glyph.ofString_append, ofString_slice, List.drop_zero] at hdepth' ⊢
    rw [hlocated, locateObject_eq_ok_iff, Glyph.ofString_append, ofString_slice, ofString_slice,
      List.drop_zero]
    exact hleftmost.firstObject?_append_iff hdepth'

/-- A text that is searched to the end does not nest too deep. -/
theorem not_nestsTooDeep_of_eq_ok {found : Option LocatedObject}
    (h : firstObject? depth gs = .ok found) : ¬ NestsTooDeep depth gs := by
  intro hdeep
  have herror := firstObject?_eq_error_iff.2 ⟨rfl, hdeep⟩
  rw [h] at herror
  cases herror

/-- A reply with a brace before its object and one behind it. -/
def bracedReply : String :=
  "Use \x7bname\x7d: \x7b\"plan\": \x7b\x7d\x7d Done \x7b"

/-- The object is found between them. -/
theorem bracedReply_located :
    ¬ NestsTooDeep DepthLimits.standard.search (Glyph.ofString bracedReply) ∧
      ∃ i j v, IsLeftmost DepthLimits.standard.search (Glyph.ofString bracedReply) i j v ∧
        slice bracedReply i j = "\x7b\"plan\": \x7b\x7d\x7d" ∧
        Json.read DepthLimits.standard.search (slice bracedReply i j) = .ok v := by
  have hfirst : firstObject? DepthLimits.standard.search (Glyph.ofString bracedReply) = .ok (some
      ⟨Glyph.ofString "\x7b\"plan\": \x7b\x7d\x7d", Json.obj [("plan", Json.obj [])]⟩) := by
    cbv
  have hdepth := not_nestsTooDeep_of_eq_ok hfirst
  obtain ⟨hfound, -, hspan⟩ := locateObject_leftmost hdepth
  obtain ⟨i, j, hleftmost, hslice⟩ := (hfound _).1 (locateObject_eq_ok_iff.2 hfirst)
  exact ⟨hdepth, i, j, _, hleftmost, (Glyph.ofString_injective hslice).symm,
    (hspan i j _ hleftmost).1⟩

/-- A reply that ends within its object, behind an object that is complete. -/
def openReply : String :=
  "\x7b\"plan\": \x7b\x7d"

/-- The object within is found, and is not found any more where a closing brace stands behind it. -/
theorem openReply_closed :
    (¬ NestsTooDeep DepthLimits.standard.search (Glyph.ofString openReply) ∧
      IsLeftmost DepthLimits.standard.search (Glyph.ofString openReply) 9 11 (.object []) ∧
      slice openReply 0 11 = openReply ∧
      locateObject DepthLimits.standard.search (some openReply) =
        .ok ⟨Glyph.ofString (slice openReply 9 11), .object []⟩) ∧
    ¬ NestsTooDeep DepthLimits.standard.search (Glyph.ofString (openReply ++ "\x7d")) ∧
      locateObject DepthLimits.standard.search (some (openReply ++ "\x7d")) =
        .ok ⟨Glyph.ofString (openReply ++ "\x7d"), Json.obj [("plan", .object [])]⟩ := by
  have hopen : firstObject? DepthLimits.standard.search (Glyph.ofString openReply) =
      .ok (some ⟨Glyph.ofString (slice openReply 9 11), .object []⟩) := by
    cbv
  have hclosed : firstObject? DepthLimits.standard.search (Glyph.ofString (openReply ++ "\x7d")) =
      .ok (some ⟨Glyph.ofString (openReply ++ "\x7d"), Json.obj [("plan", .object [])]⟩) := by
    cbv
  have hinner :
      DecodesAt DepthLimits.standard.search (Glyph.ofString openReply) 9 11 (.object []) := by
    have hreads : Reads (value asNumber DepthLimits.standard.search) [.char '\x7b', .char '\x7d']
        (.object []) [] :=
      Json.reads_valueBy_iff.2 (.object (.none rfl))
    exact ⟨by decide, hreads, by decide⟩
  have hleftmost :
      IsLeftmost DepthLimits.standard.search (Glyph.ofString openReply) 9 11 (.object []) := by
    refine ⟨hinner, fun i hi j w hearlier => ?_⟩
    -- before it, the only brace is the first one
    have honly : ∀ i < 9, (Glyph.ofString openReply)[i]? = some (.char '\x7b') → i = 0 := by
      decide
    obtain rfl := honly i hi hearlier.brace
    have hunread : (value asNumber DepthLimits.standard.search
        ((Glyph.ofString openReply).drop 0)).toOption.isNone := by
      decide +kernel
    obtain ⟨_, hread⟩ := hearlier.reads
    rw [hread] at hunread
    cases hunread
  exact ⟨⟨not_nestsTooDeep_of_eq_ok hopen, hleftmost, by decide, locateObject_eq_ok_iff.2 hopen⟩,
    not_nestsTooDeep_of_eq_ok hclosed, locateObject_eq_ok_iff.2 hclosed⟩

end FlowBuilder
