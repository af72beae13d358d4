import Mathlib.Data.List.Infix
import Mathlib.Data.Nat.Find
import FlowBuilder.Content.Sections
import FlowBuilder.Proofs.Text.Trim
import FlowBuilder.Text.Search

/-!
# Markers in replies

Where the markers of a written email stand, and what the search for its sections finds. A text is
looked at as the parts around a marker (`Marks`); a section belongs to the first marker behind which
there is something to read (`FirstMarked`).

* `firstSection?_eq_some_iff`: the search finds the first such marker.
* `bodySection?_eq_some_iff`, `subjectSection_of_firstMarked`: the trimmed sections, where the gap
  behind a marker makes no difference any more.
* `holdsMarker_append_cons_iff`: no marker stands across a character of which none is made.
-/

namespace FlowBuilder

/-- A marker stands between two parts of a text, in letters of either case. -/
def Marks (marker text before after : List Char) : Prop :=
  ∃ spelled, text = before ++ (spelled ++ after) ∧ spelled.map foldLetter = marker.map foldLetter

/-- A marker stands between two parts of a text, the second of which is of a kind that follows no
marker before it. -/
structure FirstMarked (marker : List Char) (Follows : List Char → Prop)
    (text before after : List Char) : Prop where
  /-- The marker stands there. -/
  marks : Marks marker text before after
  /-- What follows it is of the kind. -/
  follows : Follows after
  /-- What follows a marker before it is not. -/
  first : ∀ before' after', Marks marker text before' after' → before'.length < before.length →
    ¬ Follows after'

/-! ### Places of markers -/

section

variable {marker text before after : List Char}

/-- What stands at the front of a text is a marker with nothing before it. -/
theorem afterMarker?_eq_some_iff :
    afterMarker? marker text = some after ↔ Marks marker text [] after := by
  induction marker generalizing text with
  | nil =>
    constructor
    · rintro ⟨⟩
      exact ⟨[], rfl, rfl⟩
    · rintro ⟨spelled, rfl, hspelled⟩
      rw [List.map_nil, List.map_eq_nil_iff] at hspelled
      rw [hspelled]
      rfl
  | cons m ms ih =>
    constructor
    · intro h
      match text, h with
      | c :: cs, h =>
        rw [afterMarker?] at h
        split at h
        · next hc =>
          obtain ⟨spelled, htext, hspelled⟩ := ih.1 h
          refine ⟨c :: spelled, congrArg (c :: ·) htext, ?_⟩
          rw [List.map_cons, List.map_cons, hc, hspelled]
        · cases h
    · rintro ⟨spelled, rfl, hspelled⟩
      match spelled, hspelled with
      | c :: spelled, hspelled =>
        obtain ⟨hc, hspelled⟩ := List.cons.inj hspelled
        show (if foldLetter c = foldLetter m then afterMarker? ms (spelled ++ after) else none) = _
        rw [if_pos hc]
        exact ih.2 ⟨spelled, rfl, hspelled⟩

/-- A marker behind more text is the same marker. -/
theorem marks_append_append_iff (front : List Char) :
    Marks marker (front ++ text) (front ++ before) after ↔ Marks marker text before after := by
  simp only [Marks, List.append_assoc, List.append_cancel_left_eq]

/-- What stands behind the first character stands in the rest of the text. -/
theorem marks_cons_cons_iff {c d : Char} :
    Marks marker (c :: text) (d :: before) after ↔ c = d ∧ Marks marker text before after := by
  simp only [Marks, List.cons_append, List.cons.injEq, and_assoc, exists_and_left]

/-- A marker is still one when text is added behind. -/
theorem Marks.append_right (h : Marks marker text before after) (more : List Char) :
    Marks marker (text ++ more) before (after ++ more) := by
  obtain ⟨spelled, rfl, hspelled⟩ := h
  exact ⟨spelled, by simp only [List.append_assoc], hspelled⟩

/-- A marker takes as much room as it has characters. -/
theorem Marks.length_eq (h : Marks marker text before after) :
    text.length = before.length + marker.length + after.length := by
  obtain ⟨spelled, rfl, hspelled⟩ := h
  have hlength := congrArg List.length hspelled
  simp only [List.length_map] at hlength
  simp only [List.length_append]
  omega

/-- What stands before a marker is shorter than the text. -/
theorem Marks.length_lt (hmarker : marker ≠ []) (h : Marks marker text before after) :
    before.length < text.length := by
  have hpos := List.length_pos_iff.2 hmarker
  rw [h.length_eq]
  omega

/-- What stands before a marker is the start of the text. -/
theorem Marks.before_prefix (h : Marks marker text before after) : before <+: text := by
  obtain ⟨spelled, rfl, -⟩ := h
  exact List.prefix_append before _

/-- What stands after a marker is the end of the text. -/
theorem Marks.after_suffix (h : Marks marker text before after) : after <:+ text := by
  obtain ⟨spelled, rfl, -⟩ := h
  exact (List.suffix_append spelled after).trans (List.suffix_append before _)

/-- What follows a marker is told by its place. -/
theorem Marks.after_eq {before' after' : List Char} (h : Marks marker text before after)
    (h' : Marks marker text before' after') (hplace : before.length = before'.length) :
    after = after' := by
  have hlength : after.length = after'.length := by
    have := h.length_eq.symm.trans h'.length_eq
    omega
  have hsuffix := List.suffix_of_suffix_length_le h.after_suffix h'.after_suffix hlength.le
  exact hsuffix.eq_of_length hlength

/-- Where something of a kind follows a marker, there is a first such place. -/
theorem Marks.exists_firstMarked (h : Marks marker text before after) (Follows : List Char → Prop)
    (hafter : Follows after) :
    ∃ before' after', FirstMarked marker Follows text before' after' := by
  classical
  have hplace : ∃ n, ∃ before' after', Marks marker text before' after' ∧ Follows after' ∧
      before'.length = n :=
    ⟨_, before, after, h, hafter, rfl⟩
  obtain ⟨before', after', hmarks, hfollows, hlength⟩ := Nat.find_spec hplace
  refine ⟨before', after', hmarks, hfollows, fun earlier rest hearlier hlt hrest => ?_⟩
  rw [hlength] at hlt
  exact Nat.find_min hplace hlt ⟨earlier, rest, hearlier, hrest, rfl⟩

/-! ### The search -/

/-- A section is what is found behind the first marker behind which something is found. -/
theorem firstSection?_eq_some_iff {content : List Char} {content? : List Char → Option (List Char)}
    (hmarker : marker ≠ []) :
    firstSection? marker content? text = some content ↔
      ∃ before after, FirstMarked marker (fun r => (content? r).isSome) text before after ∧
        content? after = some content := by
  induction text with
  | nil =>
    constructor
    · rintro ⟨⟩
    · rintro ⟨before, after, h, -⟩
      exact absurd (h.marks.length_lt hmarker) (Nat.not_lt_zero _)
  | cons c r ih =>
    rw [firstSection?]
    cases hhead : (afterMarker? marker (c :: r)).bind content? with
    | some found =>
      -- the marker at the front is the first one
      obtain ⟨rest, hrest, hfound⟩ := Option.bind_eq_some_iff.1 hhead
      have hmarks := afterMarker?_eq_some_iff.1 hrest
      have hfollows : (content? rest).isSome := by
        rw [hfound]
        rfl
      constructor
      · rintro ⟨⟩
        exact ⟨[], rest, ⟨hmarks, hfollows, nofun⟩, hfound⟩
      · rintro ⟨before, after, h, hcontent⟩
        match before, h with
        | [], h =>
          rw [← h.marks.after_eq hmarks rfl, hcontent] at hfound
          exact hfound.symm
        | d :: before, h => exact absurd hfollows (h.first [] rest hmarks (Nat.zero_lt_succ _))
    | none =>
      -- nothing is found at the front, so that the places behind it decide
      have hnone : ∀ rest, Marks marker (c :: r) [] rest → content? rest = none := by
        intro rest hmarks
        rw [afterMarker?_eq_some_iff.2 hmarks] at hhead
        exact hhead
      refine Iff.trans ih ?_
      constructor
      · rintro ⟨before, after, h, hcontent⟩
        refine ⟨c :: before, after, ⟨marks_cons_cons_iff.2 ⟨rfl, h.marks⟩, h.follows, ?_⟩, hcontent⟩
        intro earlier rest hmarks hlt
        match earlier, hmarks, hlt with
        | [], hmarks, _ =>
          rw [hnone rest hmarks]
          exact Bool.false_ne_true
        | d :: earlier, hmarks, hlt =>
          exact h.first earlier rest (marks_cons_cons_iff.1 hmarks).2 (Nat.lt_of_succ_lt_succ hlt)
      · rintro ⟨before, after, h, hcontent⟩
        match before, h with
        | [], h =>
          rw [hnone after h.marks] at hcontent
          cases hcontent
        | d :: before, h =>
          obtain ⟨rfl, hmarks⟩ := marks_cons_cons_iff.1 h.marks
          refine ⟨before, after, ⟨hmarks, h.follows, ?_⟩, hcontent⟩
          intro earlier rest hmarks' hlt
          exact h.first (c :: earlier) rest (marks_cons_cons_iff.2 ⟨rfl, hmarks'⟩)
            (Nat.succ_lt_succ hlt)

end

/-! ### What a section holds -/

/-- Behind a gap there is something in every text that is not empty. -/
theorem isSome_afterGap? (isGap : Char → Bool) (cs : List Char) :
    (afterGap? isGap cs).isSome ↔ cs ≠ [] := by
  unfold afterGap?
  split
  · simp
  · next hcontent =>
    refine ⟨?_, fun _ => rfl⟩
    rintro - rfl
    exact hcontent rfl

/-- A gap is made of blanks, so that trimming what is found behind it is trimming the text. -/
theorem map_trim_afterGap? {isGap : Char → Bool}
    (hgap : ∀ c, isGap c = true → Text.isBlank c = true) {cs : List Char} (hne : cs ≠ []) :
    (afterGap? isGap cs).map Text.trim = some (Text.trim cs) := by
  unfold afterGap?
  split
  · next hdrop =>
    -- the text is all gap: its last character is found, of which trimming leaves nothing
    have hblank : ∀ c ∈ cs, Text.isBlank c = true :=
      fun c hc => hgap c (List.dropWhile_eq_nil_iff.1 hdrop c hc)
    have hlast : ∀ c ∈ [cs.getLast hne], Text.isBlank c = true := by
      intro c hc
      rw [List.mem_singleton.1 hc]
      exact hblank _ (List.getLast_mem hne)
    rw [List.getLast?_eq_getLast_of_ne_nil hne, Text.trim_eq_nil_of_forall hblank]
    exact congrArg some (Text.trim_eq_nil_of_forall hlast)
  · rw [← Text.trim_dropWhile hgap cs]
    rfl

/-- Whatever separates within a line is blank. -/
theorem isBlank_of_isLineGap {c : Char} (h : isLineGap c = true) : Text.isBlank c = true := by
  rcases Bool.or_eq_true_iff.1 h with h | h <;> rw [of_decide_eq_true h] <;> decide

/-- The trimmed section is read off the first marker behind which it is not empty; `part` gives the
part of what follows a marker that belongs to the section. -/
theorem map_trim_firstSection?_eq_some_iff {marker text content : List Char} {isGap : Char → Bool}
    (part : List Char → List Char) (hmarker : marker ≠ [])
    (hgap : ∀ c, isGap c = true → Text.isBlank c = true) :
    (firstSection? marker (fun r => afterGap? isGap (part r)) text).map Text.trim = some content ↔
      ∃ before after, FirstMarked marker (part · ≠ []) text before after ∧
        Text.trim (part after) = content := by
  have hfollows : (fun r => ((afterGap? isGap (part r)).isSome : Prop)) = (part · ≠ []) :=
    funext fun r => propext (isSome_afterGap? isGap (part r))
  -- a gap is blank, so trimming cannot tell where the search has passed over it
  rw [Option.map_eq_some_iff]
  constructor
  · rintro ⟨found, hfound, rfl⟩
    obtain ⟨before, after, h, hafter⟩ := (firstSection?_eq_some_iff hmarker).1 hfound
    rw [hfollows] at h
    have htrim := map_trim_afterGap? hgap h.follows
    rw [hafter] at htrim
    exact ⟨before, after, h, (Option.some.inj htrim).symm⟩
  · rintro ⟨before, after, h, rfl⟩
    obtain ⟨found, hfound⟩ :=
      Option.isSome_iff_exists.1 ((isSome_afterGap? isGap (part after)).2 h.follows)
    have htrim := map_trim_afterGap? hgap h.follows
    rw [hfound] at htrim
    rw [← hfollows] at h
    exact ⟨found, (firstSection?_eq_some_iff hmarker).2 ⟨before, after, h, hfound⟩,
      Option.some.inj htrim⟩

/-- The body is all that follows the first marker that does not end the reply. -/
theorem bodySection?_eq_some_iff {reply body : List Char} :
    bodySection? reply = some body ↔
      ∃ before after, FirstMarked "BODY:".toList (· ≠ []) reply before after ∧
        Text.trim after = body :=
  map_trim_firstSection?_eq_some_iff id (List.cons_ne_nil _ _) fun _ => id

/-- The subject is the rest of the line behind the first marker that does not end its line. -/
theorem subjectSection_of_firstMarked {reply before after : List Char}
    (h : FirstMarked "SUBJECT:".toList (fun r => r.takeWhile (· ≠ '\n') ≠ []) reply before after) :
    subjectSection reply = Text.trim (after.takeWhile (· ≠ '\n')) := by
  have hsection : (firstSection? "SUBJECT:".toList subjectContent? reply).map Text.trim =
      some (Text.trim (after.takeWhile (· ≠ '\n'))) :=
    (map_trim_firstSection?_eq_some_iff _ (List.cons_ne_nil _ _) fun _ => isBlank_of_isLineGap).2
      ⟨before, after, h, rfl⟩
  obtain ⟨found, hfound, htrim⟩ := Option.map_eq_some_iff.1 hsection
  rw [subjectSection, hfound, ← htrim]
  rfl

/-! ### Texts with and without a marker -/

/-- A marker stands somewhere in a text, in letters of either case. -/
def HoldsMarker (marker text : List Char) : Prop :=
  ∃ before after, Marks marker text before after

/-- Without regard to case, the marker is a part of the text. -/
theorem holdsMarker_iff {marker text : List Char} :
    HoldsMarker marker text ↔ Text.holds (marker.map foldLetter) (text.map foldLetter) = true := by
  rw [Text.holds_iff]
  constructor
  · rintro ⟨before, after, spelled, rfl, hspelled⟩
    refine ⟨before.map foldLetter, after.map foldLetter, ?_⟩
    rw [← hspelled]
    simp
  · rintro ⟨before, after, htext⟩
    obtain ⟨front, back, rfl, hfront, rfl⟩ := List.append_eq_map_iff.1 htext
    obtain ⟨before, spelled, rfl, -, hspelled⟩ := List.append_eq_map_iff.1 hfront.symm
    exact ⟨before, back, spelled, List.append_assoc _ _ _, hspelled⟩

instance (marker text : List Char) : Decidable (HoldsMarker marker text) :=
  decidable_of_iff _ holdsMarker_iff.symm

/-- Before a character of which no marker is made, a marker stands in the text before it. -/
theorem Marks.of_append_cons {marker front rest before after : List Char} {c : Char}
    (hmarker : marker ≠ []) (hc : foldLetter c ∉ marker.map foldLetter)
    (h : Marks marker (front ++ c :: rest) before after) (hbefore : before.length ≤ front.length) :
    ∃ after', Marks marker front before after' := by
  obtain ⟨spelled, htext, hspelled⟩ := h
  have hnot : c ∉ spelled := fun hmem => hc (hspelled ▸ List.mem_map_of_mem hmem)
  rcases List.append_eq_append_iff.1 htext with ⟨gap, rfl, hgap⟩ | ⟨inside, rfl, hinside⟩
  · -- the marker would start with the character
    obtain rfl : gap = [] := by
      rw [List.length_append] at hbefore
      exact List.length_eq_zero_iff.1 (by omega)
    match spelled, hspelled with
    | [], hspelled => exact absurd (List.map_eq_nil_iff.1 hspelled.symm) hmarker
    | d :: spelled, _ =>
      obtain ⟨rfl, -⟩ := List.cons.inj hgap
      exact absurd List.mem_cons_self hnot
  · rcases List.append_eq_append_iff.1 hinside with ⟨after', rfl, -⟩ | ⟨excess, hexcess, hafter⟩
    · exact ⟨after', spelled, rfl, hspelled⟩
    · -- the marker ends before the character, or would hold it
      match excess, hafter with
      | [], _ =>
        refine ⟨[], spelled, ?_, hspelled⟩
        rw [hexcess, List.append_nil, List.append_nil]
      | d :: excess, hafter =>
        obtain ⟨rfl, -⟩ := List.cons.inj hafter
        exact absurd (hexcess ▸ List.mem_append_right inside List.mem_cons_self) hnot

/-- No marker stands across a character of which none is made. -/
theorem holdsMarker_append_cons_iff {marker front rest : List Char} {c : Char}
    (hmarker : marker ≠ []) (hc : foldLetter c ∉ marker.map foldLetter) :
    HoldsMarker marker (front ++ c :: rest) ↔
      HoldsMarker marker front ∨ HoldsMarker marker rest := by
  constructor
  · rintro ⟨before, after, h⟩
    rcases Nat.lt_or_ge front.length before.length with hlt | hle
    · -- the marker stands behind the character
      obtain ⟨gap, rfl⟩ :=
        List.prefix_of_prefix_length_le (List.prefix_append front _) h.before_prefix hlt.le
      rw [marks_append_append_iff] at h
      match gap, h with
      | [], _ => exact absurd hlt (by simp)
      | d :: before, h => exact Or.inr ⟨before, after, (marks_cons_cons_iff.1 h).2⟩
    · obtain ⟨after', h⟩ := h.of_append_cons hmarker hc hle
      exact Or.inl ⟨before, after', h⟩
  · rintro (⟨before, after, h⟩ | ⟨before, after, h⟩)
    · exact ⟨before, _, h.append_right (c :: rest)⟩
    · exact ⟨front ++ c :: before, after,
        (marks_append_append_iff front).2 (marks_cons_cons_iff.2 ⟨rfl, h⟩)⟩

end FlowBuilder
