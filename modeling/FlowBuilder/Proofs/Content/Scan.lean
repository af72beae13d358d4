import FlowBuilder.Proofs.Content.Markers

/-!
# The sections of a reply as a scan

What a reply holds can be told without a search that goes back: each section starts right behind the
leftmost marker of its kind that has room for it (`Scanned`). The search itself takes as much of the
gap behind a marker as it can, and gives characters back where nothing else is left for the section
(`greedyContent?`); as the sections are trimmed, none of that is seen in them.

* `subjectContent?_eq_greedyContent?`, `bodyContent?_eq_greedyContent?`: the search as one that
  gives characters back.
* `ofReply_eq_iff_scanned`: the sections of a reply as a scan.
-/

namespace FlowBuilder

/-! ### Greedy gaps -/

section Greedy

variable {isGap inGroup : Char → Bool}

/-- One character or more of a group, as many as there are. -/
def groupContent? (inGroup : Char → Bool) (cs : List Char) : Option (List Char) :=
  match cs.takeWhile inGroup with
  | [] => none
  | content => some content

/-- One character or more of a group behind a gap. The gap takes a character if it can; where
nothing is found behind that one, it gives it back. -/
def greedyContent? (isGap inGroup : Char → Bool) : List Char → Option (List Char)
  | [] => groupContent? inGroup []
  | c :: r =>
    if isGap c then (greedyContent? isGap inGroup r).or (groupContent? inGroup (c :: r))
    else groupContent? inGroup (c :: r)

/-- The gap gives its last character back, and no other. -/
theorem afterGap?_cons_of_isGap {c : Char} (hc : isGap c = true) (cs : List Char) :
    afterGap? isGap (c :: cs) = (afterGap? isGap cs).or (some (c :: cs)) := by
  unfold afterGap?
  rw [List.dropWhile_cons_of_pos hc]
  cases hdrop : cs.dropWhile isGap with
  | cons d ds => rfl
  | nil =>
    -- all of the text is gap, and its last character is that of the rest, if there is a rest
    cases cs with
    | nil => rfl
    | cons d ds =>
      rw [List.getLast?_cons_cons]
      simp [List.getLast?_cons]

/-- What a greedy gap leaves to a group that has all of its characters. -/
theorem greedyContent?_eq_afterGap? (hgap : ∀ c, isGap c = true → inGroup c = true)
    (cs : List Char) :
    greedyContent? isGap inGroup cs = afterGap? isGap (cs.takeWhile inGroup) := by
  induction cs with
  | nil => rfl
  | cons c r ih =>
    rw [greedyContent?]
    by_cases hc : isGap c = true
    · -- what the gap gives back is found only if nothing is found behind it
      rw [if_pos hc, ih, groupContent?, List.takeWhile_cons_of_pos (hgap c hc),
        afterGap?_cons_of_isGap hc]
    · rw [if_neg hc, groupContent?]
      by_cases hgroup : inGroup c = true
      · rw [List.takeWhile_cons_of_pos hgroup, afterGap?, List.dropWhile_cons_of_neg hc]
      · rw [List.takeWhile_cons_of_neg hgroup]
        rfl

end Greedy

/-- The subject stands behind a gap of blanks and tabs, up to the end of the line. -/
theorem subjectContent?_eq_greedyContent? :
    subjectContent? = greedyContent? isLineGap (· ≠ '\n') := by
  funext cs
  refine (greedyContent?_eq_afterGap? ?_ cs).symm
  intro c hc
  rcases Bool.or_eq_true_iff.1 hc with h | h <;> rw [of_decide_eq_true h] <;> decide

/-- The body stands behind a gap of any blanks, up to the end of the reply. -/
theorem bodyContent?_eq_greedyContent? :
    bodyContent? = greedyContent? Text.isBlank fun _ => true := by
  funext cs
  rw [greedyContent?_eq_afterGap? fun _ _ => rfl, List.takeWhile_eq_self_iff.2 fun _ _ => rfl]
  rfl

/-! ### The scan -/

/-- The part of a text that belongs to its first line. -/
def firstLine (cs : List Char) : List Char :=
  cs.takeWhile (· ≠ '\n')

/-- The subject marker stands between two parts of a text, as the leftmost one that is followed by
another character of its line. -/
def MarksSubject (text before after : List Char) : Prop :=
  FirstMarked "SUBJECT:".toList (firstLine · ≠ []) text before after

/-- The body marker stands between two parts of a text, as the leftmost one that does not end it. -/
def MarksBody (text before after : List Char) : Prop :=
  FirstMarked "BODY:".toList (· ≠ []) text before after

/-- What a text holds by a scan for its markers. -/
structure Scanned (text fallback : String) (content : EmailContent) : Prop where
  /-- The subject is what stands behind its marker in the line, if that is not blank. -/
  subject_marked : ∀ before after, MarksSubject text.toList before after →
    Text.trim (firstLine after) ≠ [] →
      content.subject = String.ofList (Text.trim (firstLine after)) ∧
        content.subjectFallback = false
  /-- Without a marker, or with a blank line behind it, the subject is the default. -/
  subject_unmarked :
    (∀ before after, MarksSubject text.toList before after → Text.trim (firstLine after) = []) →
      content.subject = fallback ∧ content.subjectFallback = true
  /-- The body is all that stands behind its marker. -/
  body_marked : ∀ before after, MarksBody text.toList before after →
    content.body = String.ofList (Text.trim after) ∧ content.bodyFallback = false
  /-- Without a marker, the body is the whole text. -/
  body_unmarked : (∀ before after, ¬ MarksBody text.toList before after) →
    content.body = Text.strip text ∧ content.bodyFallback = true

/-- Where no subject is marked, there is none. -/
theorem subjectSection_eq_nil {text : List Char}
    (h : ∀ before after, ¬ MarksSubject text before after) : subjectSection text = [] := by
  rw [subjectSection]
  cases hsection : firstSection? "SUBJECT:".toList subjectContent? text with
  | none => rfl
  | some found =>
    obtain ⟨before, after, hmarks, -⟩ :=
      (map_trim_firstSection?_eq_some_iff firstLine (List.cons_ne_nil _ _)
        fun _ => isBlank_of_isLineGap).1 (congrArg (Option.map Text.trim) hsection)
    exact absurd hmarks (h before after)

/-- What is read from a reply is what the scan finds. -/
theorem scanned_ofReply (text fallback : String) :
    Scanned text fallback (EmailContent.ofReply (some text) fallback) where
  subject_marked before after hmarks hne := by
    have hsection := subjectSection_of_firstMarked hmarks
    simp only [EmailContent.ofReply, Option.getD_some]
    rw [hsection]
    exact ⟨if_neg hne, List.isEmpty_eq_false_iff.2 hne⟩
  subject_unmarked hblank := by
    have hsection : subjectSection text.toList = [] := by
      -- every marked line is blank, or there is none
      by_cases hmarked : ∃ before after, MarksSubject text.toList before after
      · obtain ⟨before, after, hmarks⟩ := hmarked
        rw [subjectSection_of_firstMarked hmarks]
        exact hblank before after hmarks
      · exact subjectSection_eq_nil fun before after hmarks => hmarked ⟨before, after, hmarks⟩
    simp only [EmailContent.ofReply, Option.getD_some]
    rw [hsection]
    exact ⟨rfl, rfl⟩
  body_marked before after hmarks := by
    have hsection : bodySection? text.toList = some (Text.trim after) :=
      bodySection?_eq_some_iff.2 ⟨before, after, hmarks, rfl⟩
    simp only [EmailContent.ofReply, Option.getD_some]
    rw [hsection]
    exact ⟨rfl, rfl⟩
  body_unmarked hnone := by
    have hsection : bodySection? text.toList = none := by
      rw [Option.eq_none_iff_forall_ne_some]
      intro body hbody
      obtain ⟨before, after, hmarks, -⟩ := bodySection?_eq_some_iff.1 hbody
      exact hnone before after hmarks
    simp only [EmailContent.ofReply, Option.getD_some]
    rw [hsection]
    exact ⟨rfl, rfl⟩

/-- A scan decides all of the content. -/
theorem Scanned.unique {text fallback : String} {content content' : EmailContent}
    (h : Scanned text fallback content) (h' : Scanned text fallback content') :
    content = content' := by
  -- each field of the scan is settled by one of two clauses, the same one on both sides
  have hsubject : content.subject = content'.subject ∧
      content.subjectFallback = content'.subjectFallback := by
    by_cases hblank : ∀ before after, MarksSubject text.toList before after →
        Text.trim (firstLine after) = []
    · obtain ⟨hs, hf⟩ := h.subject_unmarked hblank
      obtain ⟨hs', hf'⟩ := h'.subject_unmarked hblank
      exact ⟨hs.trans hs'.symm, hf.trans hf'.symm⟩
    · push Not at hblank
      obtain ⟨before, after, hmarks, hne⟩ := hblank
      obtain ⟨hs, hf⟩ := h.subject_marked before after hmarks hne
      obtain ⟨hs', hf'⟩ := h'.subject_marked before after hmarks hne
      exact ⟨hs.trans hs'.symm, hf.trans hf'.symm⟩
  have hbody : content.body = content'.body ∧ content.bodyFallback = content'.bodyFallback := by
    by_cases hnone : ∀ before after, ¬ MarksBody text.toList before after
    · obtain ⟨hb, hf⟩ := h.body_unmarked hnone
      obtain ⟨hb', hf'⟩ := h'.body_unmarked hnone
      exact ⟨hb.trans hb'.symm, hf.trans hf'.symm⟩
    · push Not at hnone
      obtain ⟨before, after, hmarks⟩ := hnone
      obtain ⟨hb, hf⟩ := h.body_marked before after hmarks
      obtain ⟨hb', hf'⟩ := h'.body_marked before after hmarks
      exact ⟨hb.trans hb'.symm, hf.trans hf'.symm⟩
  cases content
  cases content'
  rw [EmailContent.mk.injEq]
  exact ⟨hsubject.1, hbody.1, hsubject.2, hbody.2⟩

/-- What is read from a reply is what a scan for the markers gives, for every text and default. -/
theorem ofReply_eq_iff_scanned (text fallback : String) (content : EmailContent) :
    EmailContent.ofReply (some text) fallback = content ↔ Scanned text fallback content := by
  constructor
  · rintro rfl
    exact scanned_ofReply text fallback
  · intro h
    exact (scanned_ofReply text fallback).unique h

/-- A marker that ends its line, or the reply, is none. -/
example : EmailContent.ofReply (some "Subject:\nSUBJECT: Hi \nBody:") "Care" =
    { subject := "Hi", body := "Subject:\nSUBJECT: Hi \nBody:"
      subjectFallback := false, bodyFallback := true } := by
  decide +kernel

end FlowBuilder
