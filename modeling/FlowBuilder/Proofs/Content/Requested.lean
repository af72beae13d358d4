import FlowBuilder.Proofs.Content.Markers

/-!
# Replies in the requested form

The prompt for an email asks for a subject line and a body, each behind its marker. A reply in this
form (`requestedReply`) is read back, unless its subject holds the marker of the body: the search
for the body does not know where the subject ends.

* `ofReply_requestedReply`: the subject is always read back, the body just if the subject does not
  hold its marker.
* `bodySubject_misread`: a subject that does.
-/

namespace FlowBuilder

/-- A reply in the form for which the prompt of an email asks. -/
def requestedReply (subject body : String) : String :=
  "SUBJECT: " ++ subject ++ "\n\nBODY:\n" ++ body

/-- What stands before the marker of the body in a requested reply. -/
def subjectLines (subject : List Char) : List Char :=
  "SUBJECT:".toList ++ ' ' :: (subject ++ ['\n', '\n'])

/-- The marker of the body, and the body behind it. -/
def bodyLines (body : List Char) : List Char :=
  "BODY:".toList ++ '\n' :: body

/-- A reply in the requested form consists of the lines of its subject and those of its body. -/
theorem toList_requestedReply (subject body : String) :
    (requestedReply subject body).toList =
      subjectLines subject.toList ++ bodyLines body.toList := by
  unfold subjectLines bodyLines
  simp [requestedReply]

section

variable {subject body : List Char}

/-! ### The subject -/

/-- The subject is what is left of the first line. -/
theorem subjectSection_requested (hne : subject ≠ []) (hline : '\n' ∉ subject)
    (htrimmed : Text.IsTrimmed subject) (rest : List Char) :
    subjectSection (subjectLines subject ++ rest) = subject := by
  have hmarks : Marks "SUBJECT:".toList (subjectLines subject ++ rest) []
      (' ' :: (subject ++ '\n' :: '\n' :: rest)) := by
    refine ⟨"SUBJECT:".toList, ?_, rfl⟩
    unfold subjectLines
    simp
  have hwhole :
      (' ' :: (subject ++ '\n' :: '\n' :: rest)).takeWhile (· ≠ '\n') = ' ' :: subject := by
    have hpass : ∀ c ∈ ' ' :: subject, decide (c ≠ '\n') = true := by
      intro c hc
      rcases List.mem_cons.1 hc with rfl | hc
      · rfl
      · exact decide_eq_true fun h => hline (h ▸ hc)
    rw [← List.cons_append, List.takeWhile_append_of_pos hpass]
    simp
  -- the marker stands at the very start, so no earlier one is to be passed over
  have hfirst : FirstMarked "SUBJECT:".toList (fun r => r.takeWhile (· ≠ '\n') ≠ [])
      (subjectLines subject ++ rest) [] (' ' :: (subject ++ '\n' :: '\n' :: rest)) := by
    refine ⟨hmarks, ?_, nofun⟩
    rw [hwhole]
    exact List.cons_ne_nil _ _
  rw [subjectSection_of_firstMarked hfirst, hwhole]
  exact Text.trim_append htrimmed hne [' ']

/-! ### The body -/

/-- The lines of a body have its marker in front. -/
theorem marks_bodyLines (front body : List Char) :
    Marks "BODY:".toList (front ++ bodyLines body) front ('\n' :: body) :=
  ⟨"BODY:".toList, rfl, rfl⟩

/-- A marker of the body that stands before the body stands in the subject. -/
theorem holdsMarker_of_marks {rest before after : List Char}
    (h : Marks "BODY:".toList (subjectLines subject ++ rest) before after)
    (hbefore : before.length < (subjectLines subject).length) :
    HoldsMarker "BODY:".toList subject := by
  have hmarker : "BODY:".toList ≠ [] := List.cons_ne_nil _ _
  -- no marker holds the blank before the subject or a newline after it
  have hlines : subjectLines subject ++ rest =
      ("SUBJECT:".toList ++ ' ' :: (subject ++ ['\n'])) ++ '\n' :: rest := by
    unfold subjectLines
    simp
  have hlength : (subjectLines subject).length =
      ("SUBJECT:".toList ++ ' ' :: (subject ++ ['\n'])).length + 1 := by
    unfold subjectLines
    simp
  rw [hlines] at h
  obtain ⟨after', h⟩ := h.of_append_cons hmarker (by decide) (by omega)
  rcases (holdsMarker_append_cons_iff hmarker (by decide)).1 ⟨before, after', h⟩ with hfront | hrest
  · exact absurd hfront (by decide)
  · rcases (holdsMarker_append_cons_iff hmarker (by decide)).1 hrest with hsubject | hnil
    · exact hsubject
    · exact absurd hnil (by decide)

/-- Where the subject does not hold the marker of the body, the body is read back. -/
theorem bodySection?_requested (hne : body ≠ []) (htrimmed : Text.IsTrimmed body)
    (h : ¬ HoldsMarker "BODY:".toList subject) :
    bodySection? (subjectLines subject ++ bodyLines body) = some body := by
  refine bodySection?_eq_some_iff.2 ⟨_, _, ⟨marks_bodyLines _ body, List.cons_ne_nil _ _, ?_⟩, ?_⟩
  · intro before after hmarks hbefore
    exact absurd (holdsMarker_of_marks hmarks hbefore) h
  · exact Text.trim_append htrimmed hne ['\n']

/-- The lines of a trimmed body are trimmed. -/
theorem isTrimmed_bodyLines (hne : body ≠ []) (htrimmed : Text.IsTrimmed body) :
    Text.IsTrimmed (bodyLines body) := by
  constructor
  · rintro c ⟨⟩
    decide
  · intro c hc
    have hlast : (bodyLines body).getLast? = body.getLast? := by
      rw [bodyLines, List.getLast?_append_of_ne_nil _ (List.cons_ne_nil _ _)]
      exact List.getLast?_append_of_ne_nil ['\n'] hne
    rw [hlast] at hc
    exact htrimmed.last c hc

/-- Where the subject holds the marker of the body, what is read as the body ends with the marker
and the body behind it. -/
theorem exists_bodySection?_of_holdsMarker (hne : body ≠ []) (htrimmed : Text.IsTrimmed body)
    (h : HoldsMarker "BODY:".toList subject) :
    ∃ front, bodySection? (subjectLines subject ++ bodyLines body) =
      some (front ++ bodyLines body) := by
  obtain ⟨x, y, h⟩ := h
  -- the marker in the subject, as it stands in the reply
  have hsubject : Marks "BODY:".toList (subjectLines subject ++ bodyLines body)
      ("SUBJECT:".toList ++ ' ' :: x) (y ++ '\n' :: '\n' :: bodyLines body) := by
    obtain ⟨spelled, rfl, hspelled⟩ := h
    refine ⟨spelled, ?_, hspelled⟩
    unfold subjectLines
    simp
  obtain ⟨before, after, hfirst⟩ := hsubject.exists_firstMarked (· ≠ []) (by simp)
  have hplace : before.length ≤ ("SUBJECT:".toList ++ ' ' :: x).length :=
    not_lt.1 fun hlt => hfirst.first _ _ hsubject hlt (by simp)
  have hlength : (bodyLines body).length ≤ after.length := by
    have heq := hfirst.marks.length_eq.symm.trans hsubject.length_eq
    simp only [List.length_append, List.length_cons] at heq hplace ⊢
    omega
  obtain ⟨front, rfl⟩ := List.suffix_of_suffix_length_le (List.suffix_append _ _)
    hfirst.marks.after_suffix hlength
  refine ⟨front.dropWhile Text.isBlank, bodySection?_eq_some_iff.2 ⟨_, _, hfirst, ?_⟩⟩
  exact Text.trim_append (isTrimmed_bodyLines hne htrimmed) (List.cons_ne_nil _ _) front

end

/-- A subject and a body that can be told apart from what stands around them. -/
structure FillsForm (subject body : String) : Prop where
  /-- There is a subject. -/
  subject_ne : subject ≠ ""
  /-- It is one line. -/
  subject_line : '\n' ∉ subject.toList
  /-- It has no blanks around it. -/
  subject_trimmed : Text.IsTrimmed subject.toList
  /-- There is a body. -/
  body_ne : body ≠ ""
  /-- It has no blanks around it. -/
  body_trimmed : Text.IsTrimmed body.toList

/-- A reply in the requested form is read without a default. The subject is read back, and so is the
body, just if the marker of the body does not stand in the subject. -/
theorem ofReply_requestedReply {subject body : String} (h : FillsForm subject body)
    (fallback : String) :
    ∃ read, EmailContent.ofReply (some (requestedReply subject body)) fallback =
        { subject, body := read, subjectFallback := false, bodyFallback := false } ∧
      (read = body ↔ ¬ HoldsMarker "BODY:".toList subject.toList) := by
  have hsubject : subject.toList ≠ [] := fun hnil => h.subject_ne (String.toList_eq_nil_iff.1 hnil)
  have hbody : body.toList ≠ [] := fun hnil => h.body_ne (String.toList_eq_nil_iff.1 hnil)
  have hsubjectRead := subjectSection_requested hsubject h.subject_line h.subject_trimmed
    (bodyLines body.toList)
  obtain ⟨read, hbodyRead, hiff⟩ : ∃ read,
      bodySection? (subjectLines subject.toList ++ bodyLines body.toList) = some read ∧
        (read = body.toList ↔ ¬ HoldsMarker "BODY:".toList subject.toList) := by
    by_cases hholds : HoldsMarker "BODY:".toList subject.toList
    · obtain ⟨front, hread⟩ := exists_bodySection?_of_holdsMarker hbody h.body_trimmed hholds
      refine ⟨_, hread, fun heq => ?_, fun hnot => absurd hholds hnot⟩
      -- it is longer than the body
      have hlength := congrArg List.length heq
      unfold bodyLines at hlength
      simp only [List.length_append, List.length_cons] at hlength
      omega
    · exact ⟨_, bodySection?_requested hbody h.body_trimmed hholds, fun _ => hholds, fun _ => rfl⟩
  refine ⟨String.ofList read, ?_, ?_⟩
  · simp [EmailContent.ofReply, toList_requestedReply, hsubjectRead, hbodyRead, hsubject]
  · rw [← hiff]
    constructor
    · rintro rfl
      exact String.toList_ofList.symm
    · rintro rfl
      exact String.ofList_toList

/-- Markers in the body, and those of the subject, do no harm. -/
theorem quotedMarkers_readBack :
    FillsForm "Re: SUBJECT: your order" "<p>Body: see below</p>\nBODY:" ∧
      EmailContent.ofReply
          (some (requestedReply "Re: SUBJECT: your order" "<p>Body: see below</p>\nBODY:"))
          "Hello" =
        { subject := "Re: SUBJECT: your order", body := "<p>Body: see below</p>\nBODY:"
          subjectFallback := false, bodyFallback := false } := by
  have hform : FillsForm "Re: SUBJECT: your order" "<p>Body: see below</p>\nBODY:" :=
    ⟨by decide, by decide, Text.trim_eq_self_iff.1 (by decide +kernel), by decide,
      Text.trim_eq_self_iff.1 (by decide +kernel)⟩
  obtain ⟨read, hread, hiff⟩ := ofReply_requestedReply hform "Hello"
  refine ⟨hform, ?_⟩
  rw [hread, hiff.2 (by decide)]

/-- With the marker of the body in its subject, a reply in the requested form is not read back: the
body starts within the subject. -/
theorem bodySubject_misread :
    FillsForm "Full-body: new care" "<p>Hello</p>" ∧
      EmailContent.ofReply (some (requestedReply "Full-body: new care" "<p>Hello</p>")) "Care" =
        { subject := "Full-body: new care", body := "new care\n\nBODY:\n<p>Hello</p>"
          subjectFallback := false, bodyFallback := false } ∧
      "new care\n\nBODY:\n<p>Hello</p>" ≠ "<p>Hello</p>" := by
  refine ⟨⟨by decide, by decide, ?_, by decide, ?_⟩, by decide +kernel, by decide⟩
  · exact Text.trim_eq_self_iff.1 (by decide +kernel)
  · exact Text.trim_eq_self_iff.1 (by decide +kernel)

end FlowBuilder
