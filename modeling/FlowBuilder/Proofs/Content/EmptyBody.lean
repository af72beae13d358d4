import FlowBuilder.Proofs.Content.Scan

/-!
# Empty bodies

A reply without a body section is taken for the body as a whole, and the content says so
(`EmailContent.TellsBody`). A section that is there, but blank, is no such case for the search:
where blanks alone stand behind the marker (`LeavesBodyBlank`), the body is empty, and the content
tells nothing of it. A blank subject, in contrast, is always told.

* `ofReply_tellsBody_iff`: the replies whose body is told, and what becomes of the others.
* `blankBody_untold`: a reply whose body gets lost.
-/

namespace FlowBuilder

/-- A text is not blank. -/
def HoldsText (text : String) : Prop :=
  ∃ c ∈ text.toList, Text.isBlank c = false

/-- The content of a reply has a body. Where no section of the reply gives one, as there is none or
it is blank, the body is the whole reply, and the content says so. -/
structure EmailContent.TellsBody (text : String) (content : EmailContent) : Prop where
  /-- There is a body. -/
  body_ne : content.body ≠ ""
  /-- The whole reply stands in for a section that is missing or blank. -/
  default : (∀ before after, MarksBody text.toList before after → Text.trim after = []) →
    content.body = Text.strip text ∧ content.bodyFallback = true

/-- Blanks alone stand behind the marker of the body. -/
def LeavesBodyBlank (text : List Char) : Prop :=
  ∃ before after, MarksBody text before after ∧ ∀ c ∈ after, Text.isBlank c = true

/-- Blanks alone stand behind the marker just if the section is found, and is empty. -/
theorem leavesBodyBlank_iff {text : List Char} :
    LeavesBodyBlank text ↔ bodySection? text = some [] := by
  simp only [bodySection?_eq_some_iff, Text.trim_eq_nil_iff]
  exact Iff.rfl

instance (text : List Char) : Decidable (LeavesBodyBlank text) :=
  decidable_of_iff _ leavesBodyBlank_iff.symm

/-- A text that is not blank has something left without the blanks around it. -/
theorem strip_ne_empty_iff {text : String} : Text.strip text ≠ "" ↔ HoldsText text := by
  rw [Text.strip, ne_eq, ← String.toList_eq_nil_iff, String.toList_ofList, Text.trim_eq_nil_iff]
  simp [HoldsText]

variable {text fallback : String} {content : EmailContent}

/-- Where blanks alone stand behind the marker, the body is empty, as if it had been found. -/
theorem Scanned.body_of_leavesBodyBlank (h : Scanned text fallback content)
    (hblank : LeavesBodyBlank text.toList) : content.body = "" ∧ content.bodyFallback = false := by
  obtain ⟨before, after, hmarks, hafter⟩ := hblank
  obtain ⟨hbody, hfallback⟩ := h.body_marked before after hmarks
  rw [Text.trim_eq_nil_iff.2 hafter] at hbody
  exact ⟨hbody, hfallback⟩

/-- Everywhere else the body is told. -/
theorem Scanned.tellsBody (h : Scanned text fallback content) (htext : HoldsText text)
    (hblank : ¬ LeavesBodyBlank text.toList) : content.TellsBody text := by
  by_cases hmarked : ∃ before after, MarksBody text.toList before after
  · obtain ⟨before, after, hmarks⟩ := hmarked
    -- behind the marker there is a body
    have hne : Text.trim after ≠ [] := fun hnil =>
      hblank ⟨before, after, hmarks, Text.trim_eq_nil_iff.1 hnil⟩
    refine ⟨?_, fun hall => absurd (hall before after hmarks) hne⟩
    rw [(h.body_marked before after hmarks).1, ne_eq, ← String.toList_eq_nil_iff,
      String.toList_ofList]
    exact hne
  · obtain ⟨hbody, hfallback⟩ := h.body_unmarked fun before after hmarks =>
      hmarked ⟨before, after, hmarks⟩
    refine ⟨?_, fun _ => ⟨hbody, hfallback⟩⟩
    rw [hbody]
    exact strip_ne_empty_iff.2 htext

/-- An empty subject is always told: it is the default, which is empty itself. -/
theorem Scanned.subject_of_empty (h : Scanned text fallback content)
    (hempty : content.subject = "") : content.subjectFallback = true ∧ fallback = "" := by
  by_cases hblank : ∀ before after, MarksSubject text.toList before after →
      Text.trim (firstLine after) = []
  · obtain ⟨hsubject, hfallback⟩ := h.subject_unmarked hblank
    exact ⟨hfallback, hsubject.symm.trans hempty⟩
  · push Not at hblank
    obtain ⟨before, after, hmarks, hne⟩ := hblank
    rw [(h.subject_marked before after hmarks hne).1, ← String.toList_eq_nil_iff,
      String.toList_ofList] at hempty
    exact absurd hempty hne

/-- The body of a reply that holds any text is told, unless blanks alone stand behind its marker;
there the body is empty, and told to be found. An empty subject, whatever the reply is, is told to
be a default. -/
theorem ofReply_tellsBody_iff {text : String} (htext : HoldsText text) (fallback : String) :
    ((EmailContent.ofReply (some text) fallback).TellsBody text ↔ ¬ LeavesBodyBlank text.toList) ∧
    (LeavesBodyBlank text.toList →
      (EmailContent.ofReply (some text) fallback).body = "" ∧
        (EmailContent.ofReply (some text) fallback).bodyFallback = false) ∧
    ((EmailContent.ofReply (some text) fallback).subject = "" →
      (EmailContent.ofReply (some text) fallback).subjectFallback = true ∧ fallback = "") := by
  have hscan := scanned_ofReply text fallback
  refine ⟨⟨fun htells hblank => ?_, hscan.tellsBody htext⟩, hscan.body_of_leavesBodyBlank,
    hscan.subject_of_empty⟩
  exact htells.body_ne (hscan.body_of_leavesBodyBlank hblank).1

/-- A line break behind the marker does no harm, if a body follows. -/
theorem tellsBody_greetingText :
    HoldsText "SUBJECT: Hi\n\nBODY:\n\n<p>Hello</p>\n" ∧
      (EmailContent.ofReply (some "SUBJECT: Hi\n\nBODY:\n\n<p>Hello</p>\n") "Care").TellsBody
        "SUBJECT: Hi\n\nBODY:\n\n<p>Hello</p>\n" := by
  have htext : HoldsText "SUBJECT: Hi\n\nBODY:\n\n<p>Hello</p>\n" := ⟨'S', by decide, by decide⟩
  exact ⟨htext, (ofReply_tellsBody_iff htext "Care").1.2 (by decide +kernel)⟩

/-- A reply that breaks off behind the marker of its body gets an empty body, which is told to be
found. -/
theorem blankBody_untold :
    HoldsText "SUBJECT: Hi\n\nBODY:\n" ∧
      ¬ (EmailContent.ofReply (some "SUBJECT: Hi\n\nBODY:\n") "Care").TellsBody
        "SUBJECT: Hi\n\nBODY:\n" ∧
      (EmailContent.ofReply (some "SUBJECT: Hi\n\nBODY:\n") "Care").bodyFallback = false := by
  refine ⟨⟨'S', by decide, by decide⟩, fun htells => ?_, by decide +kernel⟩
  exact htells.body_ne (by decide +kernel)

end FlowBuilder
