/-!
# Parts of texts

Whether one text stands somewhere within another (`holds_iff`), and the parts into which characters
split a text (`splitFirst?_eq_some_iff`, `splitLast?_eq_some_iff`, `splitAll_eq_splitOnP`,
`eq_false_of_mem_splitAll`).
-/

namespace FlowBuilder.Text

/-- Whether a text has a part. -/
def holds (part : List Char) : List Char → Bool
  | [] => part.isEmpty
  | c :: r => part.isPrefixOf (c :: r) || holds part r

/-- A text holds just its infixes. -/
theorem holds_iff {part cs : List Char} : holds part cs = true ↔ part <:+: cs := by
  induction cs with
  | nil => simp [holds]
  | cons c r ih => simp [holds, ih, List.infix_cons_iff]

/-- The parts of a text before and after the first occurrence of a character. -/
def splitFirst? (c : Char) (cs : List Char) : Option (List Char × List Char) :=
  match cs.dropWhile (· ≠ c) with
  | [] => none
  | _ :: r => some (cs.takeWhile (· ≠ c), r)

/-- The parts of a text before and after the last occurrence of a character. -/
def splitLast? (c : Char) (cs : List Char) : Option (List Char × List Char) :=
  (splitFirst? c cs.reverse).map fun (after, before) => (before.reverse, after.reverse)

/-- The parts of a text and the character between them make up the text. -/
theorem splitFirst?_eq_some {c : Char} {cs before after : List Char}
    (h : splitFirst? c cs = some (before, after)) : cs = before ++ c :: after := by
  unfold splitFirst? at h
  split at h
  · cases h
  · next d r hd =>
    obtain ⟨rfl, rfl⟩ : cs.takeWhile (· ≠ c) = before ∧ r = after := by simpa using h
    have hc : d = c := by
      have := List.head?_dropWhile_not (· ≠ c) cs
      rw [hd] at this
      simpa using this
    rw [← hc, ← hd, hc, List.takeWhile_append_dropWhile]

/-- A text is split at the character just where its first part lacks it. -/
theorem splitFirst?_eq_some_iff {c : Char} {cs before after : List Char} :
    splitFirst? c cs = some (before, after) ↔ cs = before ++ c :: after ∧ c ∉ before := by
  constructor
  · intro h
    refine ⟨splitFirst?_eq_some h, fun hmem => ?_⟩
    unfold splitFirst? at h
    split at h
    · cases h
    · cases h
      simpa using List.all_eq_true.1 (List.all_takeWhile) c hmem
  · rintro ⟨rfl, hmem⟩
    have hbefore : ∀ a ∈ before, decide (a ≠ c) = true := by
      intro a ha
      exact decide_eq_true fun h => hmem (h ▸ ha)
    unfold splitFirst?
    rw [List.dropWhile_append_of_pos hbefore, List.takeWhile_append_of_pos hbefore]
    simp

/-- A text is split at the last such character just where its second part lacks it. -/
theorem splitLast?_eq_some_iff {c : Char} {cs before after : List Char} :
    splitLast? c cs = some (before, after) ↔ cs = before ++ c :: after ∧ c ∉ after := by
  have hreverse : splitLast? c cs = some (before, after) ↔
      splitFirst? c cs.reverse = some (after.reverse, before.reverse) := by
    unfold splitLast?
    rw [Option.map_eq_some_iff]
    constructor
    · rintro ⟨⟨after', before'⟩, h, heq⟩
      cases heq
      rw [h, List.reverse_reverse, List.reverse_reverse]
    · intro h
      exact ⟨_, h, by simp⟩
  rw [hreverse, splitFirst?_eq_some_iff, List.reverse_eq_iff, List.mem_reverse]
  simp

/-- The parts of a text between the characters of a class. -/
def splitAll (p : Char → Bool) : List Char → List (List Char)
  | [] => [[]]
  | c :: r =>
    if p c then [] :: splitAll p r
    else match splitAll p r with
      | [] => [[c]]
      | part :: parts => (c :: part) :: parts

/-- A text has at least one part. -/
theorem splitAll_ne_nil (p : Char → Bool) (cs : List Char) : splitAll p cs ≠ [] := by
  unfold splitAll
  split
  · simp
  · split
    · simp
    · split <;> simp

/-- These are the parts that core's `List.splitOnP` gives. -/
theorem splitAll_eq_splitOnP (p : Char → Bool) (cs : List Char) :
    splitAll p cs = cs.splitOnP p := by
  induction cs with
  | nil => rfl
  | cons c r ih =>
    rw [splitAll, List.splitOnP_cons_eq_if_modifyHead, ih]
    split
    · rfl
    · split
      · next h => exact absurd h (List.splitOnP_ne_nil p r)
      · next h => rw [h]; rfl

/-- No part has a character of the class. -/
theorem eq_false_of_mem_splitAll {p : Char → Bool} {cs part : List Char} {c : Char}
    (hpart : part ∈ splitAll p cs) (hc : c ∈ part) : p c = false := by
  induction cs generalizing part with
  | nil => simp [splitAll] at hpart; simp [hpart] at hc
  | cons d r ih =>
    unfold splitAll at hpart
    split at hpart
    · rcases List.mem_cons.1 hpart with rfl | hpart
      · simp at hc
      · exact ih hpart hc
    · next hd =>
      split at hpart
      · next h => exact absurd h (splitAll_ne_nil p r)
      · next first parts h =>
        rcases List.mem_cons.1 hpart with rfl | hpart
        · rcases List.mem_cons.1 hc with rfl | hc
          · simpa using hd
          · exact ih (h ▸ List.mem_cons_self) hc
        · exact ih (h ▸ List.mem_cons_of_mem _ hpart) hc

end FlowBuilder.Text
