import Mathlib.Data.List.DropRight
import FlowBuilder.Text.Blank

/-!
# Trimmed texts

Trimming is a projection onto the texts that neither start nor end with a blank (`Text.IsTrimmed`):
it gives such a text (`isTrimmed_trim`), and keeps just these (`trim_eq_self_iff`). What it takes
away are blanks (`exists_eq_append_trim`), and more of them around a text make no difference
(`trim_between`). At the end of a longer text such a text is kept with what stands before it
(`trim_append`).
-/

namespace FlowBuilder

theorem toNat_of_isDigit {c : Char} (h : c.isDigit) : 48 ≤ c.toNat ∧ c.toNat ≤ 57 := by
  simpa [Char.isDigit, UInt32.le_iff_toNat_le] using h

/-- No digit is blank. -/
theorem isBlank_of_isDigit {c : Char} (h : c.isDigit) : Text.isBlank c = false := by
  obtain ⟨hlow, hhigh⟩ := toNat_of_isDigit h
  simp [Text.isBlank, Text.isSpace]
  omega

/-- No blank is a digit. -/
theorem isDigit_of_isBlank {c : Char} (h : Text.isBlank c = true) : c.isDigit = false := by
  cases hdigit : c.isDigit with
  | false => rfl
  | true => rw [isBlank_of_isDigit hdigit] at h; cases h

namespace Text

/-- A text that neither starts nor ends with a blank. -/
structure IsTrimmed (cs : List Char) : Prop where
  /-- It does not start with a blank. -/
  head : ∀ c ∈ cs.head?, isBlank c = false
  /-- It does not end with one. -/
  last : ∀ c ∈ cs.getLast?, isBlank c = false

theorem trim_eq_rdropWhile (cs : List Char) :
    trim cs = (cs.dropWhile isBlank).rdropWhile isBlank := rfl

/-- A text has no blanks around it when it is trimmed. -/
theorem isTrimmed_trim (cs : List Char) : IsTrimmed (trim cs) := by
  rw [trim_eq_rdropWhile]
  constructor
  · intro c hc
    -- what is left starts as the text did behind its blanks
    have hprefix := List.rdropWhile_prefix isBlank (l := cs.dropWhile isBlank)
    have hhead : c ∈ (cs.dropWhile isBlank).head? := by
      obtain ⟨r, hr⟩ := List.head?_eq_some_iff.1 hc
      obtain ⟨s, hs⟩ := hprefix
      rw [← hs, hr]
      rfl
    have hnot := List.head?_dropWhile_not isBlank cs
    rw [hhead] at hnot
    simpa using hnot
  · intro c hc
    obtain ⟨hne, rfl⟩ := List.mem_getLast?_eq_getLast hc
    simpa using List.rdropWhile_last_not isBlank (cs.dropWhile isBlank) hne

/-- Trimming takes blanks away at both ends, and nothing else. -/
theorem exists_eq_append_trim (cs : List Char) : ∃ front back, cs = front ++ trim cs ++ back ∧
    (∀ c ∈ front, isBlank c = true) ∧ ∀ c ∈ back, isBlank c = true := by
  refine ⟨cs.takeWhile isBlank, (cs.dropWhile isBlank).rtakeWhile isBlank, ?_,
    fun _ => List.mem_takeWhile_imp, fun _ => List.mem_rtakeWhile_imp⟩
  rw [trim_eq_rdropWhile, List.append_assoc, List.rdropWhile_append_rtakeWhile,
    List.takeWhile_append_dropWhile]

/-- A trimmed text has no blanks in front. -/
theorem IsTrimmed.dropWhile_eq {cs : List Char} (h : IsTrimmed cs) :
    cs.dropWhile isBlank = cs := by
  cases cs with
  | nil => rfl
  | cons c r =>
    rw [List.dropWhile_cons, h.head c rfl]
    rfl

/-- At the end of a longer text a trimmed text is kept, and what stands before it loses only the
blanks in front. -/
theorem trim_append {cs : List Char} (h : IsTrimmed cs) (hne : cs ≠ []) (front : List Char) :
    trim (front ++ cs) = front.dropWhile isBlank ++ cs := by
  have hfront : (front ++ cs).dropWhile isBlank = front.dropWhile isBlank ++ cs := by
    rw [List.dropWhile_append]
    split
    · next hblank => rw [List.isEmpty_iff.1 hblank, h.dropWhile_eq, List.nil_append]
    · rfl
  rw [trim_eq_rdropWhile, hfront, List.rdropWhile_eq_self_iff]
  intro hall
  rw [List.getLast_append_of_ne_nil hall hne,
    h.last _ (List.getLast?_eq_getLast_of_ne_nil hne)]
  exact Bool.false_ne_true

/-- Just the trimmed texts stay as they are. -/
theorem trim_eq_self_iff {cs : List Char} : trim cs = cs ↔ IsTrimmed cs := by
  refine ⟨fun h => h ▸ isTrimmed_trim cs, fun h => ?_⟩
  by_cases hne : cs = []
  · subst hne
    rfl
  · exact trim_append h hne []

/-- Blanks around a text are trimmed with its own. -/
theorem trim_between {front back : List Char} (hfront : ∀ c ∈ front, isBlank c = true)
    (hback : ∀ c ∈ back, isBlank c = true) (cs : List Char) :
    trim (front ++ (cs ++ back)) = trim cs := by
  have hreverse : ∀ c ∈ back.reverse, isBlank c = true :=
    fun c hc => hback c (List.mem_reverse.1 hc)
  rw [trim_eq_rdropWhile, trim_eq_rdropWhile, List.dropWhile_append_of_pos hfront,
    List.dropWhile_append]
  split
  · next hnil => rw [List.isEmpty_iff.1 hnil, List.dropWhile_eq_nil_iff.2 hback]
  · rw [List.rdropWhile, List.reverse_append, List.dropWhile_append_of_pos hreverse,
      List.rdropWhile]

/-- Trimming twice with a narrower class of blanks first is trimming. -/
theorem trim_dropWhile {p : Char → Bool} (hp : ∀ c, p c = true → isBlank c = true)
    (cs : List Char) : trim (cs.dropWhile p) = trim cs := by
  induction cs with
  | nil => rfl
  | cons c r ih =>
    rw [List.dropWhile_cons]
    split
    · next hc =>
      rw [ih, trim_eq_rdropWhile, trim_eq_rdropWhile, List.dropWhile_cons_of_pos (hp c hc)]
    · rfl

/-- Of blanks alone nothing is left. -/
theorem trim_eq_nil_of_forall {cs : List Char} (h : ∀ c ∈ cs, isBlank c = true) :
    trim cs = [] := by
  rw [trim_eq_rdropWhile, List.dropWhile_eq_nil_iff.2 h, List.rdropWhile_nil]

/-- Of blanks alone, and of no other text, nothing is left. -/
theorem trim_eq_nil_iff {cs : List Char} : trim cs = [] ↔ ∀ c ∈ cs, isBlank c = true := by
  refine ⟨fun h => ?_, trim_eq_nil_of_forall⟩
  have hrest : ∀ c ∈ cs.dropWhile isBlank, isBlank c = true := by
    rwa [trim_eq_rdropWhile, List.rdropWhile_eq_nil_iff] at h
  refine List.dropWhile_eq_nil_iff.1 ?_
  match hdrop : cs.dropWhile isBlank with
  | [] => rfl
  | c :: r =>
    -- what follows the blanks in front starts with none
    have hhead := List.head?_dropWhile_not isBlank cs
    rw [hdrop] at hrest hhead
    exact absurd (hrest c List.mem_cons_self) (by simpa using hhead)

/-- That a text has no blanks, found by looking at its characters. -/
theorem isBlank_of_mem {cs : List Char} (h : cs.any isBlank = false) :
    ∀ c ∈ cs, isBlank c = false := by
  intro c hc
  simpa using List.any_eq_false.1 h c hc

/-- A text without blanks is trimmed. -/
theorem isTrimmed_of_forall {cs : List Char} (h : ∀ c ∈ cs, isBlank c = false) : IsTrimmed cs :=
  ⟨fun c hc => h c (List.mem_of_mem_head? hc), fun c hc => h c (List.mem_of_mem_getLast? hc)⟩

/-- A text between two characters that are no blanks is trimmed. -/
theorem isTrimmed_enclosed {a b : Char} (ha : isBlank a = false) (hb : isBlank b = false)
    (cs : List Char) : IsTrimmed (a :: cs ++ [b]) := by
  constructor
  · rintro c ⟨⟩
    exact ha
  · rw [List.getLast?_concat]
    rintro c ⟨⟩
    exact hb

end Text

end FlowBuilder
