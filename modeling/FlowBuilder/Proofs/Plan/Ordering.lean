import FlowBuilder.Proofs.Plan.Unreadable
import FlowBuilder.Proofs.Plan.Places
import Mathlib.Data.Fin.Tuple.Sort
import Mathlib.Data.Set.Card

/-!
# The order of emails

The emails of a plan are read from the entries of its list, in the order of the numbers by which the
entries count; those that count by one number stay in the order of the list (`IsOrdered`). An entry
that states no place counts by its position, but it does not always keep its position: an entry
ahead of it moves behind it by stating a later place, and one behind it moves ahead by an earlier
one.

* `ofJson_orders_entries`: the order of a plan's emails.
* `IsOrdered.symm_add_ncard_eq`: how far an entry that states no place moves.
* `keepsPosition_iff`: when it keeps its position.
-/

namespace FlowBuilder

variable {limits : DepthLimits}

/-- The emails of a plan as they are read from the entries of its list: `key` gives the number by
which an entry counts, and `order` the entry from which an email is read. -/
structure IsOrdered (limits : DepthLimits) (entries : List Json) (steps : List EmailStep)
    (key : Fin entries.length → Nat) (order : Equiv.Perm (Fin entries.length)) : Prop where
  /-- There are as many emails as entries. -/
  length_eq : steps.length = entries.length
  /-- The emails are numbered from one on. -/
  numbers : steps.map (·.sequence.val) = List.range' 1 entries.length
  /-- An entry counts by the place that it states, or by its position. -/
  counts : ∀ i : Fin entries.length, CountsAs (entries.get i) (i + 1) (key i)
  /-- Each email is read, field by field, from its entry. -/
  reads : ∀ k : Fin entries.length,
    ∃ step, steps[k.val]? = some step ∧
      EmailStep.ofEntry limits k (entries.get (order k)) = .ok step
  /-- The entries stand in the order of their numbers, and those with one number in the order of the
  list. -/
  sorted : StrictMono fun k => toLex (key (order k), order k)

/-! ### Sorting the entries -/

namespace PlacedEntry

/-- Entries are compared by their keys first, and by their positions then. -/
theorem le_iff {a b : PlacedEntry} :
    le a b = true ↔ toLex (a.key, a.position) ≤ toLex (b.key, b.position) := by
  rw [Prod.Lex.toLex_le_toLex]
  simp [le]

/-- The order of entries is transitive. -/
theorem le_trans (a b c : PlacedEntry) (hab : le a b = true) (hbc : le b c = true) :
    le a c = true := by
  rw [le_iff] at hab hbc ⊢
  exact hab.trans hbc

/-- Of two entries, one comes before the other. -/
theorem le_total (a b : PlacedEntry) : (le a b || le b a) = true := by
  rw [Bool.or_eq_true, le_iff, le_iff]
  exact LinearOrder.le_total _ _

end PlacedEntry

/-- The entry number `i` of a list, with its key. -/
def placedAt (entries : List Json) (key : Fin entries.length → Nat) (i : Fin entries.length) :
    PlacedEntry :=
  ⟨key i, i + 1, entries.get i⟩

/-- Sorting by keys orders positions strictly, by their keys first. -/
theorem strictMono_sort {n : Nat} (key : Fin n → Nat) :
    StrictMono fun k => toLex (key (Tuple.sort key k), Tuple.sort key k) :=
  fun _ _ hlt => Tuple.eq_sort_iff'.1 rfl hlt

/-- Sorting the entries puts them in the order of their keys. -/
theorem mergeSort_ofFn_placedAt (entries : List Json) (key : Fin entries.length → Nat) :
    (List.ofFn (placedAt entries key)).mergeSort PlacedEntry.le =
      List.ofFn (placedAt entries key ∘ Tuple.sort key) := by
  have hperm := (List.mergeSort_perm (List.ofFn (placedAt entries key)) PlacedEntry.le).trans
    (Equiv.Perm.ofFn_comp_perm (Tuple.sort key) (placedAt entries key)).symm
  have hsorted := List.pairwise_mergeSort PlacedEntry.le_trans PlacedEntry.le_total
    (List.ofFn (placedAt entries key))
  refine List.Perm.eq_of_pairwise ?_ hsorted ?_ hperm
  · -- two entries that go before each other have one position
    intro a b ha hb hab hba
    obtain ⟨i, rfl⟩ := List.mem_ofFn.1 (List.mem_mergeSort.1 ha)
    obtain ⟨j, rfl⟩ := List.mem_ofFn.1 hb
    rw [PlacedEntry.le_iff] at hab hba
    have hposition := congrArg (fun pair => (ofLex pair).2) (le_antisymm hab hba)
    have hij : i = Tuple.sort key j := Fin.ext (Nat.succ.inj hposition)
    rw [hij]
    rfl
  · rw [List.pairwise_ofFn]
    intro j k hjk
    rw [PlacedEntry.le_iff]
    have hlt := strictMono_sort key hjk
    rw [Prod.Lex.toLex_lt_toLex] at hlt
    rw [Prod.Lex.toLex_le_toLex]
    apply hlt.imp_right
    rintro ⟨hkey, hposition⟩
    exact ⟨hkey, Nat.succ_le_succ (Fin.le_def.1 hposition.le)⟩

/-- The order in which a plan takes the entries is that of their keys. -/
theorem exists_orderedEntries_eq {entries ordered : List Json}
    (h : orderedEntries entries = .ok ordered) :
    ∃ key : Fin entries.length → Nat,
      (∀ i : Fin entries.length, CountsAs (entries.get i) (i + 1) (key i)) ∧
      ordered = List.ofFn fun k => entries.get (Tuple.sort key k) := by
  obtain ⟨placed, hplaced, h⟩ := bind_eq_ok.1 h
  cases h
  obtain ⟨key, hcounts, rfl⟩ := exists_placedFrom_eq hplaced
  refine ⟨key, hcounts, ?_⟩
  show ((List.ofFn (placedAt entries key)).mergeSort PlacedEntry.le).map _ = _
  rw [mergeSort_ofFn_placedAt, List.map_ofFn]
  rfl

/-- Each email is read from the entry in its place. -/
theorem exists_getElem?_stepsFrom {n : Nat} {entries : List Json} {steps : List EmailStep}
    (h : stepsFrom limits n entries = .ok steps) (k : Nat) (hk : k < entries.length) :
    ∃ step, steps[k]? = some step ∧ EmailStep.ofEntry limits (n + k) entries[k] = .ok step := by
  induction entries generalizing n steps k with
  | nil => cases hk
  | cons entry r ih =>
    obtain ⟨step, rest, hstep, hrest, rfl⟩ := stepsFrom_cons_eq_ok h
    cases k with
    | zero => exact ⟨step, rfl, hstep⟩
    | succ k =>
      rw [show n + (k + 1) = n + 1 + k by omega]
      exact ih hrest k (Nat.lt_of_succ_lt_succ hk)

/-- The steps that are read are in order, for some keys. -/
theorem exists_isOrdered {entries : List Json} {steps : List EmailStep}
    (h : orderedSteps limits entries = .ok steps) :
    ∃ key order, IsOrdered limits entries steps key order := by
  have hlength := orderedSteps_length h
  have hnumbers := orderedSteps_numbered h
  obtain ⟨ordered, hordered, hsteps⟩ := orderedSteps_eq_ok h
  obtain ⟨key, hcounts, rfl⟩ := exists_orderedEntries_eq hordered
  refine ⟨key, Tuple.sort key, hlength, hlength ▸ hnumbers, hcounts, ?_, strictMono_sort key⟩
  intro k
  have hk : k.val < (List.ofFn fun k => entries.get (Tuple.sort key k)).length := by
    rw [List.length_ofFn]
    exact k.isLt
  obtain ⟨step, hstep, hread⟩ := exists_getElem?_stepsFrom hsteps k hk
  rw [Nat.zero_add, List.getElem_ofFn] at hread
  exact ⟨step, hstep, hread⟩

namespace IsOrdered

variable {entries : List Json} {steps : List EmailStep} {key : Fin entries.length → Nat}
  {order : Equiv.Perm (Fin entries.length)} (h : IsOrdered limits entries steps key order)

include h

/-- The key of an entry with a place is that place. -/
theorem key_eq_of_statesPlace {i : Fin entries.length} {place : Nat}
    (hplace : ((entries.get i).fieldD "sequence").StatesPlace place) : key i = place := by
  rcases h.counts i with hkey | ⟨hnone, -⟩
  · exact hkey.unique hplace
  · exact absurd hplace (hnone place)

/-- The key of an entry without a place is its number in the list. -/
theorem key_eq_of_unplaced {i : Fin entries.length}
    (hnone : ∀ n, ¬ ((entries.get i).fieldD "sequence").StatesPlace n) : key i = i + 1 := by
  rcases h.counts i with hkey | ⟨-, hkey⟩
  · exact absurd hkey (hnone _)
  · exact hkey

/-- Where two emails stand is decided by the numbers of their entries, and by the list if they have
one number. -/
theorem symm_lt_symm_iff (i j : Fin entries.length) :
    order.symm i < order.symm j ↔ toLex (key i, i) < toLex (key j, j) := by
  rw [← h.sorted.lt_iff_lt]
  simp only [Equiv.apply_symm_apply]

end IsOrdered

/-- The emails of a plan are its entries in order: none is lost or doubled, and two entries that
state places stand in the order of these, or in that of the list if they state one place. -/
theorem ofJson_orders_entries {raw : Json} {p : Plan} (h : Plan.ofJson limits raw = .ok p) :
    ∃ entries, raw.fieldD "emails" = .array entries ∧
      ∃ key order, IsOrdered limits entries p.emails key order ∧
        ∀ (i j : Fin entries.length) (a b : Nat),
          ((entries.get i).fieldD "sequence").StatesPlace a →
          ((entries.get j).fieldD "sequence").StatesPlace b →
          (order.symm i < order.symm j ↔ a < b ∨ a = b ∧ i < j) := by
  obtain ⟨⟨entries, hne⟩, hentries, -, -, -, hsteps, -⟩ := Plan.ofJson_eq_ok_iff.1 h
  obtain ⟨key, order, hordered⟩ := exists_isOrdered hsteps
  refine ⟨entries, (planEntries_eq_ok_iff.1 hentries).1, key, order, hordered, ?_⟩
  intro i j a b ha hb
  rw [hordered.symm_lt_symm_iff, Prod.Lex.toLex_lt_toLex, hordered.key_eq_of_statesPlace ha,
    hordered.key_eq_of_statesPlace hb]

/-- A plan that states nothing but its emails. -/
def emailsOnly (entries : List Json) : Json :=
  .obj [("emails", .array entries)]

/-- The emails of such a plan are read from its entries in their order. -/
theorem exists_ofJson_emailsOnly {entries ordered : List Json} {steps : List EmailStep}
    (hne : entries ≠ []) (hall : ∀ entry ∈ entries, entry.isObject)
    (hordered : orderedEntries entries = .ok ordered)
    (hread : stepsFrom limits 0 ordered = .ok steps) :
    ∃ p, Plan.ofJson limits (emailsOnly entries) = .ok p ∧ p.emails = steps := by
  have hsteps : orderedSteps limits entries = .ok steps := bind_eq_ok.2 ⟨ordered, hordered, hread⟩
  -- nothing else is stated, so every other field has its default
  let p : Plan := {
    flowType := .nurture
    flowName := FlowType.nurture.title ++ " Flow"
    description := ""
    triggerType := .manual
    targetAudience := ""
    emails := steps
    numbered := orderedSteps_numbered hsteps
    nonempty := orderedSteps_ne_nil hne hsteps }
  have hentries : planEntries limits (emailsOnly entries) = .ok ⟨entries, hne⟩ :=
    planEntries_eq_ok_iff.2 ⟨rfl, hall⟩
  exact ⟨p, Plan.ofJson_eq_ok_iff.2 ⟨_, hentries, rfl, rfl, rfl, hsteps, rfl, rfl⟩, rfl⟩

/-- An entry that states a subject, and perhaps other members. -/
def subjectEntry (subject : String) (members : List (String × Json)) : Json :=
  .obj (("subject", .text subject) :: members)

/-- Entries with places of several kinds: a text, none, a number, a value that is no place, and a
number that another entry states too. -/
def mixedEntries : List Json :=
  [subjectEntry "Third" [("sequence", .text " 3 ")], subjectEntry "Second" [],
    subjectEntry "First" [("sequence", .int 1)], subjectEntry "Last" [("sequence", .bool true)],
    subjectEntry "Fourth" [("sequence", .int 3)]]

/-- The entries that count by one number keep the order of the list. -/
theorem mixedEntries_ordered :
    ∃ p, Plan.ofJson .standard (emailsOnly mixedEntries) = .ok p ∧
      p.emails.map (·.subject) = ["First", "Second", "Third", "Fourth", "Last"] ∧
      ∃ key order, IsOrdered .standard mixedEntries p.emails key order := by
  have hsort : ∀ a b c d e : Json,
      (List.mergeSort [⟨3, 1, a⟩, ⟨2, 2, b⟩, ⟨1, 3, c⟩, ⟨4, 4, d⟩, ⟨3, 5, e⟩]
        PlacedEntry.le).map (·.entry) = [c, b, a, e, d] := by
    intro a b c d e
    simp [List.mergeSort, PlacedEntry.le]
  have hordered : orderedEntries mixedEntries = .ok _ := congrArg Except.ok (hsort _ _ _ _ _)
  obtain ⟨p, hp, hemails⟩ :=
    exists_ofJson_emailsOnly (List.cons_ne_nil _ _) (by decide) hordered rfl
  obtain ⟨entries, hentries, key, order, hinOrder, -⟩ := ofJson_orders_entries hp
  obtain rfl : mixedEntries = entries := Json.array.inj hentries
  exact ⟨p, hp, hemails ▸ rfl, key, order, hinOrder⟩

/-! ### Entries without a place -/

/-- The entries ahead of one that state a place behind its position. -/
def statedBehind (entries : List Json) (i : Fin entries.length) : Set (Fin entries.length) :=
  {j | j < i ∧ ∃ place, ((entries.get j).fieldD "sequence").StatesPlace place ∧ i + 1 < place}

/-- The entries behind one that state a place ahead of its position. -/
def statedAhead (entries : List Json) (i : Fin entries.length) : Set (Fin entries.length) :=
  {j | i < j ∧ ∃ place, ((entries.get j).fieldD "sequence").StatesPlace place ∧ place < i + 1}

namespace IsOrdered

variable {entries : List Json} {steps : List EmailStep} {key : Fin entries.length → Nat}
  {order : Equiv.Perm (Fin entries.length)} (h : IsOrdered limits entries steps key order)

include h

/-- The place of an email is the number of entries that go before its own. -/
theorem symm_eq_card (i : Fin entries.length) : (order.symm i).val =
    (Finset.univ.filter fun j => toLex (key j, j) < toLex (key i, i)).card := by
  rw [← Fin.card_Iio]
  apply Finset.card_equiv order
  intro k
  rw [Finset.mem_Iio, Finset.mem_filter, ← h.symm_lt_symm_iff, Equiv.symm_apply_apply]
  exact (and_iff_right (Finset.mem_univ _)).symm

/-- An entry whose key is such as its own number is not states a place that is. -/
theorem exists_statesPlace_iff {j : Fin entries.length} {P : Nat → Prop} (hP : ¬ P (j + 1)) :
    (∃ place, ((entries.get j).fieldD "sequence").StatesPlace place ∧ P place) ↔ P (key j) := by
  constructor
  · rintro ⟨place, hplace, hholds⟩
    rwa [h.key_eq_of_statesPlace hplace]
  · intro hholds
    rcases h.counts j with hplace | ⟨-, hkey⟩
    · exact ⟨_, hplace, hholds⟩
    · exact absurd (hkey ▸ hholds) hP

/-- An entry ahead that counts by more than a position states that place: without one, it would
count by less. -/
theorem mem_statedBehind_iff {i j : Fin entries.length} :
    j ∈ statedBehind entries i ↔ j < i ∧ i + 1 < key j := by
  apply and_congr_right
  intro hji
  apply h.exists_statesPlace_iff
  rw [Fin.lt_def] at hji
  omega

/-- The entries stated ahead of one stand behind it, with keys below its number. -/
theorem mem_statedAhead_iff {i j : Fin entries.length} :
    j ∈ statedAhead entries i ↔ i < j ∧ key j < i + 1 := by
  apply and_congr_right
  intro hij
  apply h.exists_statesPlace_iff (P := (· < i.val + 1))
  rw [Fin.lt_def] at hij
  omega

/-- An entry without a place moves back by one for each entry behind it that states a place ahead of
its position, and forward by one for each entry ahead of it that states a place behind it. -/
theorem symm_add_ncard_eq {i : Fin entries.length}
    (hnone : ∀ n, ¬ ((entries.get i).fieldD "sequence").StatesPlace n) :
    (order.symm i).val + (statedBehind entries i).ncard =
      i.val + (statedAhead entries i).ncard := by
  have hkey := h.key_eq_of_unplaced hnone
  let before := Finset.univ.filter fun j => toLex (key j, j) < toLex (key i, i)
  let behind := Finset.univ.filter fun j : Fin entries.length => j < i ∧ i.val + 1 < key j
  let ahead := Finset.univ.filter fun j : Fin entries.length => i < j ∧ key j < i.val + 1
  have hbehind : statedBehind entries i = behind := by
    ext j
    simp [behind, h.mem_statedBehind_iff]
  have hahead : statedAhead entries i = ahead := by
    ext j
    simp [ahead, h.mem_statedAhead_iff]
  have hdisjoint : Disjoint before behind := by
    rw [Finset.disjoint_left]
    intro j
    simp only [before, behind, Finset.mem_filter_univ, Prod.Lex.toLex_lt_toLex, hkey]
    omega
  have hdisjoint' : Disjoint (Finset.Iio i) ahead := by
    rw [Finset.disjoint_left]
    intro j
    simp only [ahead, Finset.mem_filter_univ, Finset.mem_Iio]
    omega
  -- both unions have the entries of smaller position, and those behind that count by less
  have hunion : before ∪ behind = Finset.Iio i ∪ ahead := by
    ext j
    have hself : j = i → key j = i + 1 := fun hji => hji ▸ hkey
    simp only [before, behind, ahead, Finset.mem_union, Finset.mem_filter_univ, Finset.mem_Iio,
      Prod.Lex.toLex_lt_toLex, hkey]
    omega
  calc (order.symm i).val + (statedBehind entries i).ncard
      = before.card + behind.card := by rw [h.symm_eq_card, hbehind, Set.ncard_coe_finset]
    _ = (Finset.Iio i).card + ahead.card := by
      rw [← Finset.card_union_of_disjoint hdisjoint, hunion,
        Finset.card_union_of_disjoint hdisjoint']
    _ = i.val + (statedAhead entries i).ncard := by
      rw [Fin.card_Iio, hahead, Set.ncard_coe_finset]

end IsOrdered

/-- An entry that states no place keeps its position among the emails just if as many entries behind
it state a place ahead of its position as entries ahead of it state a place behind it. -/
theorem keepsPosition_iff {raw : Json} {p : Plan} (h : Plan.ofJson limits raw = .ok p) :
    ∃ entries, raw.fieldD "emails" = .array entries ∧
      ∃ key order, IsOrdered limits entries p.emails key order ∧
        ∀ i : Fin entries.length, (∀ n, ¬ ((entries.get i).fieldD "sequence").StatesPlace n) →
          (order i = i ↔ (statedAhead entries i).ncard = (statedBehind entries i).ncard) := by
  obtain ⟨⟨entries, hne⟩, hentries, -, -, -, hsteps, -⟩ := Plan.ofJson_eq_ok_iff.1 h
  obtain ⟨key, order, hordered⟩ := exists_isOrdered hsteps
  refine ⟨entries, (planEntries_eq_ok_iff.1 hentries).1, key, order, hordered, ?_⟩
  intro i hnone
  have hmoves := hordered.symm_add_ncard_eq hnone
  rw [← Equiv.eq_symm_apply, Fin.ext_iff]
  -- the entry has moved by what came ahead of it less what went behind it
  constructor
  · intro hsame
    rw [← hsame] at hmoves
    exact (Nat.add_left_cancel hmoves).symm
  · intro hcount
    rw [hcount] at hmoves
    exact (Nat.add_right_cancel hmoves).symm

/-- Entries that state places on the other side of an entry that states none. -/
def crossedEntries : List Json :=
  [subjectEntry "Third" [("sequence", .int 5)], subjectEntry "Second" [],
    subjectEntry "First" [("sequence", .int 1)]]

/-- The entry between them keeps its position. -/
theorem crossedEntries_keepPosition :
    ∃ p, Plan.ofJson .standard (emailsOnly crossedEntries) = .ok p ∧
      p.emails.map (·.subject) = ["First", "Second", "Third"] ∧
      ∃ key order, IsOrdered .standard crossedEntries p.emails key order ∧
        order ⟨1, by decide⟩ = ⟨1, by decide⟩ := by
  have hsort : ∀ a b c : Json,
      (List.mergeSort [⟨5, 1, a⟩, ⟨2, 2, b⟩, ⟨1, 3, c⟩] PlacedEntry.le).map (·.entry) =
        [c, b, a] := by
    intro a b c
    simp [List.mergeSort, PlacedEntry.le]
  have hordered : orderedEntries crossedEntries = .ok _ := congrArg Except.ok (hsort _ _ _)
  obtain ⟨p, hp, hemails⟩ :=
    exists_ofJson_emailsOnly (List.cons_ne_nil _ _) (by decide) hordered rfl
  obtain ⟨entries, hentries, key, order, hinOrder, hkeeps⟩ := keepsPosition_iff hp
  obtain rfl : crossedEntries = entries := Json.array.inj hentries
  refine ⟨p, hp, hemails ▸ rfl, key, order, hinOrder, ?_⟩
  apply (hkeeps ⟨1, by decide⟩ Json.not_statesPlace_null).2
  -- of the entries behind it only the last is put ahead, and the first is put behind it
  have hahead : statedAhead crossedEntries ⟨1, by decide⟩ = {⟨2, by decide⟩} := by
    ext j
    constructor
    · rintro ⟨hlt, -⟩
      have hbound : j.val < 3 := j.isLt
      have hbehind : 1 < j.val := hlt
      exact Fin.ext (show j.val = 2 by omega)
    · rintro rfl
      exact ⟨by decide, 1, .int (le_refl 1), by decide⟩
  have hbehind : statedBehind crossedEntries ⟨1, by decide⟩ = {⟨0, by decide⟩} := by
    ext j
    constructor
    · rintro ⟨hlt, -⟩
      exact Fin.ext (Nat.lt_one_iff.1 hlt)
    · rintro rfl
      exact ⟨by decide, 5, .int (by decide), by decide⟩
  rw [hahead, hbehind, Set.ncard_singleton, Set.ncard_singleton]

/-- An entry that states a late place, and one that states none. -/
def jumpedEntries : List Json :=
  [subjectEntry "Later" [("sequence", .int 5)], subjectEntry "Second" []]

/-- The second entry states no place, and is the first of the emails. -/
theorem jumpedEntries_losePosition :
    (∀ n, ¬ (jumpedEntries[1].fieldD "sequence").StatesPlace n) ∧
      ∃ p, Plan.ofJson .standard (emailsOnly jumpedEntries) = .ok p ∧
        p.emails.map (·.subject) = ["Second", "Later"] ∧
        ∀ step, p.emails[1]? = some step →
          EmailStep.ofEntry .standard 1 jumpedEntries[1] ≠ .ok step := by
  have hsort : ∀ a b : Json,
      (List.mergeSort [⟨5, 1, a⟩, ⟨2, 2, b⟩] PlacedEntry.le).map (·.entry) = [b, a] := by
    intro a b
    simp [List.mergeSort, PlacedEntry.le]
  have hordered : orderedEntries jumpedEntries = .ok _ := congrArg Except.ok (hsort _ _)
  obtain ⟨p, hp, hemails⟩ :=
    exists_ofJson_emailsOnly (List.cons_ne_nil _ _) (by decide) hordered rfl
  refine ⟨Json.not_statesPlace_null, p, hp, hemails ▸ rfl, ?_⟩
  intro step hstep hread
  rw [hemails] at hstep
  cases hstep
  -- the two steps differ in their subjects
  have hsubject := congrArg (fun read => read.toOption.map (·.subject)) hread
  revert hsubject
  decide

end FlowBuilder
