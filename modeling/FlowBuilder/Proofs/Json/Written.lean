import FlowBuilder.Proofs.Json.Reads
import Mathlib.Data.List.Forall2

/-!
# What is written, and what is read

Of the members of an object that have one key, a decoded value has the last. `Json.readWritten`
reads a text with all members, as they are written, and `Json.settle` leaves the last ones.

* `Relates.exists_reads`: values that are made of the same parts by two readers are related.
* `reads_value_iff`, `read_eq_ok_iff`: a value is read just if it is what a written one settles to.
* `field?_settle_eq_none_iff`: settling loses no key.
-/

namespace FlowBuilder.Json

variable {α β : Type} {gs r : List Glyph}

/-! ### Related values -/

section Related

variable {item : Reader α} {item' : Reader β} {R : α → β → Prop} {close : Char} {as : List α}

/-- Items are read as related ones. -/
theorem ReadsItems.exists_related
    (hitem : ∀ ⦃gs a r⦄, Reads item gs a r → ∃ b, R a b ∧ Reads item' gs b r)
    (h : ReadsItems item close gs as r) :
    ∃ bs, List.Forall₂ R as bs ∧ ReadsItems item' close gs bs r := by
  induction h with
  | last ha hclose =>
    obtain ⟨b, hab, hb⟩ := hitem ha
    exact ⟨[b], .cons hab .nil, .last hb hclose⟩
  | more ha hcomma _ ih =>
    obtain ⟨b, hab, hb⟩ := hitem ha
    obtain ⟨bs, hrelated, hbs⟩ := ih
    exact ⟨b :: bs, .cons hab hrelated, .more hb hcomma hbs⟩

/-- What stands in brackets is read as related items. -/
theorem ReadsBracketed.exists_related
    (hitem : ∀ ⦃gs a r⦄, Reads item gs a r → ∃ b, R a b ∧ Reads item' gs b r)
    (h : ReadsBracketed item close gs as r) :
    ∃ bs, List.Forall₂ R as bs ∧ ReadsBracketed item' close gs bs r := by
  cases h with
  | none hclose => exact ⟨[], .nil, .none hclose⟩
  | some hopen hg hitems =>
    obtain ⟨bs, hrelated, hbs⟩ := hitems.exists_related hitem
    exact ⟨bs, hrelated, .some hopen hg hbs⟩

/-- Members with one key, and with values that are related. -/
def MembersRelated (R : Json → Json → Prop) (m n : List Glyph × Json) : Prop :=
  m.1 = n.1 ∧ R m.2 n.2

/-- A member is read as a related one. -/
theorem reads_member_related {item item' : Reader Json} {R : Json → Json → Prop}
    (hitem : ∀ ⦃gs a r⦄, Reads item gs a r → ∃ b, R a b ∧ Reads item' gs b r)
    ⦃gs : List Glyph⦄ ⦃m : List Glyph × Json⦄ ⦃r : List Glyph⦄ (h : Reads (member item) gs m r) :
    ∃ n, MembersRelated R m n ∧ Reads (member item') gs n r := by
  rw [reads_member_iff] at h
  cases h with
  | intro hkey hcolon hv =>
    obtain ⟨w, hvw, hw⟩ := hitem hv
    exact ⟨(_, w), ⟨rfl, hvw⟩, reads_member_iff.2 (.intro hkey hcolon hw)⟩

/-- A relation between the values that two readers make of one text, with a clause for each form of
a value. -/
structure Relates (object object' : List (List Glyph × Json) → Json) (reading : NumberReading)
    (R : Json → Json → Prop) : Prop where
  string : ∀ s, R (.string s) (.string s)
  scalar : ∀ {gs v r}, ReadsScalar reading gs v r → R v v
  array : ∀ {vs ws}, List.Forall₂ R vs ws → R (.array vs) (.array ws)
  object : ∀ {ms ns}, List.Forall₂ (MembersRelated R) ms ns → R (object ms) (object' ns)

/-- What one reader reads, the other reads too, as a related value. -/
theorem Relates.exists_reads {object object' : List (List Glyph × Json) → Json}
    {reading : NumberReading} {R : Json → Json → Prop} (hrelates : Relates object object' reading R)
    {depth depth' : Nat} (hle : depth ≤ depth') {v : Json}
    (hv : Reads (valueBy object reading depth) gs v r) :
    ∃ w, R v w ∧ Reads (valueBy object' reading depth') gs w r := by
  induction depth using Nat.strongRecOn generalizing depth' gs v r with
  | ind depth ih =>
    rw [reads_valueBy_iff] at hv
    -- the parts nest less deep for both readers
    have hparts : ∀ d, depth = d + 1 → ∃ d', depth' = d' + 1 ∧ ∀ ⦃gs v r⦄,
        Reads (valueBy object reading d) gs v r →
          ∃ w, R v w ∧ Reads (valueBy object' reading d') gs w r := by
      rintro d rfl
      obtain ⟨d', rfl⟩ := Nat.exists_eq_add_of_le' (Nat.le_of_add_left_le hle)
      exact ⟨d', rfl, fun gs v r hv => ih d (Nat.lt_succ_self d) (by omega) hv⟩
    cases hv with
    | string hbody => exact ⟨_, hrelates.string _, reads_valueBy_iff.2 (.string hbody)⟩
    | scalar hg hscalar =>
      exact ⟨_, hrelates.scalar hscalar, reads_valueBy_iff.2 (.scalar hg hscalar)⟩
    | array hitems =>
      obtain ⟨d', rfl, hitem⟩ := hparts _ rfl
      obtain ⟨ws, hrelated, hws⟩ := hitems.exists_related hitem
      exact ⟨_, hrelates.array hrelated, reads_valueBy_iff.2 (.array hws)⟩
    | object hmembers =>
      obtain ⟨d', rfl, hitem⟩ := hparts _ rfl
      obtain ⟨ns, hrelated, hns⟩ := hmembers.exists_related (reads_member_related hitem)
      exact ⟨_, hrelates.object hrelated, reads_valueBy_iff.2 (.object hns)⟩

/-- A reader that may nest deeper reads at least as much. -/
theorem reads_valueBy_mono {object : List (List Glyph × Json) → Json} {reading : NumberReading}
    {depth depth' : Nat} (hle : depth ≤ depth') {v : Json}
    (hv : Reads (valueBy object reading depth) gs v r) :
    Reads (valueBy object reading depth') gs v r := by
  -- a reader is related to itself by equality
  have hrelates : Relates object object reading Eq := {
    string _ := rfl
    scalar _ := rfl
    array h := by rw [List.forall₂_eq_eq_eq] at h; rw [h]
    object h := by
      have heq : MembersRelated Eq = Eq := by
        ext m n
        exact Prod.ext_iff.symm
      rw [heq, List.forall₂_eq_eq_eq] at h
      rw [h] }
  obtain ⟨w, rfl, hw⟩ := hrelates.exists_reads hle hv
  exact hw

/-- Whatever the depths, one value at most is read from a text. -/
theorem Reads.unique_of_depths {object : List (List Glyph × Json) → Json} {reading : NumberReading}
    {depth depth' : Nat} {v w : Json} {r' : List Glyph}
    (hv : Reads (valueBy object reading depth) gs v r)
    (hw : Reads (valueBy object reading depth') gs w r') : v = w ∧ r = r' :=
  (reads_valueBy_mono (Nat.le_max_left depth depth') hv).unique
    (reads_valueBy_mono (Nat.le_max_right depth depth') hw)

end Related

/-! ### Members of one key -/

mutual

/-- A value with the last one of the members that have one key, within it too. -/
def settle : Json → Json
  | .array items => .array (settleItems items)
  | .object members => ofMembers (settleMembers members)
  | j => j

/-- The items of an array, settled. -/
def settleItems : List Json → List Json
  | [] => []
  | j :: r => j.settle :: settleItems r

/-- The members of an object, with their values settled. -/
def settleMembers : List (List Glyph × Json) → List (List Glyph × Json)
  | [] => []
  | (key, j) :: r => (key, j.settle) :: settleMembers r

end

/-- Settling members keeps their keys. -/
theorem map_fst_settleMembers (members : List (List Glyph × Json)) :
    (settleMembers members).map (·.1) = members.map (·.1) := by
  induction members with
  | nil => rfl
  | cons m r ih => simp [settleMembers, ih]

/-- A member adds its key, if it is not there already. -/
theorem mem_map_fst_put {members : List (List Glyph × Json)} {key k : List Glyph} {v : Json} :
    k ∈ (put members key v).map (·.1) ↔ k ∈ members.map (·.1) ∨ k = key := by
  rw [put]
  split
  · next hany =>
    obtain ⟨m, hm, hkey⟩ := List.any_eq_true.1 hany
    rw [List.map_map]
    constructor
    · exact Or.inl
    · rintro (h | rfl)
      · exact h
      · exact eq_of_beq hkey ▸ List.mem_map_of_mem hm
  · simp

/-- An object lacks a field just if none of its members has the key. -/
theorem field?_object_eq_none_iff {key : String} {members : List (List Glyph × Json)} :
    (object members).field? key = none ↔ Glyph.ofString key ∉ members.map (·.1) := by
  rw [field?, lookup?, List.lookup_eq_none_iff]
  simp only [bne_iff_ne, List.mem_map, not_exists, not_and]
  exact forall₂_congr fun m _ => ne_comm

/-- An object has just the keys that are stated. -/
theorem field?_ofMembers_eq_none_iff {key : String} {members : List (List Glyph × Json)} :
    (ofMembers members).field? key = none ↔ Glyph.ofString key ∉ members.map (·.1) := by
  have hkeys : ∀ front, Glyph.ofString key ∈
      (members.foldl (fun ms (m : List Glyph × Json) => put ms m.1 m.2) front).map (·.1) ↔
        Glyph.ofString key ∈ front.map (·.1) ∨ Glyph.ofString key ∈ members.map (·.1) := by
    induction members with
    | nil => simp
    | cons m r ih =>
      intro front
      rw [List.foldl_cons, ih, mem_map_fst_put, List.map_cons, List.mem_cons, or_assoc]
  rw [ofMembers, field?_object_eq_none_iff, hkeys]
  simp

/-- A value lacks a field just if it does when it is settled. -/
theorem field?_settle_eq_none_iff {key : String} {j : Json} :
    j.settle.field? key = none ↔ j.field? key = none := by
  match j with
  | .object members =>
    rw [settle, field?_ofMembers_eq_none_iff, map_fst_settleMembers, field?_object_eq_none_iff]
  | .array _ => rw [settle]; rfl
  | .null | .bool _ | .int _ | .float _ | .string _ => rfl

/-- A value of a text with all members, as they are written. -/
abbrev written (depth : Nat) : Reader Json :=
  valueBy .object asNumber depth

/-- A scalar has no parts. -/
theorem parts_of_readsScalar {v : Json} (h : ReadsScalar asNumber gs v r) :
    v.settle = v ∧ ∀ members, v ≠ .object members := by
  cases h with
  | word hword =>
    simp only [words, List.mem_cons, List.not_mem_nil, or_false] at hword
    rcases hword with rfl | rfl | rfl | rfl | rfl | rfl
    all_goals exact ⟨rfl, by simp⟩
  | number htext hvalue =>
    unfold asNumber at hvalue
    split at hvalue
    · split at hvalue
      · cases hvalue
      · cases hvalue
        exact ⟨rfl, by simp⟩
    · cases hvalue
      exact ⟨rfl, by simp⟩

/-- A value is read just if it is what a written one settles to. -/
theorem reads_value_iff {depth : Nat} {v : Json} :
    Reads (value asNumber depth) gs v r ↔ ∃ t, t.settle = v ∧ Reads (written depth) gs t r := by
  -- settling a list or the members of an object is settling each part
  have hitems : ∀ {ts vs}, List.Forall₂ (fun t v => settle t = v) ts vs → settleItems ts = vs := by
    intro ts vs h
    induction h with
    | nil => rfl
    | cons hv _ ih => rw [settleItems, hv, ih]
  have hmembers : ∀ {ts ms}, List.Forall₂ (MembersRelated fun t v => settle t = v) ts ms →
      settleMembers ts = ms := by
    intro ts ms h
    induction h with
    | nil => rfl
    | cons hm _ ih => rw [settleMembers, hm.1, hm.2, ih]
  constructor
  · intro hv
    -- the two readers differ only in what they make of the members of an object
    have hrelates : Relates ofMembers .object asNumber fun v t => settle t = v := {
      string _ := rfl
      scalar h := (parts_of_readsScalar h).1
      array h := by rw [settle, hitems h.flip]
      object h := by
        rw [settle, hmembers (h.flip.imp fun _ _ h => ⟨h.1.symm, h.2⟩)] }
    exact hrelates.exists_reads (Nat.le_refl depth) hv
  · rintro ⟨t, rfl, ht⟩
    have hrelates : Relates .object ofMembers asNumber fun t v => settle t = v := {
      string _ := rfl
      scalar h := (parts_of_readsScalar h).1
      array h := by rw [settle, hitems h]
      object h := by rw [settle, hmembers h] }
    obtain ⟨v, rfl, hv⟩ := hrelates.exists_reads (Nat.le_refl depth) ht
    exact hv

/-- The value that a text states, with all members as they are written. -/
def readWritten (depth : Nat) (s : String) : Except ReadError Json :=
  readBy .object asNumber depth (Glyph.ofString s)

/-- A text states what its written value settles to. -/
theorem read_eq_ok_iff {depth : Nat} {s : String} {v : Json} :
    read depth s = .ok v ↔ ∃ t, t.settle = v ∧ readWritten depth s = .ok t := by
  rw [read, readGlyphs, readBy_eq_ok_iff]
  simp only [readWritten, readBy_eq_ok_iff, reads_value_iff]
  constructor
  · rintro ⟨rest, ⟨t, ht, hreads⟩, hgap⟩
    exact ⟨t, ht, rest, hreads, hgap⟩
  · rintro ⟨t, ht, rest, hreads, hgap⟩
    exact ⟨rest, ⟨t, ht, hreads⟩, hgap⟩

/-- An object is written between braces. -/
theorem exists_members_of_reads {depth : Nat} {t : Json} {members : List (List Glyph × Json)}
    (h : Reads (written depth) gs t r) (hobject : t.settle = .object members) :
    ∃ d body ms, depth = d + 1 ∧ gs = .char '\x7b' :: body ∧ t = .object ms ∧
      ReadsBracketed (member (written d)) '\x7d' body ms r := by
  rw [reads_valueBy_iff] at h
  cases h with
  | string => cases hobject
  | array => cases hobject
  | object hmembers => exact ⟨_, _, _, rfl, rfl, rfl, hmembers⟩
  | scalar _ hscalar =>
    obtain ⟨hsettle, hother⟩ := parts_of_readsScalar hscalar
    exact absurd (hsettle ▸ hobject) (hother members)

/-! ### Values within values -/

mutual

/-- The values strictly within a value. -/
def within : Json → List Json
  | .array items => withinItems items
  | .object members => withinMembers members
  | _ => []

/-- The items of an array, with the values within them. -/
def withinItems : List Json → List Json
  | [] => []
  | j :: r => j :: (j.within ++ withinItems r)

/-- The values of an object's members, with the values within them. -/
def withinMembers : List (List Glyph × Json) → List Json
  | [] => []
  | (_, j) :: r => j :: (j.within ++ withinMembers r)

end

/-- What is within items is one of them or within one. -/
theorem mem_withinItems {o : Json} {items : List Json} :
    o ∈ withinItems items ↔ ∃ j ∈ items, o = j ∨ o ∈ j.within := by
  induction items with
  | nil => simp [withinItems]
  | cons j r ih => simp [withinItems, ih, or_assoc]

/-- What is within members is the value of one or within it. -/
theorem mem_withinMembers {o : Json} {members : List (List Glyph × Json)} :
    o ∈ withinMembers members ↔ ∃ m ∈ members, o = m.2 ∨ o ∈ m.2.within := by
  induction members with
  | nil => simp [withinMembers]
  | cons m r ih => simp [withinMembers, ih, or_assoc]

end FlowBuilder.Json
