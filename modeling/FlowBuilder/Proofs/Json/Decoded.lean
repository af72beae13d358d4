import FlowBuilder.Json.Display
import FlowBuilder.Proofs.Decimal.Bounds
import FlowBuilder.Proofs.Faults
import FlowBuilder.Proofs.Json.Reads

/-!
# Decoded values

What the reader's limits say of the values that it gives (`Json.Fits`): their whole numbers can be
written out, and their arrays and objects nest no deeper than the text was read. So a decoded value
can be shown wherever there is room for it (`Json.room`), and its fields state only numbers that can
be written out.

* `fits_of_reads`: what is read at a depth fits it.
* `Fits.fieldD`: the fields of a decoded object fit one level less.
* `Fits.failsJust_inner`: a decoded value cannot be shown just if there is too little room for it.
-/

namespace FlowBuilder.Json

/-- A value whose whole numbers can be written out, and whose arrays and objects nest at most so
deep. -/
inductive Fits : Nat → Json → Prop where
  /-- `null`. -/
  | null {d : Nat} : Fits d .null
  /-- A truth value. -/
  | bool {d : Nat} (b : Bool) : Fits d (.bool b)
  /-- A whole number. -/
  | int {d : Nat} {n : Int} (hn : Decimal.Writable n.natAbs) : Fits d (.int n)
  /-- A double. -/
  | float {d : Nat} (x : Float) : Fits d (.float x)
  /-- A string. -/
  | string {d : Nat} (s : List Glyph) : Fits d (.string s)
  /-- An array of values that nest less deep. -/
  | array {d : Nat} {items : List Json} (hitems : ∀ j ∈ items, Fits d j) :
      Fits (d + 1) (.array items)
  /-- An object with such values. -/
  | object {d : Nat} {members : List (List Glyph × Json)} (hmembers : ∀ m ∈ members, Fits d m.2) :
      Fits (d + 1) (.object members)

/-! ### What is read -/

section Read

variable {gs r : List Glyph}

/-- The digits of a number before the point are digits. -/
theorem isDigit_of_mem_whole {cs rest : List Char} {t : NumberText}
    (h : numberText? cs = some (t, rest)) : ∀ d ∈ t.whole, d.isDigit := by
  have hdigits : ∀ cs : List Char, ∀ d ∈ (digits cs).1, d.isDigit :=
    fun _ => List.all_eq_true.1 List.all_takeWhile
  unfold numberText? at h
  split at h
  next negative cs' hcs =>
  simp only [Option.map_eq_some_iff, Prod.exists, Prod.mk.injEq] at h
  obtain ⟨whole, r, hw, rfl, -⟩ := h
  -- a lone zero, or a digit with all the digits behind it
  split at hw
  · cases hw
    exact List.forall_mem_singleton.2 rfl
  · next d r' _ =>
    split at hw
    · next hd =>
      simp only [Option.some.injEq, Prod.mk.injEq] at hw
      obtain ⟨rfl, -⟩ := hw
      exact List.forall_mem_cons.2 ⟨hd, hdigits r'⟩
    · cases hw
  · cases hw

/-- Words and numbers do not nest, and a whole number has no more digits than the limit. -/
theorem fits_of_readsScalar {d : Nat} {v : Json} (h : ReadsScalar asNumber gs v r) : Fits d v := by
  cases h with
  | word hword =>
    simp only [words, List.mem_cons, List.not_mem_nil, or_false] at hword
    rcases hword with rfl | rfl | rfl | rfl | rfl | rfl
    · exact .null
    · exact .bool true
    · exact .bool false
    · exact .float _
    · exact .float _
    · exact .float _
  | @number _ left t _ htext hvalue =>
    unfold asNumber at hvalue
    split at hvalue
    · split at hvalue
      · cases hvalue
      · next hlength =>
        cases hvalue
        -- the reader has counted the digits of the whole part before it took the value
        have hwritable : Decimal.Writable (Decimal.natOfDigits t.whole) :=
          Decimal.writable_natOfDigits (isDigit_of_mem_whole htext) (Nat.le_of_not_lt hlength)
        refine .int ?_
        split
        · rwa [Int.natAbs_neg, Int.natAbs_natCast]
        · rwa [Int.natAbs_natCast]
    · cases hvalue
      exact .float _

/-- What holds of each item that is read holds of all of them. -/
theorem ReadsItems.forall_mem {α : Type} {item : Reader α} {close : Char} {P : α → Prop}
    (hitem : ∀ ⦃gs a r⦄, Reads item gs a r → P a) {as : List α}
    (h : ReadsItems item close gs as r) : ∀ a ∈ as, P a := by
  induction h with
  | last ha => exact List.forall_mem_singleton.2 (hitem ha)
  | more ha _ _ ih => exact List.forall_mem_cons.2 ⟨hitem ha, ih⟩

/-- What holds of every item that is read holds of all between the brackets. -/
theorem ReadsBracketed.forall_mem {α : Type} {item : Reader α} {close : Char} {P : α → Prop}
    (hitem : ∀ ⦃gs a r⦄, Reads item gs a r → P a) {as : List α}
    (h : ReadsBracketed item close gs as r) : ∀ a ∈ as, P a := by
  cases h with
  | none => exact nofun
  | some _ _ hitems => exact hitems.forall_mem hitem

/-- A member that is put in place of another one, or behind the others, keeps what holds of their
values. -/
theorem forall_mem_put {P : Json → Prop} {members : List (List Glyph × Json)} {key : List Glyph}
    {v : Json} (hmembers : ∀ m ∈ members, P m.2) (hv : P v) : ∀ m ∈ put members key v, P m.2 := by
  unfold put
  split
  · rw [List.forall_mem_map]
    intro m hm
    dsimp only
    split
    · exact hv
    · exact hmembers m hm
  · rw [List.forall_mem_append, List.forall_mem_singleton]
    exact ⟨hmembers, hv⟩

/-- Of the values of an object, all are among those that are written. -/
theorem fits_ofMembers {d : Nat} {members : List (List Glyph × Json)}
    (h : ∀ m ∈ members, Fits d m.2) : Fits (d + 1) (ofMembers members) := by
  have hfold : ∀ front : List (List Glyph × Json), (∀ m ∈ front, Fits d m.2) →
      ∀ m ∈ members.foldl (fun ms m => put ms m.1 m.2) front, Fits d m.2 := by
    induction members with
    | nil => exact fun front hfront => hfront
    | cons m rest ih =>
      rw [List.forall_mem_cons] at h
      exact fun front hfront => ih h.2 _ (forall_mem_put hfront h.1)
  exact .object (hfold [] (List.forall_mem_nil _))

/-- What is read at a depth fits it. -/
theorem fits_of_reads {depth : Nat} {v : Json} (h : Reads (value asNumber depth) gs v r) :
    Fits depth v := by
  induction depth using Nat.strongRecOn generalizing gs v r with
  | ind depth ih =>
    rw [reads_valueBy_iff] at h
    cases h with
    | string => exact .string _
    | array hitems =>
      exact .array (hitems.forall_mem fun _ _ _ hitem => ih _ (Nat.lt_succ_self _) hitem)
    | object hmembers =>
      refine fits_ofMembers (hmembers.forall_mem fun _ m _ hmember => ?_)
      rw [reads_member_iff] at hmember
      cases hmember with
      | intro _ _ hitem => exact ih _ (Nat.lt_succ_self _) hitem
    | scalar _ hscalar => exact fits_of_readsScalar hscalar

/-- A decoded value fits the depth of its reading. -/
theorem fits_of_readGlyphs {depth : Nat} {v : Json} (h : readGlyphs depth gs = .ok v) :
    Fits depth v := by
  obtain ⟨rest, hread, -⟩ := readBy_eq_ok_iff.1 h
  exact fits_of_reads hread

end Read

/-! ### Fields -/

variable {d : Nat} {j : Json}

/-- A value fits a greater depth too. -/
theorem Fits.mono {d' : Nat} (h : Fits d j) (hle : d ≤ d') : Fits d' j := by
  induction h generalizing d' with
  | null => exact .null
  | bool b => exact .bool b
  | int hn => exact .int hn
  | float x => exact .float x
  | string s => exact .string s
  | array _ ih =>
    obtain ⟨d', rfl⟩ := Nat.exists_eq_add_of_le' (Nat.le_of_add_left_le hle)
    exact .array fun j hj => ih j hj (Nat.le_of_succ_le_succ hle)
  | object _ ih =>
    obtain ⟨d', rfl⟩ := Nat.exists_eq_add_of_le' (Nat.le_of_add_left_le hle)
    exact .object fun m hm => ih m hm (Nat.le_of_succ_le_succ hle)

/-- A value that is looked up is one of a member. -/
theorem mem_of_lookup? {key : String} {members : List (List Glyph × Json)}
    (h : lookup? key members = some j) : ∃ m ∈ members, m.2 = j := by
  obtain ⟨before, after, hmembers, -⟩ := List.lookup_eq_some_iff.1 h
  exact ⟨(Glyph.ofString key, j), by simp [hmembers], rfl⟩

/-- The fields of a decoded object fit one level less. -/
theorem Fits.fieldD (h : Fits (d + 1) j) (key : String) : Fits d (j.fieldD key) := by
  unfold Json.fieldD field?
  cases h with
  | @object _ members hmembers =>
    simp only
    match hlookup : lookup? key members with
    | none => exact .null
    | some v =>
      obtain ⟨m, hm, rfl⟩ := mem_of_lookup? hlookup
      exact hmembers m hm
  | _ => exact .null

/-- The items of a decoded array fit the same depth. -/
theorem Fits.of_mem_items {items : List Json} (h : Fits d (.array items)) :
    ∀ j ∈ items, Fits d j := by
  cases h with
  | @array d _ hitems => exact fun j hj => (hitems j hj).mono (Nat.le_succ d)

/-- An object with ordinary keys. -/
theorem fits_obj {members : List (String × Json)} (h : ∀ m ∈ members, Fits d m.2) :
    Fits (d + 1) (obj members) := by
  refine .object fun m hm => ?_
  obtain ⟨m', hm', rfl⟩ := List.mem_map.1 hm
  exact h m' hm'

/-! ### Room -/

mutual

/-- The room that a value takes: how many arrays and objects stand around each other in it, of those
that are not empty. -/
def room : Json → Nat
  | .array (j :: r) => roomOfItems (j :: r) + 1
  | .object (m :: r) => roomOfMembers (m :: r) + 1
  | _ => 0

/-- The room that the items of an array take. -/
def roomOfItems : List Json → Nat
  | [] => 0
  | j :: r => max j.room (roomOfItems r)

/-- The room that the members of an object take. -/
def roomOfMembers : List (List Glyph × Json) → Nat
  | [] => 0
  | (_, j) :: r => max j.room (roomOfMembers r)

end

/-- Items take no more room than any of them. -/
theorem roomOfItems_le_iff {items : List Json} {n : Nat} :
    roomOfItems items ≤ n ↔ ∀ j ∈ items, j.room ≤ n := by
  induction items with
  | nil => simp [roomOfItems]
  | cons j r ih => rw [roomOfItems, Nat.max_le, List.forall_mem_cons, ih]

/-- Members take no more room than the value of any of them. -/
theorem roomOfMembers_le_iff {members : List (List Glyph × Json)} {n : Nat} :
    roomOfMembers members ≤ n ↔ ∀ m ∈ members, m.2.room ≤ n := by
  induction members with
  | nil => simp [roomOfMembers]
  | cons m r ih => rw [roomOfMembers, Nat.max_le, List.forall_mem_cons, ih]

/-- A value takes no more room than it is deep. -/
theorem Fits.room_le (h : Fits d j) : j.room ≤ d := by
  induction h with
  | null | bool | int | float | string => exact Nat.zero_le _
  | @array d items _ ih =>
    cases items with
    | nil => exact Nat.zero_le _
    | cons j r => exact Nat.succ_le_succ (roomOfItems_le_iff.2 ih)
  | @object d members _ ih =>
    cases members with
    | nil => exact Nat.zero_le _
    | cons m r => exact Nat.succ_le_succ (roomOfMembers_le_iff.2 ih)

/-- Items are shown unless there is too little room for one of them. -/
theorem failsJust_innerItems {n : Nat} {items : List Json}
    (hitem : ∀ j ∈ items, FailsJust (j.inner n) .nestingTooDeep (n < j.room)) :
    FailsJust (innerItems n items) .nestingTooDeep (n < roomOfItems items) := by
  induction items with
  | nil => exact (FailsJust.ok []).congr (by simp [roomOfItems])
  | cons j r ih =>
    rw [List.forall_mem_cons] at hitem
    rw [innerItems]
    refine (hitem.1.bind fun _ _ => (ih hitem.2).bind_ok).congr ?_
    rw [roomOfItems]
    omega

/-- Members are shown unless there is too little room for the value of one. -/
theorem failsJust_innerMembers {n : Nat} {members : List (List Glyph × Json)}
    (hmember : ∀ m ∈ members, FailsJust (m.2.inner n) .nestingTooDeep (n < m.2.room)) :
    FailsJust (innerMembers n members) .nestingTooDeep (n < roomOfMembers members) := by
  induction members with
  | nil => exact (FailsJust.ok []).congr (by simp [roomOfMembers])
  | cons m r ih =>
    rw [List.forall_mem_cons] at hmember
    rw [innerMembers]
    refine (hmember.1.bind fun _ _ => (ih hmember.2).bind_ok).congr ?_
    rw [roomOfMembers]
    omega

/-- A decoded value cannot be shown just if there is too little room for it. -/
theorem Fits.failsJust_inner (h : Fits d j) (n : Nat) :
    FailsJust (j.inner n) .nestingTooDeep (n < j.room) := by
  -- each bracket around something takes one from the room; empty brackets take none
  induction h generalizing n with
  | null | bool | float | string =>
    exact (FailsJust.ok _).congr (by simp [room])
  | int hn =>
    rw [inner, if_pos hn]
    exact (FailsJust.ok _).congr (by simp [room])
  | @array d items _ ih =>
    match items, n with
    | [], _ => exact (FailsJust.ok _).congr (by simp [room])
    | j :: r, 0 => exact FailsJust.error.congr (by simp [room])
    | j :: r, n + 1 =>
      rw [inner]
      refine (failsJust_innerItems fun j hj => ih j hj n).bind_ok.congr ?_
      rw [room, Nat.succ_lt_succ_iff]
  | @object d members _ ih =>
    match members, n with
    | [], _ => exact (FailsJust.ok _).congr (by simp [room])
    | m :: r, 0 => exact FailsJust.error.congr (by simp [room])
    | m :: r, n + 1 =>
      rw [inner]
      refine (failsJust_innerMembers fun m hm => ih m hm n).bind_ok.congr ?_
      rw [room, Nat.succ_lt_succ_iff]

/-- Where there is room for the whole depth, a decoded value is shown. -/
theorem Fits.exists_inner_eq_ok (h : Fits d j) {n : Nat} (hle : d ≤ n) :
    ∃ cs, j.inner n = .ok cs :=
  (h.failsJust_inner n).exists_eq_ok (Nat.not_lt.2 (h.room_le.trans hle))

/-! ### Lists within lists -/

end FlowBuilder.Json
