import FlowBuilder.Proofs.Text.Trim
import FlowBuilder.Service.Origins
import Mathlib.Data.List.Basic
import Mathlib.Data.List.Induction

/-!
# The origins that an environment allows

The value in the environment lists origins with commas between, and `pieces` are the texts between
these commas. Reading the pieces one after another keeps an account of those read so far
(`Collects`): the origins besides the local server are the pieces that are not empty, each once, in
the order in which they first occur. Each origin is an `Entry`, a trimmed text without a comma, and
so a joined list of origins splits into just these (`pieces_intercalate`).

* `map_trim_splitOn`: blanks around the whole value make no difference to its pieces.
* `exists_foldl_add_eq`: the account holds after every list of pieces.
* `allowed_lists_pieces`: which origins are allowed, and in which order; joined by commas they allow
  the same again.
-/

namespace FlowBuilder.Origins

/-! ### Pieces of a value -/

/-- The texts between the commas of a value, without the blanks around them. -/
def pieces (value : Option String) : List String :=
  ((value.getD "").toList.splitOn ',').map fun part => String.ofList (Text.trim part)

/-- A text that can stand in a list with commas: it has none, and no blanks around it. -/
structure Entry (origin : String) : Prop where
  /-- It is trimmed. -/
  trimmed : Text.IsTrimmed origin.toList
  /-- It has no comma. -/
  noComma : ',' ∉ origin.toList

/-- No part between commas has a comma. -/
theorem comma_notMem_of_mem_splitOn {cs part : List Char} (h : part ∈ cs.splitOn ',') :
    ',' ∉ part := by
  intro hmem
  rw [List.splitOn_eq_splitOnP, ← Text.splitAll_eq_splitOnP] at h
  cases Text.eq_false_of_mem_splitAll h hmem

/-- Every piece may be an entry. -/
theorem entry_of_mem_pieces {value : Option String} {origin : String}
    (h : origin ∈ pieces value) : Entry origin := by
  obtain ⟨part, hpart, rfl⟩ := List.mem_map.1 h
  constructor
  · rw [String.toList_ofList]
    exact Text.isTrimmed_trim part
  · rw [String.toList_ofList]
    obtain ⟨front, back, heq, -, -⟩ := Text.exists_eq_append_trim part
    intro hmem
    -- what is left after trimming is a part of the piece
    refine comma_notMem_of_mem_splitOn hpart ?_
    rw [heq]
    exact List.mem_append_left _ (List.mem_append_right _ hmem)

/-- The local server may be an entry. -/
theorem entry_localServer : Entry localServer :=
  ⟨Text.trim_eq_self_iff.1 (by decide), by decide⟩

/-- Entries joined by commas are the pieces of what they make. -/
theorem pieces_intercalate {origins : List String} (hne : origins ≠ [])
    (h : ∀ origin ∈ origins, Entry origin) : pieces (some (",".intercalate origins)) = origins := by
  have hsplit : (",".intercalate origins).toList.splitOn ',' = origins.map String.toList := by
    rw [String.toList_intercalate]
    refine List.splitOn_intercalate ',' ?_ (List.map_eq_nil_iff.not.2 hne)
    rintro part hpart
    obtain ⟨origin, horigin, rfl⟩ := List.mem_map.1 hpart
    exact (h origin horigin).noComma
  rw [pieces, Option.getD_some, hsplit, List.map_map]
  -- an entry has nothing to be trimmed
  refine (List.map_congr_left fun origin horigin => ?_).trans (List.map_id origins)
  rw [Function.comp, Text.trim_eq_self_iff.2 (h origin horigin).trimmed, String.ofList_toList]
  rfl

/-! ### Blanks around a value -/

theorem beq_comma_of_notMem {cs : List Char} (h : ',' ∉ cs) : ∀ c ∈ cs, (c == ',') = false := by
  intro c hc
  exact beq_false_of_ne fun heq => h (heq ▸ hc)

/-- A text without a comma is one part. -/
theorem splitOn_of_notMem {cs : List Char} (h : ',' ∉ cs) : cs.splitOn ',' = [cs] := by
  rw [List.splitOn_eq_splitOnP]
  exact List.splitOnP_eq_singleton (beq_comma_of_notMem h)

/-- The first comma ends the first part. -/
theorem splitOn_append_comma {cs : List Char} (h : ',' ∉ cs) (r : List Char) :
    (cs ++ ',' :: r).splitOn ',' = cs :: r.splitOn ',' := by
  rw [List.splitOn_eq_splitOnP, List.splitOn_eq_splitOnP]
  exact List.splitOnP_append_cons_of_forall_mem (beq_comma_of_notMem h) ',' rfl r

/-- Blanks are no commas. -/
theorem comma_notMem_of_forall_isBlank {cs : List Char} (h : ∀ c ∈ cs, Text.isBlank c = true) :
    ',' ∉ cs := by
  intro hmem
  cases h ',' hmem

/-- Blanks around joined parts are trimmed with those of the first and the last part. -/
theorem map_trim_splitOn_intercalate {front back : List Char}
    (hfront : ∀ c ∈ front, Text.isBlank c = true) (hback : ∀ c ∈ back, Text.isBlank c = true)
    {parts : List (List Char)} (hne : parts ≠ []) (hparts : ∀ part ∈ parts, ',' ∉ part) :
    ((front ++ ([','].intercalate parts ++ back)).splitOn ',').map Text.trim =
      parts.map Text.trim := by
  induction parts generalizing front with
  | nil => exact absurd rfl hne
  | cons part r ih =>
    have hstart : ',' ∉ front ++ part := List.not_mem_append
      (comma_notMem_of_forall_isBlank hfront) (hparts part List.mem_cons_self)
    cases r with
    | nil =>
      have hall : ',' ∉ front ++ (part ++ back) := by
        rw [← List.append_assoc]
        exact List.not_mem_append hstart (comma_notMem_of_forall_isBlank hback)
      rw [List.intercalate_singleton, splitOn_of_notMem hall, List.map_singleton,
        Text.trim_between hfront hback, List.map_singleton]
    | cons next r =>
      -- the first part ends at the first comma, and no blanks stand in front of the others
      have hempty : ∀ c ∈ ([] : List Char), Text.isBlank c = true := nofun
      have hrest := ih hempty (List.cons_ne_nil next r)
        fun other hother => hparts other (List.mem_cons_of_mem part hother)
      have hjoin : front ++ ([','].intercalate (part :: next :: r) ++ back) =
          front ++ part ++ ',' :: ([','].intercalate (next :: r) ++ back) := by
        rw [List.intercalate_cons_cons]
        simp only [List.append_assoc, List.cons_append, List.nil_append]
      have htrim : Text.trim (front ++ part) = Text.trim part := by
        have hbetween := Text.trim_between hfront hempty part
        rwa [List.append_nil] at hbetween
      rw [hjoin, splitOn_append_comma hstart, List.map_cons, List.map_cons, htrim]
      exact congrArg _ hrest

/-- Blanks around a text make no difference to what stands between its commas. -/
theorem map_trim_splitOn (cs : List Char) :
    ((Text.trim cs).splitOn ',').map Text.trim = (cs.splitOn ',').map Text.trim := by
  obtain ⟨front, back, heq, hfront, hback⟩ := Text.exists_eq_append_trim cs
  have h := map_trim_splitOn_intercalate hfront hback
    (List.splitOnP_ne_nil _ (Text.trim cs)) fun _ => comma_notMem_of_mem_splitOn
  rw [← List.splitOn_eq_splitOnP, List.intercalate_splitOn, ← List.append_assoc, ← heq] at h
  exact h.symm

/-- Origins are added one by one to the local server. -/
theorem allowed_eq_foldl (value : Option String) :
    allowed value = (pieces value).foldl add [localServer] := by
  have hpieces : ∀ parts : List (List Char),
      (parts.map fun part => String.ofList (Text.trim part)) =
        (parts.map Text.trim).map String.ofList := by
    intro parts
    rw [List.map_map]
    rfl
  rw [allowed, pieces, hpieces, hpieces, Text.splitAll_eq_splitOnP, ← List.splitOn_eq_splitOnP,
    map_trim_splitOn]

/-! ### Reading the pieces -/

/-- The origins besides the local server, by the pieces read so far. -/
structure Collects (read more : List String) : Prop where
  /-- They are the pieces, but for the empty ones and the local server. -/
  mem_iff : ∀ origin, origin ∈ more ↔ origin ∈ read ∧ origin ≠ "" ∧ origin ≠ localServer
  /-- Each stands once, in the order in which they first occur. -/
  ordered : more.Pairwise fun a b => read.idxOf a < read.idxOf b

/-- Nothing is collected from nothing. -/
theorem Collects.nil : Collects [] [] :=
  ⟨by simp, .nil⟩

/-- Further pieces do not change where a piece occurs first. -/
theorem Collects.ordered_concat {read more : List String} (h : Collects read more)
    (piece : String) :
    more.Pairwise fun a b => (read ++ [piece]).idxOf a < (read ++ [piece]).idxOf b := by
  refine h.ordered.imp_of_mem fun ha hb hlt => ?_
  rwa [List.idxOf_append_of_mem ((h.mem_iff _).1 ha).1,
    List.idxOf_append_of_mem ((h.mem_iff _).1 hb).1]

/-- A piece that is empty, the local server or a repetition changes nothing. -/
theorem Collects.skip {read more : List String} {piece : String} (h : Collects read more)
    (hskip : piece = "" ∨ piece ∈ localServer :: more) : Collects (read ++ [piece]) more := by
  refine ⟨fun origin => ?_, h.ordered_concat piece⟩
  rw [h.mem_iff, List.mem_append, List.mem_singleton]
  refine and_congr_left fun hrest => ⟨Or.inl, ?_⟩
  rintro (hread | rfl)
  · exact hread
  · rcases hskip with hempty | hmem
    · exact absurd hempty hrest.1
    · exact ((h.mem_iff _).1 ((List.mem_cons.1 hmem).resolve_left hrest.2)).1

/-- Any other piece is read for the first time, and comes behind all others. -/
theorem Collects.concat {read more : List String} {piece : String} (h : Collects read more)
    (hnew : ¬(piece = "" ∨ piece ∈ localServer :: more)) :
    Collects (read ++ [piece]) (more ++ [piece]) := by
  rw [not_or, List.mem_cons, not_or] at hnew
  obtain ⟨hne, hserver, hmore⟩ := hnew
  have hread : piece ∉ read := fun hread => hmore ((h.mem_iff piece).2 ⟨hread, hne, hserver⟩)
  constructor
  · intro origin
    simp only [List.mem_append, List.mem_singleton, h.mem_iff, or_and_right]
    refine or_congr_right ⟨?_, And.left⟩
    rintro rfl
    exact ⟨rfl, hne, hserver⟩
  · refine List.pairwise_append.2 ⟨h.ordered_concat piece, List.pairwise_singleton _ _, ?_⟩
    intro origin horigin last hlast
    -- the origin was read before, and what has not been read starts where that ends
    have hbefore := ((h.mem_iff origin).1 horigin).1
    rw [List.mem_singleton.1 hlast, List.idxOf_append_of_mem hbefore,
      List.idxOf_append_of_notMem hread]
    exact Nat.lt_add_right _ (List.idxOf_lt_length_of_mem hbefore)

/-- The account after one more piece. -/
theorem Collects.add {read more : List String} (h : Collects read more) (piece : String) :
    ∃ more', add (localServer :: more) piece = localServer :: more' ∧
      Collects (read ++ [piece]) more' := by
  by_cases hskip : piece = "" ∨ piece ∈ localServer :: more
  · exact ⟨more, if_pos hskip, h.skip hskip⟩
  · exact ⟨more ++ [piece], if_neg hskip, h.concat hskip⟩

/-- The account after all pieces. -/
theorem exists_foldl_add_eq (read : List String) :
    ∃ more, read.foldl Origins.add [localServer] = localServer :: more ∧ Collects read more := by
  induction read using List.reverseRecOn with
  | nil => exact ⟨[], rfl, .nil⟩
  | append_singleton read piece ih =>
    obtain ⟨more, hmore, hcollects⟩ := ih
    obtain ⟨more', hadd, hcollects'⟩ := hcollects.add piece
    refine ⟨more', ?_, hcollects'⟩
    rw [List.foldl_append, hmore]
    exact hadd

/-- What is collected has no duplicates. -/
theorem Collects.nodup {read more : List String} (h : Collects read more) :
    (localServer :: more).Nodup := by
  refine List.nodup_cons.2 ⟨fun hmem => ((h.mem_iff _).1 hmem).2.2 rfl, ?_⟩
  refine h.ordered.imp fun hlt heq => ?_
  rw [heq] at hlt
  exact Nat.lt_irrefl _ hlt

/-- New origins are all kept. -/
theorem foldl_add_eq_append {origins more : List String} (hnodup : (origins ++ more).Nodup)
    (hne : "" ∉ more) : more.foldl Origins.add origins = origins ++ more := by
  induction more generalizing origins with
  | nil => rw [List.foldl_nil, List.append_nil]
  | cons origin r ih =>
    have hnew : ¬(origin = "" ∨ origin ∈ origins) := by
      rintro (rfl | hmem)
      · exact hne List.mem_cons_self
      · exact (List.nodup_append.1 hnodup).2.2 origin hmem origin List.mem_cons_self rfl
    rw [List.append_cons] at hnodup ⊢
    rw [List.foldl_cons, Origins.add, if_neg hnew]
    exact ih hnodup fun hmem => hne (List.mem_cons_of_mem origin hmem)

/-- Read as pieces themselves, the origins of an account are the same again. -/
theorem Collects.foldl_add {read more : List String} (h : Collects read more) :
    (localServer :: more).foldl Origins.add [localServer] = localServer :: more := by
  rw [List.foldl_cons, Origins.add, if_pos (Or.inr List.mem_cons_self)]
  exact foldl_add_eq_append h.nodup fun hmem => ((h.mem_iff _).1 hmem).2.1 rfl

/-- The allowed origins are the local server and, behind it, the pieces of the value that are
neither empty nor the local server, each once and in the order in which they first occur. Joined by
commas, they are a value that allows the same origins. -/
theorem allowed_lists_pieces (value : Option String) :
    ∃ more, allowed value = localServer :: more ∧ (localServer :: more).Nodup ∧
      (∀ origin, origin ∈ more ↔ origin ∈ pieces value ∧ origin ≠ "" ∧ origin ≠ localServer) ∧
      (more.Pairwise fun a b => (pieces value).idxOf a < (pieces value).idxOf b) ∧
      allowed (some (",".intercalate (allowed value))) = allowed value := by
  obtain ⟨more, hmore, hcollects⟩ := exists_foldl_add_eq (pieces value)
  rw [← allowed_eq_foldl] at hmore
  refine ⟨more, hmore, hcollects.nodup, hcollects.mem_iff, hcollects.ordered, ?_⟩
  have hentry : ∀ origin ∈ localServer :: more, Entry origin := by
    rw [List.forall_mem_cons]
    exact ⟨entry_localServer, fun origin horigin =>
      entry_of_mem_pieces ((hcollects.mem_iff origin).1 horigin).1⟩
  rw [hmore, allowed_eq_foldl, pieces_intercalate (List.cons_ne_nil _ _) hentry]
  exact hcollects.foldl_add

/-- Blanks, an empty piece, the local server and a repetition. -/
example : allowed (some " https://a.org ,,http://localhost:3000,https://b.org,https://a.org ") =
    [localServer, "https://a.org", "https://b.org"] := by
  decide

end FlowBuilder.Origins
