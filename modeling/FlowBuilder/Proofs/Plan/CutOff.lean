import FlowBuilder.Proofs.Json.Braces
import FlowBuilder.Proofs.Json.Locality
import FlowBuilder.Proofs.Plan.Outcomes
import Mathlib.Data.List.TakeWhile

/-!
# Replies that are cut off

A reply whose object is cut off holds no plan, if no object within that object has emails of its
own. The search goes on behind the brace of the object: it finds the objects within it that are
complete, and braces in strings, from which the text is read with strings and structure swapped.

* `field?_eq_none_of_cutOff`: no object that is found in a text that is cut off has a certain key.
* `ofReply_cutOff`: a reply that is cut off holds no plan.
* `replacedFront_planned`: why members that are replaced count, and a gap does not.
-/

namespace FlowBuilder

/-- No object strictly within a value has emails. -/
def Json.NoEmailsWithin (j : Json) : Prop :=
  ∀ o ∈ j.within, o.field? "emails" = none

instance (j : Json) : Decidable j.NoEmailsWithin :=
  inferInstanceAs (Decidable (∀ o ∈ j.within, o.field? "emails" = none))

/-- An object that states a plan has emails. -/
theorem field?_emails_of_ofJson {limits : DepthLimits} {raw : Json} {p : Plan}
    (h : Plan.ofJson limits raw = .ok p) : raw.field? "emails" ≠ none := by
  obtain ⟨⟨entries, hne⟩, hentries, -⟩ := Plan.ofJson_eq_ok_iff.1 h
  obtain ⟨hemails, -⟩ := planEntries_eq_ok_iff.1 hentries
  intro hnone
  rw [Json.fieldD, hnone] at hemails
  cases hemails

section CutOff

open Json

variable {key : String} {depth depth' : Nat} {t u rest after r : List Glyph} {tree v : Json}

/-- From within a string, no key with the letter `m` is read. -/
theorem field?_eq_none_of_alternates (hkey : 'm' ∈ key.toList)
    (hread : Reads (value asNumber depth) (.char '\x7b' :: after) v r)
    (hinside : Alternates true (.char '\x7b' :: after)) : v.field? key = none := by
  obtain ⟨ms, rfl, hm⟩ := notMem_key_of_alternates hread hinside
  rw [field?_ofMembers_eq_none_iff]
  intro hmem
  obtain ⟨m, hmem, heq⟩ := List.mem_map.1 hmem
  exact hm m hmem (heq ▸ List.mem_map_of_mem hkey)

/-- An object that is read where one is written has the keys that are written. -/
theorem field?_eq_none_of_opens {o : Json} (ho : o.field? key = none) {gs : List Glyph}
    (hopens : Opens gs o) (hread : Reads (value asNumber depth) gs v r) :
    v.field? key = none := by
  obtain ⟨depth', r', hwritten⟩ := hopens
  have hsettled : Reads (value asNumber depth') gs o.settle r' :=
    reads_value_iff.2 ⟨o, rfl, hwritten⟩
  obtain ⟨rfl, -⟩ := hsettled.unique_of_depths hread
  rwa [field?_settle_eq_none_iff]

/-- What is read at a brace of a text that is cut off has a key with the letter `m` only if an
object within the text's value has it. -/
theorem field?_eq_none_of_cutOff (hkey : 'm' ∈ key.toList)
    (htree : Reads (written depth) (t ++ u) tree rest)
    {members : List (List Glyph × Json)} (hobject : tree.settle = .object members)
    (hnested : ∀ o ∈ tree.within, o.field? key = none)
    (hrest : skipGap rest = []) (hmissing : ∃ g ∈ u, isGap g = false)
    (hsuffix : .char '\x7b' :: after <:+ t)
    (hread : Reads (value asNumber depth') (.char '\x7b' :: after) v r) :
    v.field? key = none := by
  have hgaps : ∀ g ∈ rest, isGap g := List.dropWhile_eq_nil_iff.1 hrest
  have hlong := reads_object_append u hread
  obtain ⟨front, rfl⟩ := hsuffix
  cases front with
  | nil =>
    -- the whole object would end before the cut
    obtain ⟨-, hend⟩ := Reads.unique_of_depths (reads_value_iff.2 ⟨tree, rfl, htree⟩) hlong
    obtain ⟨g, hg, hother⟩ := hmissing
    have hgap := hgaps g (hend ▸ List.mem_append_right r hg)
    rw [hother] at hgap
    cases hgap
  | cons g front =>
    obtain ⟨d, body, ms, -, hbody, rfl, hmembers⟩ := exists_members_of_reads htree hobject
    have hlater : .char '\x7b' :: (after ++ u) <:+ body := by
      rw [List.cons_append, List.cons_append] at hbody
      obtain ⟨-, rfl⟩ := List.cons.inj hbody
      exact ⟨front, (List.append_assoc front (.char '\x7b' :: after) u).symm⟩
    have hplaces := hmembers.places (member_places (places_of_reads d)) (by decide)
      ((hrest ▸ crosses_skipGap rest).alternates .nil)
    rcases hplaces.brace (after ++ u) hlater with hbehind | hinside | ⟨o, ho, hopens⟩
    · cases hgaps _ (hbehind.subset List.mem_cons_self)
    · exact field?_eq_none_of_alternates hkey hread (hinside.of_prefix ⟨u, rfl⟩)
    · exact field?_eq_none_of_opens (hnested o (mem_withinMembers.2 ho)) hopens hlong

end CutOff

/-- A reply that is cut off holds no plan: its object has no object with emails within it, whatever
stands before it has no brace, and more is missing than a gap. -/
theorem ofReply_cutOff (limits : DepthLimits) {depth : Nat} {front s t u : String}
    {members : List (List Glyph × Json)} (hs : Json.read depth s = .ok (.object members))
    (hnested : ∀ tree, Json.readWritten depth s = .ok tree → tree.NoEmailsWithin)
    (hfront : '\x7b' ∉ front.toList) (hcut : s = t ++ u)
    (hmissing : ∃ c ∈ u.toList, Json.isGap (.char c) = false) (p : Plan) :
    Plan.ofReply limits (some (front ++ t)) ≠ .ok p := by
  intro hplan
  obtain ⟨v, ⟨after, ⟨hsuffix, -⟩, r, hread⟩, hv⟩ := exists_holdsFirst_of_ofReply hplan
  have hemails := field?_emails_of_ofJson hv
  obtain ⟨tree, hobject, hwritten⟩ := Json.read_eq_ok_iff.1 hs
  obtain ⟨rest, htree, hrest⟩ := Json.readBy_eq_ok_iff.1 hwritten
  -- no brace stands before the object
  have hbehind : .char '\x7b' :: after <:+ Json.skipGap (Glyph.ofString t) := by
    rw [Option.getD_some, Glyph.ofString_append] at hsuffix
    exact (Json.crosses_skipGap _).suffix
      (Json.suffix_of_notMem (fun hmem => hfront (Glyph.mem_ofString.1 hmem)) hsuffix)
  have hne : Json.skipGap (Glyph.ofString t) ≠ [] := by
    intro hnil
    rw [hnil] at hbehind
    cases List.suffix_nil.1 hbehind
  have hlong : Json.skipGap (Glyph.ofString s) =
      Json.skipGap (Glyph.ofString t) ++ Glyph.ofString u := by
    rw [hcut, Glyph.ofString_append, Json.skipGap_append _ hne]
  obtain ⟨c, hc, hother⟩ := hmissing
  exact hemails (field?_eq_none_of_cutOff (by decide) (hlong ▸ htree) hobject
    (hnested tree hwritten) hrest ⟨.char c, Glyph.mem_ofString.2 hc, hother⟩ hbehind ⟨_, hread⟩)

/-- A reply up to its email. Its strings hold braces, quotes and the text of another plan. -/
def quotingFront : String :=
  "\x7b\"note\":\x7b\"text\":\"a \\\"\x7b\\\" \x7b\"\x7d," ++
    "\"emails\":[\x7b\"cta\":\"\x7b \\\"emails\\\": [\x7b\x7d] \x7d\"\x7d"

/-- The whole reply. -/
def quotingReply : String :=
  quotingFront ++ "]\x7d"

/-- What the whole reply states. -/
def quotingObject : Json :=
  Json.obj [("note", Json.obj [("text", Json.text "a \"\x7b\" \x7b")]),
    ("emails", .array [Json.obj [("cta", Json.text "\x7b \"emails\": [\x7b\x7d] \x7d")]])]

section

set_option maxRecDepth 8000

/-- As it is written, the reply states that object. -/
theorem readWritten_quotingReply :
    Json.readWritten DepthLimits.standard.search quotingReply = .ok quotingObject := by
  cbv

/-- The reply states that object. -/
theorem read_quotingReply :
    Json.read DepthLimits.standard.search quotingReply = .ok quotingObject := by
  cbv

end

/-- The whole reply holds a plan, and what is left of it holds none, also behind other text. -/
theorem quotingFront_unplanned :
    (∃ p, Plan.ofReply .standard (some quotingReply) = .ok p) ∧
      ∀ p, Plan.ofReply .standard (some ("Plan: " ++ quotingFront)) ≠ .ok p := by
  have hnested : ∀ tree, Json.readWritten DepthLimits.standard.search quotingReply = .ok tree →
      tree.NoEmailsWithin := by
    intro tree htree
    rw [readWritten_quotingReply] at htree
    cases htree
    decide
  have hmissing : ∃ c ∈ "]\x7d".toList, Json.isGap (.char c) = false := ⟨']', by decide, by decide⟩
  exact ⟨exists_eq_ok_of_isSome (by decide +kernel),
    ofReply_cutOff .standard read_quotingReply hnested (by decide) rfl hmissing⟩

/-- A reply up to the end of a member that is replaced later. -/
def replacedFront : String :=
  "\x7b\"draft\":\x7b\"emails\":[\x7b\x7d]\x7d"

/-- The whole reply. -/
def replacedReply : String :=
  "\x7b\"draft\":\x7b\"emails\":[\x7b\x7d]\x7d,\"draft\":\"\",\"emails\":[\x7b\x7d,\x7b\x7d]\x7d"

/-- What the whole reply states. -/
def replacedObject : Json :=
  Json.obj [("draft", Json.text ""), ("emails", .array [Json.obj [], Json.obj []])]

/-- A reply that ends with a gap. -/
def gappedReply : String :=
  "\x7b\"emails\":[\x7b\x7d]\x7d "

/-- The reply without the gap. -/
def gappedFront : String :=
  "\x7b\"emails\":[\x7b\x7d]\x7d"

/-- What the reply states, with the gap or without it. -/
def gappedObject : Json :=
  Json.obj [("emails", .array [Json.obj []])]

section

set_option maxRecDepth 8000

/-- The reply states that object, in which the last member counts. -/
theorem read_replacedReply :
    Json.read DepthLimits.standard.search replacedReply = .ok replacedObject := by
  cbv

/-- The reply states that object. -/
theorem read_gappedReply :
    Json.read DepthLimits.standard.search gappedReply = .ok gappedObject := by
  cbv

end

/-- It is not enough that no object within what a reply states has emails, and that some of the
reply is missing. An object that a later member of its key replaces is found if the reply is cut off
before that member; and where only a gap is missing, nothing is lost. -/
theorem replacedFront_planned :
    (Json.read DepthLimits.standard.search replacedReply = .ok replacedObject ∧
      replacedObject.NoEmailsWithin ∧
      replacedReply = replacedFront ++ ",\"draft\":\"\",\"emails\":[\x7b\x7d,\x7b\x7d]\x7d" ∧
      (Plan.ofReply .standard (some replacedFront)).toOption.map (·.emails.length) = some 1) ∧
    Json.read DepthLimits.standard.search gappedReply = .ok gappedObject ∧
      gappedObject.NoEmailsWithin ∧
      gappedReply = gappedFront ++ " " ∧
      (Plan.ofReply .standard (some gappedFront)).toOption.map (·.emails.length) = some 1 :=
  ⟨⟨read_replacedReply, (by decide), rfl, by decide +kernel⟩,
    read_gappedReply, (by decide), rfl, by decide +kernel⟩

end FlowBuilder
