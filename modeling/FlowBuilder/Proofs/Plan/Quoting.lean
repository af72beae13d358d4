import FlowBuilder.Plan.Prompt
import FlowBuilder.Proofs.Text.Slots
import FlowBuilder.Text.Search

/-!
# What the prompt for a plan quotes

The prompt quotes the request and the conversation in two slots of one template. The slots are
filled one after the other: the conversation is put in unchanged, but the request is looked at
again, and the name of the slot of the conversation within it is taken for that slot.

* `toList_planPrompt`, `toList_filledPrompt`: what stands in the slots of a prompt, and what would
  if both were filled at once.
* `planPrompt_quotes_iff`: a request is quoted unchanged just if it does not name the slot.
* `slotRequest_unquoted`: a request that does.
-/

namespace FlowBuilder

/-- The prompt with both slots filled at once, so that nothing that is put in is looked at again. -/
def filledPrompt (message block : String) : String :=
  String.ofList (Text.fillAll [(messageSlot, message), (historySlot, block)] planTemplate.toList)

/-! ### The template -/

/-- The template up to the quote before the request. -/
def promptOpening : List Char :=
  planTemplate.toList.take 108

/-- The template from the line behind the conversation on. -/
def promptClosing : List Char :=
  planTemplate.toList.drop 130

/-- What the prompt is around a request, which stands in quotes, and a conversation. -/
def promptAround (message block : List Char) : List Char :=
  promptOpening ++ '"' :: (message ++ '"' :: ([] ++ '\n' :: (block ++ '\n' :: promptClosing)))

/-- The template has each slot once. -/
theorem planTemplate_eq :
    planTemplate.toList = promptAround messageSlot.toList historySlot.toList ∧
      ∀ slot ∈ [messageSlot.toList, historySlot.toList],
        Text.holds slot promptOpening = false ∧ Text.holds slot promptClosing = false := by
  unfold promptAround promptOpening promptClosing planTemplate
  simp only [String.toList_append]
  unfold messageSlot historySlot
  simp only [String.reduceToList]
  decide +kernel

/-- Around one block, different messages make different prompts. -/
theorem promptAround_inj {message message' block : List Char} :
    promptAround message block = promptAround message' block ↔ message = message' := by
  unfold promptAround
  rw [List.append_cancel_left_eq, List.cons.injEq, List.append_cancel_right_eq]
  exact and_iff_right rfl

/-- The request stands in the prompt, quoted. -/
theorem quoted_infix (message block : List Char) :
    '"' :: (message ++ ['"']) <:+: promptAround message block :=
  ⟨promptOpening, [] ++ '\n' :: (block ++ '\n' :: promptClosing), by simp [promptAround]⟩

/-! ### Filling it -/

section

variable {slots : Text.Fillings}
  (hslots : ∀ s ∈ slots, s.1 ∈ [messageSlot.toList, historySlot.toList])

include hslots

/-- The slots of the prompt reach neither across a quote nor across the end of a line. -/
theorem separates_of_promptSlots {c : Char} (hc : c ∈ ['"', '\n']) : Text.Separates slots c := by
  have hnames : ∀ slot ∈ [messageSlot.toList, historySlot.toList],
      slot ≠ [] ∧ ∀ c ∈ ['"', '\n'], c ∉ slot := by
    simp [messageSlot, historySlot]
  exact ⟨fun s hs => (hnames _ (hslots s hs)).1, fun s hs => (hnames _ (hslots s hs)).2 c hc⟩

/-- What stands around the slots is not changed, whatever is put in. -/
theorem fillAllFrom_promptAround (message block : List Char) :
    Text.fillAllFrom slots 0 (promptAround message block) =
      promptAround (Text.fillAllFrom slots 0 message) (Text.fillAllFrom slots 0 block) := by
  have hquote : Text.Separates slots '"' := separates_of_promptSlots hslots (by decide)
  have hline : Text.Separates slots '\n' := separates_of_promptSlots hslots (by decide)
  have hself : ∀ part, (∀ slot ∈ [messageSlot.toList, historySlot.toList],
      Text.holds slot part = false) → Text.fillAllFrom slots 0 part = part := by
    intro part hpart
    refine Text.fillAllFrom_eq_self fun s hs hinfix => ?_
    rw [← Text.holds_iff, hpart _ (hslots s hs)] at hinfix
    cases hinfix
  -- the fixed parts hold no placeholder, and no placeholder spans the quotes around the message
  have hopening := hself promptOpening fun slot hslot => (planTemplate_eq.2 slot hslot).1
  have hclosing := hself promptClosing fun slot hslot => (planTemplate_eq.2 slot hslot).2
  unfold promptAround
  rw [Text.fillAllFrom_append_cons hquote _ (Nat.zero_le _),
    Text.fillAllFrom_append_cons hquote _ (Nat.zero_le _),
    Text.fillAllFrom_append_cons hline _ (Nat.zero_le _),
    Text.fillAllFrom_append_cons hline _ (Nat.zero_le _), hopening, hclosing]
  rfl

end

/-- Filled at once, both slots hold just what is put in. -/
theorem toList_filledPrompt (message block : String) :
    (filledPrompt message block).toList = promptAround message.toList block.toList := by
  have hslots : ∀ s ∈ [(messageSlot.toList, message.toList), (historySlot.toList, block.toList)],
      s.1 ∈ [messageSlot.toList, historySlot.toList] := by
    simp
  have hmessage : [(messageSlot.toList, message.toList), (historySlot.toList, block.toList)].find?
      (·.1.isPrefixOf messageSlot.toList) = some (messageSlot.toList, message.toList) := by
    simp [messageSlot]
  have hhistory : [(messageSlot.toList, message.toList), (historySlot.toList, block.toList)].find?
      (·.1.isPrefixOf historySlot.toList) = some (historySlot.toList, block.toList) := by
    simp [messageSlot, historySlot]
  rw [filledPrompt, String.toList_ofList, planTemplate_eq.1]
  refine (fillAllFrom_promptAround hslots _ _).trans ?_
  rw [Text.fillAllFrom_slot (by decide) hmessage, Text.fillAllFrom_slot (by decide) hhistory]

/-- One slot is filled on its own in the request and in the conversation. -/
theorem fill_promptAround {slot : String} (hslot : slot ∈ [messageSlot, historySlot])
    (filling : String) (message block : List Char) :
    Text.fill slot filling (promptAround message block) =
      promptAround (Text.fill slot filling message) (Text.fill slot filling block) := by
  have hslots : ∀ s ∈ [(slot.toList, filling.toList)],
      s.1 ∈ [messageSlot.toList, historySlot.toList] := by
    rw [List.forall_mem_singleton]
    exact List.mem_map_of_mem hslot
  simp only [Text.fill, Text.fillFrom_eq_fillAllFrom]
  exact fillAllFrom_promptAround hslots message block

/-- Filled one after the other, the slot of the request holds what filling the slot of the
conversation makes of the request. -/
theorem toList_planPrompt (message : String) (history : List HistoryEntry) :
    (planPrompt message history).toList =
      promptAround (Text.fill historySlot (historyBlock history) message.toList)
        (historyBlock history).toList := by
  have hother : Text.holds messageSlot.toList historySlot.toList = false := by
    decide +kernel
  rw [planPrompt, String.toList_ofList, planTemplate_eq.1, fill_promptAround (by simp),
    Text.fill_slot (by decide), Text.fill_eq_self hother, fill_promptAround (by simp),
    Text.fill_slot (by decide)]

/-! ### What is quoted -/

/-- The conversation starts with the end of a line, if there is one. -/
theorem head?_historyBlock (history : List HistoryEntry) :
    ∀ c ∈ (historyBlock history).toList.head?, historySlot.toList.head? ≠ some c := by
  cases history with
  | nil => exact nofun
  | cons turn r =>
    have hhead : (historyBlock (turn :: r)).toList.head? = some '\n' := by
      simp [historyBlock]
    rw [hhead]
    rintro c ⟨⟩
    decide

/-- The slot of the conversation always holds just the conversation, and the slot of the request
what filling the slot of the conversation makes of the request. So the prompt is the one that is
filled at once, and quotes the request as it is, just if the request does not name the slot of the
conversation. -/
theorem planPrompt_quotes_iff (message : String) (history : List HistoryEntry) :
    planPrompt message history = filledPrompt
        (String.ofList (Text.fill historySlot (historyBlock history) message.toList))
        (historyBlock history) ∧
      (planPrompt message history = filledPrompt message (historyBlock history) ↔
        Text.holds historySlot.toList message.toList = false) ∧
      (Text.holds historySlot.toList message.toList = false →
        Text.holds ("\"" ++ message ++ "\"").toList
          (planPrompt message history).toList = true) := by
  have hself : Text.fill historySlot (historyBlock history) message.toList = message.toList ↔
      Text.holds historySlot.toList message.toList = false :=
    Text.fill_eq_self_iff (by decide) (head?_historyBlock history)
  refine ⟨?_, ?_, fun hmessage => ?_⟩
  · rw [← String.toList_inj, toList_planPrompt, toList_filledPrompt, String.toList_ofList]
  · rw [← hself, ← String.toList_inj, toList_planPrompt, toList_filledPrompt, promptAround_inj]
  · rw [toList_planPrompt, hself.2 hmessage, Text.holds_iff]
    have hquoted : ("\"" ++ message ++ "\"").toList = '"' :: (message.toList ++ ['"']) := by
      simp
    rw [hquoted]
    exact quoted_infix _ _

/-- The name of the other slot does no harm in a request, and neither does any name in a turn. -/
theorem bracedRequest_quoted :
    Text.holds historySlot.toList "Say \x7bmessage\x7d".toList = false ∧
      Text.holds "\"Say \x7bmessage\x7d\"".toList
        (planPrompt "Say \x7bmessage\x7d" [⟨"user", "\x7bhistory\x7d"⟩]).toList = true := by
  have hslotless : Text.holds historySlot.toList "Say \x7bmessage\x7d".toList = false := by
    decide +kernel
  exact ⟨hslotless, (planPrompt_quotes_iff "Say \x7bmessage\x7d" _).2.2 hslotless⟩

/-- Without a conversation, the name of its slot is struck out of a request, which is quoted nowhere
in the prompt. -/
theorem slotRequest_unquoted :
    planPrompt "Say \x7bhistory\x7d" [] = filledPrompt "Say " (historyBlock []) ∧
      planPrompt "Say \x7bhistory\x7d" [] ≠ filledPrompt "Say \x7bhistory\x7d" (historyBlock []) ∧
      Text.holds "\"Say \x7bhistory\x7d\"".toList
        (planPrompt "Say \x7bhistory\x7d" []).toList = false := by
  have hfilled : Text.fill historySlot (historyBlock []) "Say \x7bhistory\x7d".toList =
      "Say ".toList := by
    decide +kernel
  have hprompt : (planPrompt "Say \x7bhistory\x7d" []).toList = promptAround "Say ".toList [] := by
    rw [toList_planPrompt, hfilled]
    rfl
  -- filling the slot once more changes nothing, so that the slot is not there
  have hslotless : Text.holds historySlot.toList (promptAround "Say ".toList []) = false := by
    have hsay : Text.holds historySlot.toList "Say ".toList = false := by
      decide +kernel
    rw [← Text.fill_eq_self_iff (by decide) (head?_historyBlock []), fill_promptAround (by simp),
      Text.fill_eq_self hsay, Text.fill_eq_self (by decide)]
  refine ⟨?_, ?_, ?_⟩
  · rw [← String.toList_inj, hprompt, toList_filledPrompt]
    rfl
  · rw [ne_eq, ← String.toList_inj, hprompt, toList_filledPrompt]
    exact mt promptAround_inj.1 (by decide +kernel)
  · rw [hprompt, ← Bool.not_eq_true, Text.holds_iff]
    intro hquoted
    have hslot : historySlot.toList <:+: "\"Say \x7bhistory\x7d\"".toList :=
      Text.holds_iff.1 (by decide +kernel)
    rw [Text.holds_iff.2 (hslot.trans hquoted)] at hslotless
    cases hslotless

end FlowBuilder
