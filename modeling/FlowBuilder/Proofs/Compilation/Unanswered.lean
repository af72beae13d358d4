import FlowBuilder.Proofs.Compilation.Protocol
import FlowBuilder.Proofs.Json.Reads
import FlowBuilder.Proofs.Plan.Search
import FlowBuilder.Proofs.Text.Trim

/-!
# Requests without an answer

A request is not always answered, even if the services keep their protocol: a reply to the plan
prompt that cannot be read ends the request with a fault. That is the only way; whatever the model
writes later, and whatever the store answers, the build gives a transcript.

* `compile_eq_error_iff`: which requests end with a fault.
* `answered_iff`: which requests are answered.
* `overlong_delay_unanswered`: a reply whose request is not answered.
-/

namespace FlowBuilder

variable {limits : DepthLimits} {σ : Type} {services : Collaborators σ}

/-- Each call of the services gives a value or is rejected; nothing unexpected happens. -/
structure Collaborators.KeepProtocol (services : Collaborators σ) : Prop where
  /-- The model replies or rejects the prompt. -/
  generate : ∀ prompt w f, (services.generate prompt w).1 ≠ .error (.fault f)
  /-- The store keeps what it is given or rejects it. -/
  create : ∀ call w f, (services.create call w).1 ≠ .error (.fault f)

/-- Services that recite a reply keep their protocol. -/
theorem Collaborators.keepProtocol_reciting (reply : String) :
    (Collaborators.reciting reply).KeepProtocol :=
  ⟨fun _ _ _ => nofun, fun _ _ _ => nofun⟩

/-- No call of services that keep their protocol ends with a fault. -/
theorem Collaborators.Answers.failure?_ne_fault (hprotocol : services.KeepProtocol) {w w' : σ}
    {exchanges : List Exchange} (h : services.Answers w exchanges w') (f : Fault) :
    ∀ e ∈ exchanges, e.failure? ≠ some (.fault f) := by
  -- the exchanges are the answers of the services, one after another
  induction h with
  | nil => exact fun _ he => nomatch he
  | @generated w w' prompt rest _ ih =>
    intro e he hfault
    rcases List.mem_cons.1 he with rfl | he
    · match hanswer : (services.generate prompt w).1 with
      | .ok reply => rw [hanswer] at hfault; cases hfault
      | .error g =>
        rw [hanswer] at hfault
        cases hfault
        exact hprotocol.generate prompt w f hanswer
    · exact ih e he hfault
  | @created w w' call rest _ ih =>
    intro e he hfault
    rcases List.mem_cons.1 he with rfl | he
    · match hanswer : (services.create call w).1 with
      | .ok id => rw [hanswer] at hfault; cases hfault
      | .error g =>
        rw [hanswer] at hfault
        cases hfault
        exact hprotocol.create call w f hanswer
    · exact ih e he hfault

/-- Only a fault leaves a build without an answer. -/
theorem buildAnswer_eq_error {lines : List String} {r : Except (Failure BuildError) Unit}
    {f : Fault} (h : buildAnswer lines r = .error f) : r = .error (.fault f) := by
  match r, h with
  | .error (.fault _), h =>
    cases h
    rfl

/-! ### Which requests are answered -/

/-- Where the services keep their protocol, a request ends with a fault just if the reply to the
plan prompt cannot be read. -/
theorem compile_eq_error_iff (hprotocol : services.KeepProtocol) (message owner : String)
    (history : List HistoryEntry) (world : σ) (f : Fault) :
    (compile limits services message owner history world).answer = .error f ↔
      ∃ reply, (services.generate (planPrompt message history) world).1 = .ok reply ∧
        Plan.ofReply limits reply = .error (.fault f) := by
  obtain ⟨hanswers, haccount⟩ := compile_account services message owner history world
  have hexpected := hanswers.failure?_ne_fault hprotocol
  generalize (services.generate (planPrompt message history) world).1 = first at haccount ⊢
  generalize (compile limits services message owner history world).exchanges = exchanges
    at haccount hexpected
  generalize (compile limits services message owner history world).answer = answer at haccount ⊢
  cases haccount with
  | refused detail => exact ⟨nofun, nofun⟩
  | lost g => exact absurd rfl (hexpected g _ (List.mem_singleton_self _))
  | planless text defect hplan =>
    refine ⟨nofun, ?_⟩
    rintro ⟨_, ⟨⟩, hfault⟩
    rw [hplan] at hfault
    cases hfault
  | unreadable text g hplan =>
    -- the one case in which there is no answer
    constructor
    · rintro ⟨⟩
      exact ⟨text, rfl, hplan⟩
    · rintro ⟨_, ⟨⟩, hfault⟩
      rw [hplan] at hfault
      cases hfault
      rfl
  | built text plan hplan hhistory =>
    -- the reply holds a plan, and no call of the build ends with a fault
    constructor
    · intro hanswer
      obtain ⟨e, hmem, _, g, hfailure, hg⟩ :=
        hhistory.exists_failure (buildAnswer_eq_error hanswer)
      -- the fault of the build would be that of a call
      match g, hg with
      | .fault _, hg =>
        cases hg
        exact absurd hfailure (hexpected f e (List.mem_cons_of_mem _ hmem))
    · rintro ⟨_, ⟨⟩, hfault⟩
      rw [hplan] at hfault
      cases hfault

/-- Where the services keep their protocol, a request is answered just if the reply to the plan
prompt can be read: it does not nest too deep before its first object or in it, and if this object
states emails, it states neither a type by a value that nests too deep for a warning nor an overlong
number. -/
theorem answered_iff (limits : DepthLimits) (services : Collaborators σ)
    (hprotocol : services.KeepProtocol) (message owner : String) (history : List HistoryEntry)
    (world : σ) :
    (∃ text, (compile limits services message owner history world).answer = .ok text) ↔
      ∀ reply, (services.generate (planPrompt message history) world).1 = .ok reply →
        ¬ NestsTooDeep limits.search (Glyph.ofString (reply.getD "")) ∧
          ¬ NestsTooDeepAgain limits (Glyph.ofString (reply.getD "")) ∧
          ∀ v, HoldsFirst limits.search (Glyph.ofString (reply.getD "")) v →
            ¬ (v.StatesEmails ∧ v.TypesTooDeep limits) ∧ ¬ v.StatesOverlong := by
  have hfault : ∀ f, (compile limits services message owner history world).answer = .error f ↔ _ :=
    compile_eq_error_iff hprotocol message owner history world
  have hread : ∀ reply, (¬ ∃ f, Plan.ofReply limits reply = .error (.fault f)) ↔
      ¬ NestsTooDeep limits.search (Glyph.ofString (reply.getD "")) ∧
        ¬ NestsTooDeepAgain limits (Glyph.ofString (reply.getD "")) ∧
        ∀ v, HoldsFirst limits.search (Glyph.ofString (reply.getD "")) v →
          ¬ (v.StatesEmails ∧ v.TypesTooDeep limits) ∧ ¬ v.StatesOverlong := by
    intro reply
    simp only [exists_ofReply_eq_fault_iff, not_or, not_exists, not_and]
  -- the condition says that no reply is unreadable
  simp only [← hread]
  constructor
  · rintro ⟨text, htext⟩ reply hreply ⟨f, hunread⟩
    cases htext.symm.trans ((hfault f).2 ⟨reply, hreply, hunread⟩)
  · intro hreadable
    match hanswer : (compile limits services message owner history world).answer with
    | .ok text => exact ⟨text, rfl⟩
    | .error f =>
      obtain ⟨reply, hreply, hunread⟩ := (hfault f).1 hanswer
      exact absurd ⟨f, hunread⟩ (hreadable reply hreply)

/-- The greeting is answered, so that its reply can be read. -/
theorem greetingReply_readable :
    ¬ NestsTooDeep DepthLimits.standard.search (Glyph.ofString greetingReply) ∧
      ¬ NestsTooDeepAgain .standard (Glyph.ofString greetingReply) ∧
      ∀ v, HoldsFirst DepthLimits.standard.search (Glyph.ofString greetingReply) v →
        ¬ (v.StatesEmails ∧ v.TypesTooDeep .standard) ∧ ¬ v.StatesOverlong :=
  (answered_iff .standard (.reciting greetingReply)
    (Collaborators.keepProtocol_reciting greetingReply) "Greet new customers" "ada" [] 0).1
      exists_answer_greetingRun (some greetingReply) rfl

/-! ### A reply that is not answered -/

/-- A reply with the plan of one email, whose delay is a text. -/
def delayReply (delay : String) : String :=
  "\x7b\"emails\":[\x7b\"delayDays\":\"" ++ delay ++ "\"\x7d]\x7d"

/-- The entry of the email. -/
def delayEntry (delay : String) : Json :=
  Json.ofMembers [(Glyph.ofString "delayDays", .string (Glyph.ofString delay))]

/-- The object in the reply. -/
def delayPlan (delay : String) : Json :=
  Json.ofMembers [(Glyph.ofString "emails", .array [delayEntry delay])]

/-- The glyphs of the reply, part by part. -/
theorem glyphs_delayReply (delay : String) :
    Glyph.ofString (delayReply delay) =
      .char '\x7b' :: Json.quoted "emails" (.char ':' :: .char '[' :: .char '\x7b' ::
        Json.quoted "delayDays"
          (.char ':' :: Json.quoted delay [.char '\x7d', .char ']', .char '\x7d'])) :=
  Glyph.ofString_around _ delay _

/-- Digits stand for themselves in a string. -/
theorem isPlain_of_isDigit {c : Char} (h : c.isDigit) : Json.IsPlain c := by
  obtain ⟨hlow, hhigh⟩ := toNat_of_isDigit h
  refine ⟨?_, ?_, by omega⟩
  · rintro rfl
    revert h
    decide
  · rintro rfl
    revert h
    decide

section

variable {delay : String} (hdigits : ∀ c ∈ delay.toList, c.isDigit)

include hdigits

/-- The reply is the text of the object, whatever the digits are, where three values may stand
around each other. -/
theorem reads_delayReply (depth : Nat) :
    Json.Reads (Json.value Json.asNumber (depth + 3)) (Glyph.ofString (delayReply delay))
      (delayPlan delay) [] := by
  have hplain : ∀ c ∈ delay.toList, Json.IsPlain c := fun c hc => isPlain_of_isDigit (hdigits c hc)
  have hdelayDays : ∀ c ∈ "delayDays".toList, Json.IsPlain c := by
    simp [Json.IsPlain]
  have hemails : ∀ c ∈ "emails".toList, Json.IsPlain c := by
    simp [Json.IsPlain]
  rw [glyphs_delayReply]
  -- from the inside out: the digits, the entry, the list and the object
  have hstring : Json.Reads (Json.value Json.asNumber depth)
      (Json.quoted delay [.char '\x7d', .char ']', .char '\x7d']) (.string (Glyph.ofString delay))
      [.char '\x7d', .char ']', .char '\x7d'] :=
    Json.reads_string hplain _
  have hentry : Json.Reads (Json.value Json.asNumber (depth + 1))
      (.char '\x7b' :: Json.quoted "delayDays"
        (.char ':' :: Json.quoted delay [.char '\x7d', .char ']', .char '\x7d']))
      (delayEntry delay) [.char ']', .char '\x7d'] :=
    Json.reads_object hdelayDays hstring rfl
  have hlist : Json.Reads (Json.value Json.asNumber (depth + 2))
      (.char '[' :: .char '\x7b' :: Json.quoted "delayDays"
        (.char ':' :: Json.quoted delay [.char '\x7d', .char ']', .char '\x7d']))
      (.array [delayEntry delay]) [.char '\x7d'] :=
    Json.reads_array rfl (by decide) hentry rfl
  exact Json.reads_object hemails hlist rfl

/-- The object states a delay of too many digits, if they are too many. -/
theorem statesOverlong_delayPlan (hlong : Decimal.digitLimit < delay.toList.length) :
    (delayPlan delay).StatesOverlong := by
  have htake : delay.toList.takeWhile Char.isDigit = delay.toList :=
    List.takeWhile_eq_self_iff.2 hdigits
  have hdrop : delay.toList.dropWhile Text.isBlank = delay.toList := by
    match hchars : delay.toList with
    | [] => rfl
    | d :: r =>
      rw [hchars] at hdigits
      rw [List.dropWhile_cons, isBlank_of_isDigit (hdigits d List.mem_cons_self)]
      rfl
  -- the first entry has the overlong delay
  refine ⟨[delayEntry delay], rfl, ?_, Or.inl ⟨delayEntry delay, List.mem_singleton_self _,
    Or.inr ?_⟩⟩
  · intro entry hentry
    obtain rfl := List.mem_singleton.1 hentry
    rfl
  · refine ⟨Glyph.ofString delay, rfl, ?_⟩
    rw [Glyph.ofString, Glyph.toChars_map_char, hdrop, htake]
    exact hlong

/-- Whoever asks for whatever, a request whose reply states a delay of too many digits ends with a
fault. -/
theorem compile_delayReply (hlong : Decimal.digitLimit < delay.toList.length)
    (message owner : String) (history : List HistoryEntry) (kept : Nat) :
    (compile .standard (.reciting (delayReply delay)) message owner history kept).answer =
      .error .numberTooLong := by
  have hread : Json.Reads (Json.value Json.asNumber DepthLimits.standard.decode) _ _ _ :=
    reads_delayReply hdigits 986
  rw [glyphs_delayReply] at hread
  obtain ⟨hv, hagain⟩ := holdsFirst_of_reads hread
  rw [← glyphs_delayReply] at hv hagain
  -- no types are stated
  have htypes : ¬ (delayPlan delay).TypesTooDeep .standard :=
    not_or.2 ⟨Nat.not_lt_zero _, Nat.not_lt_zero _⟩
  have hfault : Plan.ofReply .standard (some (delayReply delay)) = .error (.fault .numberTooLong) :=
    ofReply_eq_fault_iff.2 (Or.inr ⟨hagain, delayPlan delay, hv,
      Or.inr ⟨rfl, htypes, statesOverlong_delayPlan hdigits hlong⟩⟩)
  rw [compile_eq_error_iff (Collaborators.keepProtocol_reciting (delayReply delay))]
  exact ⟨some (delayReply delay), rfl, hfault⟩

end

/-- A number of one digit more than the limit. -/
def overlongDelay : String :=
  String.ofList (List.replicate (Decimal.digitLimit + 1) '9')

/-- Services that keep their protocol, and a request that is not answered. -/
theorem overlong_delay_unanswered :
    (Collaborators.reciting (delayReply overlongDelay)).KeepProtocol ∧
      ∀ text, (compile .standard (.reciting (delayReply overlongDelay)) "Greet new customers" "ada"
        [] 0).answer ≠ .ok text := by
  have hchars : overlongDelay.toList = List.replicate (Decimal.digitLimit + 1) '9' :=
    String.toList_ofList
  have hdigits : ∀ c ∈ overlongDelay.toList, c.isDigit := by
    intro c hc
    rw [hchars] at hc
    obtain rfl := List.eq_of_mem_replicate hc
    rfl
  have hlong : Decimal.digitLimit < overlongDelay.toList.length := by
    rw [hchars, List.length_replicate]
    exact Nat.lt_succ_self Decimal.digitLimit
  refine ⟨Collaborators.keepProtocol_reciting (delayReply overlongDelay), fun text htext => ?_⟩
  rw [compile_delayReply hdigits hlong] at htext
  cases htext

end FlowBuilder
