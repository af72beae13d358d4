import FlowBuilder.Record.Read
import FlowBuilder.Record.Write

/-!
# Records that are read back

Every record is read from its own JSON form, by one lemma `read_toJson` for each. The checks of a
record never refuse what the library has built, and no value loses its kind on the way. The data of
a node have three shapes, which are told apart by a key that only one of them writes and requires:
the other two readings fail (`heaviest_of_sole`).
-/

namespace FlowBuilder

/-! ### Outcomes and keys -/

namespace Checked

variable {α β : Type}

@[simp]
theorem toOption_ok (a : α) : (Checked.ok a).toOption = some a := rfl

@[simp]
theorem toOption_fail (kind : DefectKind) : (Checked.fail kind : Checked α).toOption = none := rfl

@[simp]
theorem toOption_map (f : α → β) (a : Checked α) : (f <$> a).toOption = a.toOption.map f := by
  cases a <;> rfl

@[simp]
theorem toOption_seq (f : Checked (α → β)) (a : Checked α) :
    (f <*> a).toOption = f.toOption.bind fun f => a.toOption.map f := by
  cases f <;> cases a <;> rfl

/-- Where a reading stands does not matter to its value. -/
@[simp]
theorem toOption_within (step : PathStep) (a : Checked α) :
    (a.within step).toOption = a.toOption := by
  cases a <;> rfl

end Checked

/-- An object lacks every field that it does not list. -/
theorem Json.field?_obj_eq_none {key : String} {members : List (String × Json)}
    (h : key ∉ members.map Prod.fst) : (Json.obj members).field? key = none := by
  induction members with
  | nil => rfl
  | cons m r ih =>
    obtain ⟨hne, hr⟩ := not_or.1 (mt List.mem_cons.2 h)
    rw [Json.obj, Json.field?, List.map_cons, Json.lookup?_cons_ofString, if_neg hne]
    exact ih hr

/-! ### Scalars -/

@[simp]
theorem readString_text (s : String) : readString (.text s) = .ok s := by
  rw [Json.text, readString, Glyph.toString_ofString]

@[simp]
theorem readNat_nat (n : Nat) : readNat (.nat n) = .ok n := by
  simp [readNat, Json.nat, readInt, Checked.andThen]

@[simp]
theorem readPositive_nat (kind : DefectKind) (n : Positive) :
    readPositive kind (.nat n.val) = .ok n := by
  simp [readPositive, Json.nat, readInt, Checked.andThen, n.property]

/-- A number that can be written out is read from its digits. -/
@[simp]
theorem readNumeral_nat (n : Decimal.Numeral) : readNumeral (.nat n.val) = .ok n := by
  rw [readNumeral, readNat_nat, Checked.andThen, dif_pos n.property]

/-- A place is read from its number. -/
@[simp]
theorem readPlace_nat (place : Place) : readPlace (.nat place.val) = .ok place := by
  rw [readPlace, show Json.nat place.val = .nat place.toPositive.val from rfl, readPositive_nat]
  exact dif_pos place.property.2

/-- A member of an enumeration is read from its value. -/
theorem readMember_text {α : Type} {ofValue? : String → Option α} {s : String} {a : α}
    (h : ofValue? s = some a) : readMember ofValue? (.text s) = .ok a := by
  rw [Json.text, readMember, ofOrdinary_ofString, String.ofList_toList, h]

@[simp]
theorem readMember_triggerType (t : TriggerType) :
    readMember TriggerType.ofValue? (.text t.value) = .ok t :=
  readMember_text (TriggerType.ofValue?_value t)

@[simp]
theorem readMember_flowType (t : FlowType) :
    readMember FlowType.ofValue? (.text t.value) = .ok t :=
  readMember_text (FlowType.ofValue?_value t)

@[simp]
theorem readMember_flowStatus (s : FlowStatus) :
    readMember FlowStatus.ofValue? (.text s.value) = .ok s :=
  readMember_text (FlowStatus.ofValue?_value s)

@[simp]
theorem readMember_nodeKind (k : NodeKind) :
    readMember NodeKind.ofValue? (.text k.value) = .ok k :=
  readMember_text (NodeKind.ofValue?_value k)

@[simp]
theorem readMember_comparison (c : Comparison) :
    readMember Comparison.ofValue? (.text c.value) = .ok c :=
  readMember_text (Comparison.ofValue?_value c)

/-- A text that may be absent is read back. -/
@[simp]
theorem readOptionalString_optionalText (s : Option String) :
    readOptionalString (optionalText s) = .ok s := by
  cases s with
  | none => rfl
  | some s => simp [optionalText, readOptionalString, Json.text, readString, Checked.map]

/-- Entries are read back if each of them is. -/
theorem readEntries_map {α : Type} {read : Json → Checked α} {write : α → Json}
    (h : ∀ a, read (write a) = .ok a) (i : Nat) (as : List α) :
    readEntries read i (as.map write) = .ok as := by
  induction as generalizing i with
  | nil => rfl
  | cons a r ih => simp [readEntries, h, ih]

/-- A list is read back if each of its entries is. -/
theorem readList_map {α : Type} {read : Json → Checked α} {write : α → Json}
    (h : ∀ a, read (write a) = .ok a) (as : List α) :
    readList read (.array (as.map write)) = .ok as :=
  readEntries_map h 0 as

/-! ### Plans -/

/-- A step of a plan is read back. -/
@[simp]
theorem EmailStep.read_toJson (s : EmailStep) : EmailStep.read s.toJson = .ok s := by
  simp [EmailStep.read, EmailStep.toJson, readRecord, readObject, Json.obj, requiredField,
    optionalField, textField, firstKey?]

/-- The steps of a plan are read back. -/
theorem readSteps_toJson {steps : List EmailStep} (h : steps ≠ []) :
    readSteps (.array (steps.map (·.toJson))) = .ok ⟨steps, h⟩ := by
  rw [readSteps, readList, readEntries_map EmailStep.read_toJson, Checked.andThen, dif_pos h]

/-- A plan passes its own checks. -/
theorem Plan.ofFields_self (p : Plan) :
    Plan.ofFields p.flowType p.flowName p.description p.triggerType p.targetAudience
      ⟨p.emails, p.nonempty⟩ = .ok p := by
  rw [Plan.ofFields]
  exact dif_pos p.numbered

/-- A plan is read back. -/
@[simp]
theorem Plan.read_toJson (p : Plan) : Plan.read p.toJson = .ok p := by
  have hsteps := readSteps_toJson p.nonempty
  simp [Plan.read, Plan.toJson, readRecord, readObject, Json.obj, requiredField, optionalField,
    textField, firstKey?, hsteps, Plan.ofFields_self, Checked.andThen]

/-! ### Audiences -/

/-- The value of a condition is read back as the same kind of value. -/
@[simp]
theorem ConditionValue.read_toJson (v : ConditionValue) : ConditionValue.read v.toJson = .ok v := by
  cases v <;> rfl

/-- A condition is read back. -/
@[simp]
theorem Condition.read_toJson (c : Condition) : Condition.read c.toJson = .ok c := by
  simp [Condition.read, Condition.toJson, readRecord, readObject, Json.obj, requiredField,
    firstKey?]

@[simp]
theorem readList_conditionsJson (conditions : List Condition) :
    readList Condition.read (conditionsJson conditions) = .ok conditions :=
  readList_map Condition.read_toJson conditions

/-- A rule for an audience is read back. -/
@[simp]
theorem AudienceRule.read_toJson (r : AudienceRule) : AudienceRule.read r.toJson = .ok r := by
  simp [AudienceRule.read, AudienceRule.toJson, readRecord, readObject, Json.obj, conditionsField,
    optionalField, textField, firstKey?]

/-- The audience of a trigger is read back. -/
@[simp]
theorem TriggerAudience.read_toJson (a : TriggerAudience) :
    TriggerAudience.read a.toJson = .ok a := by
  simp [TriggerAudience.read, TriggerAudience.toJson, readRecord, readObject, Json.obj,
    conditionsField, optionalField, textField, firstKey?]

/-! ### Content -/

@[simp]
theorem readBool_bool (b : Bool) : readBool (.bool b) = .ok b := rfl

/-- The content of an email is read back. -/
@[simp]
theorem EmailContent.read_toJson (c : EmailContent) : EmailContent.read c.toJson = .ok c := by
  simp [EmailContent.read, EmailContent.toJson, readRecord, readObject, Json.obj, requiredField,
    optionalField, firstKey?]

/-- A written step is read back. -/
@[simp]
theorem WrittenStep.read_toJson (s : WrittenStep) : WrittenStep.read s.toJson = .ok s := by
  simp [WrittenStep.read, WrittenStep.toJson, readRecord, readObject, Json.obj, requiredField,
    optionalField, firstKey?]

/-! ### The data of nodes -/

@[simp]
theorem readFloat_float (x : Float) : readFloat (.float x) = .ok x := rfl

@[simp]
theorem readInt_int (n : Int) : readInt (.int n) = .ok n := rfl

/-- A position is read back. -/
@[simp]
theorem Position.read_toJson (p : Position) : Position.read p.toJson = .ok p := by
  simp [Position.read, Position.toJson, readRecord, readObject, Json.obj, requiredField, firstKey?]

@[simp]
theorem TriggerData.read_toJson (d : TriggerData) : TriggerData.read d.toJson = .ok d := by
  simp [TriggerData.read, TriggerData.toJson, readRecord, readObject, Json.obj, conditionsField,
    requiredField, optionalField, textField, firstKey?]

@[simp]
theorem DelayData.read_toJson (d : DelayData) : DelayData.read d.toJson = .ok d := by
  simp [DelayData.read, DelayData.toJson, readRecord, readObject, Json.obj, requiredField,
    optionalField, firstKey?]

@[simp]
theorem EmailData.read_toJson (d : EmailData) : EmailData.read d.toJson = .ok d := by
  simp [EmailData.read, EmailData.toJson, readRecord, readObject, Json.obj, requiredField,
    firstKey?]

/-! ### The shapes of a node's data -/

section Heaviest

variable {α : Type} {weight : Nat} {a : α}

/-- A reading that has succeeded is kept if all others fail. -/
theorem heaviestFrom_some_of_failed {readings : List (Nat × Checked α)}
    (h : ∀ r ∈ readings, r.2.toOption = none) (defects : List Defect) :
    heaviestFrom (some (weight, a)) defects readings = .ok a := by
  -- a reading that failed only adds to the defects, of which nothing is left
  induction readings generalizing defects with
  | nil => rfl
  | cons r rest ih =>
    obtain ⟨hfailed, hrest⟩ := List.forall_mem_cons.1 h
    obtain ⟨w, b | ds⟩ := r
    · simp at hfailed
    · exact ih hrest (defects ++ ds)

/-- The only reading that succeeds is taken. -/
theorem heaviestFrom_none_of_sole {before after : List (Nat × Checked α)}
    (hbefore : ∀ r ∈ before, r.2.toOption = none) (hafter : ∀ r ∈ after, r.2.toOption = none)
    (defects : List Defect) :
    heaviestFrom none defects (before ++ (weight, .ok a) :: after) = .ok a := by
  -- on the readings before the one that succeeds, whatever defects they add
  induction before generalizing defects with
  | nil => exact heaviestFrom_some_of_failed hafter defects
  | cons r rest ih =>
    obtain ⟨hfailed, hrest⟩ := List.forall_mem_cons.1 hbefore
    obtain ⟨w, b | ds⟩ := r
    · simp at hfailed
    · exact ih hrest (defects ++ ds)

/-- Where a single reading succeeds, it is taken, whatever its weight. -/
theorem heaviest_of_sole (before after : List (Nat × Checked α))
    (hbefore : ∀ r ∈ before, r.2.toOption = none) (hafter : ∀ r ∈ after, r.2.toOption = none) :
    heaviest (before ++ (weight, .ok a) :: after) = .ok a :=
  heaviestFrom_none_of_sole hbefore hafter []

end Heaviest

/-- Data without their type of trigger are not those of a trigger. -/
theorem TriggerData.toOption_read_of_missing {j : Json} (h : j.field? "trigger_type" = none) :
    (TriggerData.read j).toOption = none := by
  cases j with
  | object m => simp_all [TriggerData.read, readRecord, readObject, Json.field?, requiredField,
      firstKey?]
  | _ => rfl

/-- Data without a number of days are not those of a delay. -/
theorem DelayData.toOption_read_of_missing {j : Json} (h : j.field? "delay_days" = none) :
    (DelayData.read j).toOption = none := by
  cases j with
  | object m => simp_all [DelayData.read, readRecord, readObject, Json.field?, requiredField,
      firstKey?]
  | _ => rfl

/-- Data without a template are not those of an email. -/
theorem EmailData.toOption_read_of_missing {j : Json} (h : j.field? "email_template_id" = none) :
    (EmailData.read j).toOption = none := by
  cases j with
  | object m => simp_all [EmailData.read, readRecord, readObject, Json.field?, requiredField,
      firstKey?]
  | _ => rfl

/-- The data of a node are read back as the same kind of data. -/
@[simp]
theorem NodeData.read_toJson (d : NodeData) : NodeData.read d.toJson = .ok d := by
  -- each of the other two shapes requires a key that this one does not write
  cases d with
  | trigger d =>
    have hdelay : (DelayData.read d.toJson).toOption = none :=
      DelayData.toOption_read_of_missing (Json.field?_obj_eq_none (by simp))
    have hemail : (EmailData.read d.toJson).toOption = none :=
      EmailData.toOption_read_of_missing (Json.field?_obj_eq_none (by simp))
    rw [NodeData.read, NodeData.toJson, TriggerData.read_toJson]
    exact heaviest_of_sole [] [_, _] (by simp) (by simp [hdelay, hemail])
  | delay d =>
    have htrigger : (TriggerData.read d.toJson).toOption = none :=
      TriggerData.toOption_read_of_missing (Json.field?_obj_eq_none (by simp))
    have hemail : (EmailData.read d.toJson).toOption = none :=
      EmailData.toOption_read_of_missing (Json.field?_obj_eq_none (by simp))
    rw [NodeData.read, NodeData.toJson, DelayData.read_toJson]
    exact heaviest_of_sole [_] [_] (by simp [htrigger]) (by simp [hemail])
  | email d =>
    have htrigger : (TriggerData.read d.toJson).toOption = none :=
      TriggerData.toOption_read_of_missing (Json.field?_obj_eq_none (by simp))
    have hdelay : (DelayData.read d.toJson).toOption = none :=
      DelayData.toOption_read_of_missing (Json.field?_obj_eq_none (by simp))
    rw [NodeData.read, NodeData.toJson, EmailData.read_toJson]
    exact heaviest_of_sole [_, _] [] (by simp [htrigger, hdelay]) (by simp)

/-! ### Graphs -/

/-- A node is read back. -/
@[simp]
theorem Node.read_toJson (n : Node) : Node.read n.toJson = .ok n := by
  simp [Node.read, Node.toJson, readRecord, readObject, Json.obj, requiredField, firstKey?]

/-- An edge is read back. -/
@[simp]
theorem Edge.read_toJson (e : Edge) : Edge.read e.toJson = .ok e := by
  simp [Edge.read, Edge.toJson, readRecord, readObject, Json.obj, requiredField, firstKey?]

/-- A graph is read back. -/
@[simp]
theorem FlowGraph.read_toJson (g : FlowGraph) : FlowGraph.read g.toJson = .ok g := by
  have hnodes := readList_map Node.read_toJson g.nodes
  have hedges := readList_map Edge.read_toJson g.edges
  simp [FlowGraph.read, FlowGraph.toJson, readRecord, readObject, Json.obj, optionalField,
    firstKey?, hnodes, hedges]

/-- A flow is read back. -/
@[simp]
theorem FlowRecord.read_toJson (f : FlowRecord) : FlowRecord.read f.toJson = .ok f := by
  simp [FlowRecord.read, FlowRecord.toJson, readRecord, readObject, Json.obj, requiredField,
    optionalField, textField, firstKey?]

/-! ### Requests -/

section Requests

variable (kind : DefectKind)

/-- A turn of a conversation is read back. -/
@[simp]
theorem Turn.readAs_toJson (t : Turn) : Turn.readAs kind t.toJson = .ok t := by
  simp [Turn.readAs, Turn.toJson, readObject, Json.obj, requiredField, firstKey?]

theorem readMessage_text {s : String} (h : s ≠ "") : readMessage (.text s) = .ok ⟨s, h⟩ := by
  simp [readMessage, Json.text, h]

/-- A request for a flow is read back. -/
@[simp]
theorem FlowRequest.readAs_toJson (r : FlowRequest) : FlowRequest.readAs kind r.toJson = .ok r := by
  obtain ⟨message, history, hmessage⟩ := r
  have hread := readMessage_text hmessage
  cases history with
  | none =>
    simp [FlowRequest.readAs, FlowRequest.toJson, readObject, Json.obj, requiredField,
      optionalField, firstKey?, hread, readHistory]
  | some turns =>
    have hturns := readList_map (Turn.readAs_toJson kind) turns
    simp [FlowRequest.readAs, FlowRequest.toJson, readObject, Json.obj, requiredField,
      optionalField, firstKey?, hread, readHistory, hturns]

/-- A response is read back. -/
@[simp]
theorem FlowResponse.read_toJson (r : FlowResponse) : FlowResponse.read r.toJson = .ok r := by
  simp [FlowResponse.read, FlowResponse.toJson, readRecord, readObject, Json.obj, requiredField,
    firstKey?]

end Requests

end FlowBuilder
