/-!
# Failures

Everything that can go wrong, by cause. A `BuildError` is a failure that a build expects: it has a
wording and is told to the requester. A `Fault` is a defect of an input or of an answer from outside
that no step of a build looks for. A `Failure` is an expected one of some type, or a fault.
-/

namespace FlowBuilder

/-- Why a reply holds no usable plan. -/
inductive PlanDefect where
  /-- No part of the reply is a JSON object. -/
  | noObject
  /-- The plan has no list of emails, or an empty one. -/
  | noSteps
  /-- An email of the plan is not an object; `shown` is its text. -/
  | stepNotObject (shown : String)
  deriving DecidableEq, Repr

/-- Why a graph is not a chain that starts at its one trigger. -/
inductive GraphDefect where
  /-- Two nodes have one id. -/
  | duplicateIds
  /-- The graph has `count` triggers. -/
  | triggerCount (count : Nat)
  /-- A chain of `nodes` nodes has one edge less, and not `edges`. -/
  | edgeCount (nodes edges : Nat)
  /-- An edge leaves or enters a node that the graph does not have. -/
  | unknownEnd (edge : String)
  /-- Two edges leave a node. -/
  | branch (node : String)
  /-- Two edges enter a node. -/
  | merge (node : String)
  /-- An edge enters the trigger. -/
  | triggerEntered
  /-- The way from the trigger comes back to a node. -/
  | cycle
  /-- The way from the trigger does not reach every node. -/
  | unreachable
  deriving DecidableEq, Repr

/-- The services outside of the library on which a build calls. -/
inductive Collaborator where
  /-- The model that writes plans and emails. -/
  | textCompletion
  /-- The database that keeps segments, templates and flows. -/
  | store
  deriving DecidableEq, Repr

/-- A failure that a build expects. -/
inductive BuildError where
  /-- The model's reply holds no usable plan. -/
  | malformedPlan (defect : PlanDefect)
  /-- A flow with this quoted name has no emails. -/
  | emptyPlan (quotedName : String)
  /-- The graph is not a chain. -/
  | invalidGraph (defect : GraphDefect)
  /-- A collaborator rejected a call. -/
  | callFailed (collaborator : Collaborator) (detail : String)
  deriving DecidableEq, Repr

/-- A failure that no step of a build expects. -/
inductive Fault where
  /-- A whole number has too many digits to be read or written. -/
  | numberTooLong
  /-- Values nest too deep to be read or shown. -/
  | nestingTooDeep
  /-- The text of an object that was read within a reply is no JSON on its own. -/
  | objectNotJson
  /-- An edge of a schedule leads to a node that the graph does not have. -/
  | unknownNode
  /-- A node's data lack what a node of its kind states. -/
  | missingData
  /-- The edges from the start of a schedule lead round and round. -/
  | endlessWalk
  /-- An inserted row comes back without an id. -/
  | rowWithoutId
  /-- The answer to an insertion is an object, which has no first row. -/
  | noFirstRow
  /-- The answer to an insertion is neither a list nor an object, or its first row is no object. -/
  | notRows
  /-- A time in a token's claims is neither a number nor text. -/
  | timeNotNumber
  /-- A time in a token's claims is infinite. -/
  | timeInfinite
  /-- The secret states a key that does not sign. -/
  | unusableKey
  /-- The secret is a set of keys that is no list. -/
  | keysNotList
  /-- The secret states a key with a lone surrogate, which has no bytes. -/
  | keyNotEncodable
  /-- The secret is a key whose bytes are not stated as text. -/
  | keyNotText
  /-- The secret is a key whose bytes cannot be decoded. -/
  | keyNotDecodable
  deriving DecidableEq, Repr

/-- A failure of an expected type, or a fault. -/
inductive Failure (ε : Type) where
  /-- One that is expected. -/
  | error (e : ε)
  /-- One that is not. -/
  | fault (f : Fault)
  deriving DecidableEq, Repr

/-- A computation of two steps gives a value just when both steps do. -/
theorem bind_eq_ok {ε α β : Type} {x : Except ε α} {f : α → Except ε β} {b : β} :
    (x >>= f) = .ok b ↔ ∃ a, x = .ok a ∧ f a = .ok b := by
  cases x with
  | error e => exact ⟨nofun, nofun⟩
  | ok a => exact ⟨fun h => ⟨a, rfl, h⟩, fun ⟨_, ha, hb⟩ => by cases ha; exact hb⟩

/-- A computation of two steps fails just when the first step fails or the second does. -/
theorem bind_eq_error {ε α β : Type} {x : Except ε α} {f : α → Except ε β} {e : ε} :
    (x >>= f) = .error e ↔ x = .error e ∨ ∃ a, x = .ok a ∧ f a = .error e := by
  cases x with
  | error e' =>
    refine ⟨fun h => Or.inl (congrArg _ (Except.error.inj h)), ?_⟩
    rintro (h | ⟨a, h, -⟩)
    · exact congrArg _ (Except.error.inj h)
    · cases h
  | ok a =>
    refine ⟨fun h => Or.inr ⟨a, rfl, h⟩, ?_⟩
    rintro (h | ⟨b, h, hb⟩)
    · cases h
    · cases h
      exact hb

/-- A computation that is told to give a certain value gives it. -/
theorem eq_ok_of_toOption {ε α : Type} {x : Except ε α} {a : α} (h : x.toOption = some a) :
    x = .ok a := by
  cases x with
  | error e => cases h
  | ok b => exact congrArg Except.ok (Option.some.inj h)

/-- A computation that is told to give a value gives one. -/
theorem exists_eq_ok_of_isSome {ε α : Type} {x : Except ε α} (h : x.toOption.isSome) :
    ∃ a, x = .ok a := by
  cases x with
  | error e => cases h
  | ok a => exact ⟨a, rfl⟩

/-- What comes of a computation that nothing but a fault can end. -/
def orFault {ε α : Type} (x : Except Fault α) : Except (Failure ε) α :=
  x.mapError .fault

section

variable {ε α : Type} {x : Except Fault α}

/-- A result that may be a fault keeps its value. -/
@[simp]
theorem orFault_eq_ok_iff {a : α} : (orFault x : Except (Failure ε) α) = .ok a ↔ x = .ok a := by
  cases x with
  | error f => exact ⟨nofun, nofun⟩
  | ok b =>
    constructor
    · intro h
      rw [Except.ok.inj h]
    · intro h
      rw [h]
      rfl

/-- Its fault is kept as well. -/
@[simp]
theorem orFault_eq_fault_iff {f : Fault} :
    (orFault x : Except (Failure ε) α) = .error (.fault f) ↔ x = .error f := by
  cases x with
  | error g =>
    constructor
    · intro h
      rw [Failure.fault.inj (Except.error.inj h)]
    · intro h
      rw [h]
      rfl
  | ok b => exact ⟨nofun, nofun⟩

/-- It never fails otherwise. -/
@[simp]
theorem orFault_ne_error {e : ε} : (orFault x : Except (Failure ε) α) ≠ .error (.error e) := by
  intro h
  cases x with
  | error f => cases Except.error.inj h
  | ok b => cases h

end

/-- The wording of a plan defect. -/
def PlanDefect.message : PlanDefect → String
  | .noObject => "No JSON object found in model response"
  | .noSteps => "Plan has no email steps"
  | .stepNotObject shown => "Email step is not an object: " ++ shown

/-- The wording of a graph defect. -/
def GraphDefect.message : GraphDefect → String
  | .duplicateIds => "Duplicate node ids"
  | .triggerCount count => "Expected exactly one trigger node, found " ++ toString count
  | .edgeCount nodes edges =>
    toString nodes ++ " nodes need " ++ toString (nodes - 1) ++ " edges, found " ++ toString edges
  | .unknownEnd edge => "Edge " ++ edge ++ " references an unknown node"
  | .branch node => "Node " ++ node ++ " branches"
  | .merge node => "Node " ++ node ++ " has more than one incoming edge"
  | .triggerEntered => "Trigger node has an incoming edge"
  | .cycle => "Flow graph contains a cycle"
  | .unreachable => "Some nodes are not reachable from the trigger"

/-- The name of a collaborator. -/
def Collaborator.name : Collaborator → String
  | .textCompletion => "text completion"
  | .store => "store"

/-- The wording of a build error. -/
def BuildError.message : BuildError → String
  | .malformedPlan defect => defect.message
  | .emptyPlan quotedName => "Flow " ++ quotedName ++ " has no email steps"
  | .invalidGraph defect => defect.message
  | .callFailed collaborator detail => collaborator.name ++ ": " ++ detail

end FlowBuilder
