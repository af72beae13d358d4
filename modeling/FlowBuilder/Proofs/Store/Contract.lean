import Mathlib.Data.List.Forall2
import FlowBuilder.Proofs.Compilation.Unanswered
import FlowBuilder.Session

/-!
# The contract of the store

A build expects two things of a call to the store: the id of what is kept, or a failure of the
store, which it tells to the requester. Anything else stops it without an answer.

Every call hands over one row, and whether it keeps to this depends on the database's reply alone:
it does just if the reply is a rejection, stands for nothing, or lists a first row with an id
(`isIdOrStoreFailure_insertedId_iff`). A reply of another form is read as rows all the same, and
fails in the reading.

* `insertedId_eq_ok_iff`, `insertedId_eq_error_iff`: which id is given, and which failure.
* `keepAll_idOrStoreFailure`: any number of calls one after another.
* `keepProtocol_numberedServices_iff`: the replies with which every request is served as expected.
-/

namespace FlowBuilder

/-! ### One call -/

/-- A call to the store gives an id, or fails as a failure of the store. -/
def IsIdOrStoreFailure (answer : Except (Failure BuildError) String) : Prop :=
  (∃ id, answer = .ok id) ∨ ∃ detail, answer = .error (.error (.callFailed .store detail))

/-- The first of some rows has an id, which there is room to show. -/
def Json.StatesId (room : Nat) (data : Json) : Prop :=
  ∃ row rest id text, data = .array (.object row :: rest) ∧ Json.lookup? "id" row = some id ∧
    id.display room = .ok text

/-- The database rejects a row, answers with nothing, or with rows of which the first has an id that
can be shown. -/
def IsUsableReply (room : Nat) : InsertReply → Prop
  | .error _ => True
  | .ok data => data.isVoid ∨ data.StatesId room

variable {room : Nat}

/-- The id that is read off some rows is the text of the first one's. -/
theorem firstRowId_eq_ok_iff {data : Json} {text : String} :
    firstRowId room data = .ok text ↔ ∃ row rest id, data = .array (.object row :: rest) ∧
      Json.lookup? "id" row = some id ∧ id.display room = .ok text := by
  constructor
  · intro h
    match data, h with
    | .array (.object row :: rest), h =>
      cases hid : Json.lookup? "id" row with
      | none => simp [firstRowId, hid] at h
      | some id => exact ⟨row, rest, id, rfl, hid, by simpa [firstRowId, hid] using h⟩
  · rintro ⟨row, rest, id, rfl, hid, htext⟩
    simpa [firstRowId, hid] using htext

/-- What is answered to rows is read off the first one, unless they stand for nothing. -/
theorem insertedId_ok (table : Table) (data : Json) :
    insertedId room table (.ok data) =
      if data.isVoid then .error (.error ("Insert into " ++ table.name ++ " returned no data"))
      else orFault (firstRowId room data) := rfl

variable {table : Table} {reply : InsertReply}

/-- An id is given just for rows of which the first has one that can be shown. -/
theorem insertedId_eq_ok_iff {text : String} :
    insertedId room table reply = .ok text ↔ ∃ row rest id,
      reply = .ok (.array (.object row :: rest)) ∧ Json.lookup? "id" row = some id ∧
        id.display room = .ok text := by
  cases reply with
  | error detail => simp [insertedId]
  | ok data =>
    rw [insertedId_ok]
    split
    next hvoid =>
      -- rows are not nothing
      refine ⟨nofun, ?_⟩
      rintro ⟨row, rest, id, hdata, -⟩
      cases hdata
      cases hvoid
    next => simp [firstRowId_eq_ok_iff]

/-- The failures of the store are the rejections and the answers with nothing. -/
theorem insertedId_eq_error_iff {detail : String} :
    insertedId room table reply = .error (.error detail) ↔
      (∃ reason, reply = .error reason ∧
        detail = "Failed to insert into " ++ table.name ++ ": " ++ reason) ∨
      ∃ data, reply = .ok data ∧ data.isVoid ∧
        detail = "Insert into " ++ table.name ++ " returned no data" := by
  constructor
  · intro h
    match reply, h with
    | .error reason, h =>
      cases h
      exact .inl ⟨reason, rfl, rfl⟩
    | .ok data, h =>
      rw [insertedId_ok] at h
      -- with rows returned there is an id or a fault, never a refusal
      split at h
      next hvoid =>
        cases h
        exact .inr ⟨data, rfl, hvoid, rfl⟩
      next => exact absurd h orFault_ne_error
  · rintro (⟨reason, rfl, rfl⟩ | ⟨data, rfl, hvoid, rfl⟩)
    · rfl
    · rw [insertedId_ok, if_pos hvoid]

/-- The failures of the store are all that it reports of itself. -/
theorem isIdOrStoreFailure_mapError {answer : Except (Failure String) String} :
    IsIdOrStoreFailure (answer.mapError (callFailure .store)) ↔
      (∃ id, answer = .ok id) ∨ ∃ detail, answer = .error (.error detail) := by
  match answer with
  | .ok id => simp [IsIdOrStoreFailure, Except.mapError]
  | .error (.error detail) => simp [IsIdOrStoreFailure, Except.mapError, callFailure]
  | .error (.fault f) => simp [IsIdOrStoreFailure, Except.mapError, callFailure]

/-- What is neither an id nor a failure of the store is a fault. -/
theorem isIdOrStoreFailure_iff_ne_fault {answer : Except (Failure String) String} :
    IsIdOrStoreFailure (answer.mapError (callFailure .store)) ↔
      ∀ f, answer ≠ .error (.fault f) := by
  rw [isIdOrStoreFailure_mapError]
  match answer with
  | .ok id => simp
  | .error (.error detail) => simp
  | .error (.fault f) => simp

/-- A call keeps the contract just if the reply can be used. -/
theorem isIdOrStoreFailure_insertedId_iff :
    IsIdOrStoreFailure ((insertedId room table reply).mapError (callFailure .store)) ↔
      IsUsableReply room reply := by
  rw [isIdOrStoreFailure_mapError]
  simp only [insertedId_eq_ok_iff, insertedId_eq_error_iff]
  cases reply with
  | error reason => simp [IsUsableReply]
  | ok data =>
    simp only [IsUsableReply, Json.StatesId, Except.ok.injEq, reduceCtorEq, false_and,
      exists_false, false_or]
    constructor
    · rintro (⟨text, row, rest, id, hdata, hid, htext⟩ | ⟨detail, _, rfl, hvoid, -⟩)
      · exact Or.inr ⟨row, rest, id, text, hdata, hid, htext⟩
      · exact Or.inl hvoid
    · rintro (hvoid | ⟨row, rest, id, text, hdata, hid, htext⟩)
      · exact Or.inr ⟨_, data, rfl, hvoid, rfl⟩
      · exact Or.inl ⟨text, row, rest, id, hdata, hid, htext⟩

/-! ### Any number of calls -/

variable (room : Nat) (now : Nat → String) (inserts : Nat → InsertReply)

/-- A call hands over its row, and is answered by the next reply. -/
theorem insertRow_eq (call : StoreCall) (w : World) :
    insertRow room now inserts call w =
      (insertedId room (call.row (now w.rows.length)).table (inserts w.rows.length),
        { w with rows := w.rows ++ [call.row (now w.rows.length)] }) := rfl

/-- The calls behind the first one are made in the world that it leaves. -/
theorem keepAll_cons (w : World) (call : StoreCall) (rest : List StoreCall) :
    keepAll room now inserts w (call :: rest) =
      ((insertRow room now inserts call w).1 ::
          (keepAll room now inserts (insertRow room now inserts call w).2 rest).1,
        (keepAll room now inserts (insertRow room now inserts call w).2 rest).2) := rfl

/-- The rows of some calls, each at the time of its own number; `n` rows stand before them. -/
def rowsOf (n : Nat) (calls : List StoreCall) : List Row :=
  calls.mapIdx fun i call => call.row (now (n + i))

@[simp]
theorem rowsOf_nil (n : Nat) : rowsOf now n [] = [] := rfl

/-- The first row is at the time of its number, and the others at later ones. -/
theorem rowsOf_cons (n : Nat) (call : StoreCall) (rest : List StoreCall) :
    rowsOf now n (call :: rest) = call.row (now n) :: rowsOf now (n + 1) rest := by
  simp [rowsOf, List.mapIdx_cons, Nat.add_assoc, Nat.add_comm 1]

/-- The row of a call is at the time of its own number. -/
theorem getElem?_rowsOf (n : Nat) (calls : List StoreCall) (i : Nat) :
    (rowsOf now n calls)[i]? = calls[i]?.map (·.row (now (n + i))) :=
  List.getElem?_mapIdx

/-- Calls leave nothing behind but their rows, one for each, in order. -/
theorem keepAll_world (w : World) (calls : List StoreCall) :
    (keepAll room now inserts w calls).2 =
      { w with rows := w.rows ++ rowsOf now w.rows.length calls } := by
  -- a row is handed over before its answer is looked at, so that the answers do not matter
  induction calls generalizing w with
  | nil => simp [keepAll, rowsOf]
  | cons call rest ih =>
    rw [keepAll_cons, ih, insertRow_eq, rowsOf_cons]
    simp

/-- Each of several calls is answered from the reply to its own row. -/
theorem forall₂_keepAll (w : World) (calls : List StoreCall) :
    List.Forall₂
      (fun reply answer => ∃ table, answer = insertedId room table reply)
      ((List.range' w.rows.length calls.length).map inserts)
      (keepAll room now inserts w calls).1 := by
  induction calls generalizing w with
  | nil => exact .nil
  | cons call rest ih =>
    -- the replies to the rest start behind the row of the first call
    have hrest := ih (insertRow room now inserts call w).2
    rw [insertRow_eq, List.length_append, List.length_singleton] at hrest
    rw [keepAll_cons, List.length_cons, List.range'_succ, List.map_cons]
    exact .cons ⟨_, rfl⟩ hrest

/-- Any number of calls, made one after another, insert one row each, and each is answered from the
reply to its row: it gives an id or fails as a failure of the store just if that reply is a
rejection, stands for nothing, or lists a first row with an id that can be shown. -/
theorem keepAll_idOrStoreFailure (w : World) (calls : List StoreCall) :
    (keepAll room now inserts w calls).2.rows = w.rows ++ rowsOf now w.rows.length calls ∧
      List.Forall₂
        (fun reply answer =>
          IsIdOrStoreFailure (answer.mapError (callFailure .store)) ↔ IsUsableReply room reply)
        ((List.range' w.rows.length calls.length).map inserts)
        (keepAll room now inserts w calls).1 := by
  refine ⟨by rw [keepAll_world], (forall₂_keepAll room now inserts w calls).imp ?_⟩
  rintro reply answer ⟨table, rfl⟩
  exact isIdOrStoreFailure_insertedId_iff

/-- A template whose row comes back without its id is neither kept under an id nor a failure. -/
theorem idless_row_breaks_contract :
    ∃ answer,
      (keepAll DepthLimits.standard.display (fun _ => "2024-01-02T03:04:05.678901+00:00")
        (fun _ => .ok (.array [.obj [("name", .text "Welcome - Email 1")]])) {}
        [.template "ada" "Welcome - Email 1" "Hello" "<p>Hello</p>" "welcome" "Greet"]).1 =
          [answer] ∧
      answer = .error (.fault .rowWithoutId) ∧
      ¬ IsIdOrStoreFailure (answer.mapError (callFailure .store)) := by
  refine ⟨.error (.fault .rowWithoutId), ?_, rfl, ?_⟩
  · simp [keepAll, insertRow_eq, insertedId_ok, Json.isVoid, firstRowId, Json.obj, orFault,
      Except.mapError]
  · rw [isIdOrStoreFailure_iff_ne_fault]
    exact fun h => h .rowWithoutId rfl

/-! ### Services -/

/-- Every reply of the model gives a text or a failure. -/
theorem completionText_ne_fault (reply : CompletionReply) (f : Fault) :
    completionText reply ≠ .error (.fault f) := by
  match reply with
  | .error detail => nofun
  | .ok [] => nofun
  | .ok (text :: _) => nofun

/-- The services keep their protocol just if the database's replies can all be used. -/
theorem keepProtocol_numberedServices_iff (replies : Nat → CompletionReply) :
    (numberedServices room now replies inserts).KeepProtocol ↔
      ∀ n, IsUsableReply room (inserts n) := by
  constructor
  · intro h n
    -- any reply answers some call: the one after as many rows
    let call : StoreCall := .template "" "" "" "" "" ""
    have hcreate := h.create call ⟨[], List.replicate n (call.row (now n))⟩
    rw [← isIdOrStoreFailure_iff_ne_fault] at hcreate
    simpa [numberedServices, insertRow_eq, isIdOrStoreFailure_insertedId_iff] using hcreate
  · intro h
    refine ⟨fun prompt w f => completionText_ne_fault _ f, fun call w => ?_⟩
    exact isIdOrStoreFailure_iff_ne_fault.1 (isIdOrStoreFailure_insertedId_iff.2 (h w.rows.length))

end FlowBuilder
