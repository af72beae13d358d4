import FlowBuilder.Failure
import FlowBuilder.Json.Display
import FlowBuilder.Record.Write

/-!
# The store

What a build keeps: a segment, email templates and the flow. Each is one row that is inserted into a
table, and the id of the row is read off the database's answer. A rejected insertion and an answer
without rows are failures; nothing is tried again.
-/

namespace FlowBuilder

/-- The tables of the store. -/
inductive Table where
  /-- Segments. -/
  | segments
  /-- Email templates. -/
  | emailTemplates
  /-- Flows. -/
  | flows
  deriving DecidableEq, Repr

/-- The name of a table. -/
def Table.name : Table → String
  | .segments => "segments"
  | .emailTemplates => "email_templates"
  | .flows => "flows"

/-- Something to keep. -/
inductive StoreCall where
  /-- A segment. -/
  | segment (owner name description : String) (conditions : List Condition)
    (aiPrompt : Option String)
  /-- An email template. -/
  | template (owner name subject content category description : String)
  /-- A flow. -/
  | flow (owner : String) (record : FlowRecord)

/-- A row of a table. -/
structure Row where
  /-- The table. -/
  table : Table
  /-- The columns. -/
  content : Json

/-- The owner of what is kept. -/
def StoreCall.owner : StoreCall → String
  | .segment owner _ _ _ _ => owner
  | .template owner _ _ _ _ _ => owner
  | .flow owner _ => owner

/-- The row of what is kept, at the given time. -/
def StoreCall.row (now : String) : StoreCall → Row
  | .segment owner name description conditions aiPrompt =>
    ⟨.segments, .obj [("user_id", .text owner), ("name", .text name),
      ("description", .text description), ("conditions", conditionsJson conditions),
      ("ai_generated", .bool true), ("ai_prompt", optionalText aiPrompt),
      ("created_at", .text now), ("updated_at", .text now)]⟩
  | .template owner name subject content category description =>
    ⟨.emailTemplates, .obj [("user_id", .text owner), ("name", .text name),
      ("subject", .text subject), ("content", .text content),
      ("category", .text (if category = "" then "General" else category)),
      ("description", .text description), ("is_system", .bool false),
      ("created_at", .text now)]⟩
  | .flow owner record =>
    ⟨.flows, .obj [("user_id", .text owner), ("name", .text record.name),
      ("description", .text record.description), ("status", .text record.status.value),
      ("trigger_type", .text record.triggerType.value), ("trigger_config", record.audience.toJson),
      ("flow_definition", record.graph.toJson), ("created_at", .text now),
      ("updated_at", .text now)]⟩

/-- What the database answers to an insertion: some value in place of the inserted rows, or the
wording of a rejection. -/
abbrev InsertReply := Except String Json

/-- Whether a value stands for nothing: it is absent, false, zero or empty. -/
def Json.isVoid : Json → Bool
  | .null => true
  | .bool b => !b
  | .int n => n = 0
  | .float x => x == 0.0
  | .string s => s.isEmpty
  | .array items => items.isEmpty
  | .object members => members.isEmpty

/-- The id of the first of the inserted rows, as text. -/
def firstRowId (room : Nat) : Json → Except Fault String
  | .array (.object row :: _) =>
    match Json.lookup? "id" row with
    | some id => id.display room
    | none => .error .rowWithoutId
  | .object _ => .error .noFirstRow
  | _ => .error .notRows

/-- The id of the inserted row, or why there is none. An id that is no text is shown as one, for
which there is only so much room. -/
def insertedId (room : Nat) (table : Table) : InsertReply → Except (Failure String) String
  | .error detail => .error (.error ("Failed to insert into " ++ table.name ++ ": " ++ detail))
  | .ok data =>
    if data.isVoid then .error (.error ("Insert into " ++ table.name ++ " returned no data"))
    else orFault (firstRowId room data)

end FlowBuilder
