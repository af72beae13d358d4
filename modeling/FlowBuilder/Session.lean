import FlowBuilder.Compilation

/-!
# Sessions

Requests that are served one after another by one store. The services answer by the number of the
call: the model by how many prompts a request has sent before, the database by how many rows it has
been handed before, in this request and in those before it. The clock too is read anew for each row.
The rows are kept with all attempts, also those that the database rejected.
-/

namespace FlowBuilder

/-- What has left the library: the prompts of a request, and the rows of all requests so far. -/
structure World where
  /-- The prompts, in order. -/
  prompts : List String := []
  /-- The rows, in order. -/
  rows : List Row := []

/-- Hands a row to the database. -/
def insertRow (room : Nat) (now : Nat → String) (inserts : Nat → InsertReply) (call : StoreCall)
    (w : World) : Except (Failure String) String × World :=
  let row := call.row (now w.rows.length)
  (insertedId room row.table (inserts w.rows.length), { w with rows := w.rows ++ [row] })

/-- Sends a prompt to the model. -/
def sendPrompt (replies : Nat → CompletionReply) (prompt : String) (w : World) :
    Except (Failure String) (Option String) × World :=
  (completionText (replies w.prompts.length), { w with prompts := w.prompts ++ [prompt] })

/-- The services that answer by the number of the call. -/
def numberedServices (room : Nat) (now : Nat → String) (replies : Nat → CompletionReply)
    (inserts : Nat → InsertReply) : Collaborators World where
  generate := sendPrompt replies
  create := insertRow room now inserts

/-- A request with its requester, and what the model answers to its prompts. -/
structure Job where
  /-- The request. -/
  message : String
  /-- Who asks. -/
  owner : String
  /-- The conversation before it. -/
  history : List HistoryEntry
  /-- The model's answers. -/
  replies : Nat → CompletionReply

/-- What came of a job. -/
structure Run where
  /-- The answer to the requester. -/
  answer : Except Fault String
  /-- The prompts that were sent. -/
  prompts : List String
  /-- All rows up to the end of the job. -/
  rows : List Row

/-- Serves a job after those that handed in the given rows. -/
def runJob (limits : DepthLimits) (now : Nat → String) (inserts : Nat → InsertReply)
    (rows : List Row) (job : Job) : Run :=
  let services := numberedServices limits.display now job.replies inserts
  let outcome := compile limits services job.message job.owner job.history { rows }
  ⟨outcome.answer, outcome.world.prompts, outcome.world.rows⟩

/-- Serves jobs one after another. -/
def runJobs (limits : DepthLimits) (now : Nat → String) (inserts : Nat → InsertReply)
    (rows : List Row) : List Job → List Run
  | [] => []
  | job :: r =>
    let run := runJob limits now inserts rows job
    run :: runJobs limits now inserts run.rows r

/-- Keeps several things one after another. -/
def keepAll (room : Nat) (now : Nat → String) (inserts : Nat → InsertReply) (w : World) :
    List StoreCall → List (Except (Failure String) String) × World
  | [] => ([], w)
  | call :: r =>
    let (answer, w) := insertRow room now inserts call w
    let (answers, w) := keepAll room now inserts w r
    (answer :: answers, w)

end FlowBuilder
