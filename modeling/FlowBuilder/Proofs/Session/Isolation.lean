import FlowBuilder.Proofs.Compilation.Simulation
import FlowBuilder.Proofs.Session.Rows

/-!
# Isolation of jobs

Jobs that are served one after another share one store, whose rows stay from job to job. What a job
takes over from those before it is no more than how many rows there are: the store answers by the
number of the row, and nothing is read back. Rows that differ, but not in number, are a simulation
(`simulates_numberedServices`).

* `exists_runJob`: what a job adds are rows of its own, and these and its answer are the same after
  any rows of that number.
* `runJobs_append`: jobs are served as those before them leave the store.
* `jobs_isolated`: both together, for each of any number of jobs.
-/

namespace FlowBuilder

/-- Two worlds in which the same has happened since there were the given rows. -/
structure World.SameSince (rows rows' : List Row) (w v : World) : Prop where
  /-- The same prompts were sent. -/
  prompts : w.prompts = v.prompts
  /-- The same rows were added. -/
  rows : ∃ added, w.rows = rows ++ added ∧ v.rows = rows' ++ added

variable (limits : DepthLimits) (now : Nat → String) (inserts : Nat → InsertReply)

/-- Which rows there are does not matter to the services, if they are equally many. -/
theorem simulates_numberedServices (room : Nat) (replies : Nat → CompletionReply)
    {rows rows' : List Row} (hlength : rows.length = rows'.length) :
    Collaborators.Simulates (World.SameSince rows rows') (numberedServices room now replies inserts)
      (numberedServices room now replies inserts) where
  generate := by
    intro prompt w v hsame
    -- the model answers by the number of the prompts
    have hanswer : completionText (replies w.prompts.length) =
        completionText (replies v.prompts.length) := by rw [hsame.prompts]
    exact ⟨hanswer, congrArg (· ++ [prompt]) hsame.prompts, hsame.rows⟩
  create := by
    intro call w v hsame
    obtain ⟨added, hw, hv⟩ := hsame.rows
    -- the store and the clock answer by the number of the rows
    have hrows : w.rows.length = v.rows.length := by
      rw [hw, hv, List.length_append, List.length_append, hlength]
    refine ⟨?_, hsame.prompts, added ++ [call.row (now w.rows.length)], ?_, ?_⟩
    · show insertedId room (call.row (now w.rows.length)).table (inserts w.rows.length) =
        insertedId room (call.row (now v.rows.length)).table (inserts v.rows.length)
      rw [hrows]
    · rw [← List.append_assoc, ← hw]
      rfl
    · rw [← List.append_assoc, ← hv, hrows]
      rfl

/-- A job adds rows of its own. It does and answers the same after any other rows, if they are
equally many. -/
theorem exists_runJob (rows : List Row) (job : Job) :
    ∃ added, (runJob limits now inserts rows job).rows = rows ++ added ∧
      OwnRows limits.display now inserts job.owner rows.length added ∧
      ∀ rows' : List Row, rows'.length = rows.length →
        runJob limits now inserts rows' job =
          { runJob limits now inserts rows job with rows := rows' ++ added } := by
  have hrows : ∃ added, (runJob limits now inserts rows job).rows = rows ++ added ∧
      OwnRows limits.display now inserts job.owner rows.length added :=
    ownRows_compile job.message job.owner job.history { rows }
  obtain ⟨added, hadded, hown⟩ := hrows
  refine ⟨added, hadded, hown, fun rows' hlength => ?_⟩
  -- before the job, nothing has happened since there were the rows
  have hstart : World.SameSince rows rows' { rows } { rows := rows' } :=
    ⟨rfl, [], (List.append_nil rows).symm, (List.append_nil rows').symm⟩
  obtain ⟨hanswer, hworld⟩ := compile_simulates
    (simulates_numberedServices now inserts limits.display job.replies hlength.symm) job.message
    job.owner job.history hstart
  -- what was added since is what is known to have been added
  obtain ⟨added', hsame, hother⟩ := hworld.rows
  obtain rfl : added = added' := List.append_cancel_left (hadded.symm.trans hsame)
  rw [runJob, runJob, ← hanswer, ← hworld.prompts, hother]

/-! ### Jobs one after another -/

/-- The rows after several jobs. -/
def rowsAfter (rows : List Row) (jobs : List Job) : List Row :=
  jobs.foldl (fun rows job => (runJob limits now inserts rows job).rows) rows

/-- Each job is served. -/
theorem length_runJobs (rows : List Row) (jobs : List Job) :
    (runJobs limits now inserts rows jobs).length = jobs.length := by
  induction jobs generalizing rows with
  | nil => rfl
  | cons job r ih => exact congrArg (· + 1) (ih _)

/-- Jobs are served as those before them leave the store. -/
theorem runJobs_append (rows : List Row) (before after : List Job) :
    runJobs limits now inserts rows (before ++ after) =
      runJobs limits now inserts rows before ++
        runJobs limits now inserts (rowsAfter limits now inserts rows before) after := by
  induction before generalizing rows with
  | nil => rfl
  | cons job r ih => exact congrArg (runJob limits now inserts rows job :: ·) (ih _)

/-- Each job adds one block of rows of its own to those that the jobs before it left. After any
other jobs that left equally many rows, it answers the same, sends the same prompts and adds the
same rows. -/
theorem jobs_isolated (rows : List Row) (before after : List Job) (job : Job) :
    ∃ run later added,
      runJobs limits now inserts rows (before ++ job :: after) =
        runJobs limits now inserts rows before ++ run :: later ∧
      (runJobs limits now inserts rows before).length = before.length ∧
      run.rows = rowsAfter limits now inserts rows before ++ added ∧
      OwnRows limits.display now inserts job.owner
        (rowsAfter limits now inserts rows before).length added ∧
      ∀ (rows' : List Row) (before' after' : List Job),
        (rowsAfter limits now inserts rows' before').length =
            (rowsAfter limits now inserts rows before).length →
          ∃ later', runJobs limits now inserts rows' (before' ++ job :: after') =
            runJobs limits now inserts rows' before' ++
              { run with rows := rowsAfter limits now inserts rows' before' ++ added } ::
                later' := by
  obtain ⟨added, hadded, hown, hother⟩ :=
    exists_runJob limits now inserts (rowsAfter limits now inserts rows before) job
  refine ⟨runJob limits now inserts (rowsAfter limits now inserts rows before) job, _, added,
    runJobs_append limits now inserts rows before (job :: after),
    length_runJobs limits now inserts rows before, hadded, hown, ?_⟩
  -- the other jobs matter only by how many rows they have left
  intro rows' before' after' hlength
  rw [← hother _ hlength]
  exact ⟨_, runJobs_append limits now inserts rows' before' (job :: after')⟩

/-- A job to which the model replies with a plan of one email for an audience. -/
def greetingJob (message owner : String) : Job :=
  ⟨message, owner, [], fun _ => .ok [some greetingReply]⟩

/-- Whether it was Ada or Cleo who asked before him, Bob's job does the same. -/
theorem bob_isolated :
    ∃ (run : Run) (later later' : List Run) (added : List Row),
      runJobs .standard ticks numberRows []
          [greetingJob "Greet" "ada", greetingJob "Greet" "bob"] =
        runJobs .standard ticks numberRows [] [greetingJob "Greet" "ada"] ++ run :: later ∧
      OwnRows DepthLimits.standard.display ticks numberRows "bob" 3 added ∧
      runJobs .standard ticks numberRows []
          [greetingJob "Wake" "cleo", greetingJob "Greet" "bob"] =
        runJobs .standard ticks numberRows [] [greetingJob "Wake" "cleo"] ++
          { run with rows :=
              rowsAfter .standard ticks numberRows [] [greetingJob "Wake" "cleo"] ++ added } ::
            later' := by
  have hada : (rowsAfter .standard ticks numberRows [] [greetingJob "Greet" "ada"]).length = 3 := by
    decide +kernel
  have hcleo :
      (rowsAfter .standard ticks numberRows [] [greetingJob "Wake" "cleo"]).length = 3 := by
    decide +kernel
  obtain ⟨run, later, added, hruns, -, -, hown, hother⟩ :=
    jobs_isolated .standard ticks numberRows [] [greetingJob "Greet" "ada"] []
      (greetingJob "Greet" "bob")
  -- both starts leave three rows, so the job behind them runs the same
  obtain ⟨later', hruns'⟩ := hother [] [greetingJob "Wake" "cleo"] [] (hcleo.trans hada.symm)
  rw [hada] at hown
  exact ⟨run, later, later', added, hruns, hown, hruns'⟩

end FlowBuilder
