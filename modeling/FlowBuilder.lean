import FlowBuilder.Graph.Schedule
import FlowBuilder.Json.Printer
import FlowBuilder.Service.Api
import FlowBuilder.Service.Database
import FlowBuilder.Proofs.Compilation.Truncation
import FlowBuilder.Proofs.Compilation.Unanswered
import FlowBuilder.Proofs.Content.EmptyBody
import FlowBuilder.Proofs.Content.Requested
import FlowBuilder.Proofs.Content.Scan
import FlowBuilder.Proofs.Credential.Authentication
import FlowBuilder.Proofs.Credential.BrokenOff
import FlowBuilder.Proofs.Graph.Acceptance
import FlowBuilder.Proofs.Graph.FirstWait
import FlowBuilder.Proofs.Graph.Fresh
import FlowBuilder.Proofs.Graph.Layout
import FlowBuilder.Proofs.Json.Braces
import FlowBuilder.Proofs.Plan.CutOff
import FlowBuilder.Proofs.Plan.Leftmost
import FlowBuilder.Proofs.Plan.NormalForm
import FlowBuilder.Proofs.Plan.Numbers
import FlowBuilder.Proofs.Plan.Ordering
import FlowBuilder.Proofs.Plan.Outcomes
import FlowBuilder.Proofs.Plan.Quoting
import FlowBuilder.Proofs.Plan.Spelling
import FlowBuilder.Proofs.Record.Stored
import FlowBuilder.Proofs.Service.Effects
import FlowBuilder.Proofs.Service.Origins
import FlowBuilder.Proofs.Session.Isolation
import FlowBuilder.Proofs.Store.Contract
import FlowBuilder.Proofs.Transcript.Timing
