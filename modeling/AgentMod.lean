import AgentMod.Expression.Evaluate
import AgentMod.Expression.Grammar
import AgentMod.Graph.Sample
import AgentMod.InformationFlow.Decision
import AgentMod.InformationFlow.Detection
import AgentMod.Library.Reading
import AgentMod.Memory.FileStore
import AgentMod.Verified.Continuation.Crash
import AgentMod.Verified.Continuation.ResumeOnce
import AgentMod.Verified.Conversation.Compaction
import AgentMod.Verified.Conversation.Identity
import AgentMod.Verified.Conversation.Summary
import AgentMod.Verified.Expression.Comparison
import AgentMod.Verified.Expression.Parse
import AgentMod.Verified.Filesystem.Patch
import AgentMod.Verified.Graph.BranchScope
import AgentMod.Verified.Graph.Build
import AgentMod.Verified.Graph.Conditions
import AgentMod.Verified.Graph.Cycles
import AgentMod.Verified.Graph.Order
import AgentMod.Verified.Graph.SingleEntry
import AgentMod.Verified.Graph.WriteSafety
import AgentMod.Verified.Harness.Agreement
import AgentMod.Verified.Harness.Sse
import AgentMod.Verified.Harness.Termination
import AgentMod.Verified.Harness.ToolCalls
import AgentMod.Verified.InformationFlow.Decision
import AgentMod.Verified.InformationFlow.Detection
import AgentMod.Verified.Journal.Recovery
import AgentMod.Verified.Lsp.Client
import AgentMod.Verified.Lsp.Registry
import AgentMod.Verified.Lsp.Supervision
import AgentMod.Verified.Memory.FileStore
import AgentMod.Verified.Parallel.Accounting
import AgentMod.Verified.Parallel.JoinDecision
import AgentMod.Verified.Parallel.JoinStability
import AgentMod.Verified.Permission.Layers
import AgentMod.Verified.Pipeline.Execution
import AgentMod.Verified.Pipeline.Observer
import AgentMod.Verified.PluginSchema.Numbers
import AgentMod.Verified.PluginSchema.Outcome
import AgentMod.Verified.PluginSchema.Validation
import AgentMod.Verified.Process.Capacity
import AgentMod.Verified.Process.Terminal
import AgentMod.Verified.Protocol.Authorization
import AgentMod.Verified.Protocol.Frames
import AgentMod.Verified.Protocol.Replay
import AgentMod.Verified.Scheduler.ClaimDue
import AgentMod.Verified.Scheduler.CrashSafety
import AgentMod.Verified.Scheduler.Instants
import AgentMod.Verified.Scheduler.Replacement
import AgentMod.Verified.Session.Branch
import AgentMod.Verified.Session.ContextBoundary
import AgentMod.Verified.Session.GraphSchedule
import AgentMod.Verified.Session.ParallelReplay
import AgentMod.Verified.Session.Plugins
import AgentMod.Verified.Session.ScheduleStorage
import AgentMod.Verified.Session.StyleArchive
import AgentMod.Verified.Session.StyleEnd
import AgentMod.Verified.Session.Tools
import AgentMod.Verified.Snapshot.Codec
import AgentMod.Verified.Variables.Agreement
import AgentMod.Verified.Variables.Compiled
import AgentMod.Verified.Variables.Decimal
import AgentMod.Verified.Variables.DeepMerge
import AgentMod.Verified.Variables.Merge
import AgentMod.Verified.Variables.Projection
import AgentMod.Verified.Web.Fetch
import AgentMod.Verified.Web.Inline
import AgentMod.Verified.Web.Redirects
import AgentMod.Verified.Web.Search
import AgentMod.Snapshot.Codec
