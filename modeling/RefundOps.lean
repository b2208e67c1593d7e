import RefundOps.Lib.Coro
import RefundOps.Lib.EventLoop
import RefundOps.Lib.Protocol
import RefundOps.Lib.Writes
import RefundOps.Lib.History
import RefundOps.Lib.Dict
import RefundOps.Lib.LRUCache
import RefundOps.Lib.LRUMap
import RefundOps.Lib.Compaction
import RefundOps.Lib.CausalOrder
import RefundOps.Lib.CausalWalk
import RefundOps.Lib.Pattern
import RefundOps.Lib.Text
import RefundOps.Lib.Survivors
import RefundOps.Lib.Contest
import RefundOps.Lib.Floating
import RefundOps.Contracts.Base
import RefundOps.Contracts.Payloads
import RefundOps.Foundation.Task
import RefundOps.Foundation.AgentCard
import RefundOps.Foundation.Audit
import RefundOps.Foundation.Envelope
import RefundOps.Foundation.Runtime
import RefundOps.Foundation.Lifecycle
import RefundOps.Foundation.Answers
import RefundOps.Foundation.Discovery
import RefundOps.Foundation.Advertised
import RefundOps.Foundation.Tracker
import RefundOps.Foundation.Consumer
import RefundOps.Foundation.Redelivery
import RefundOps.Foundation.LRUHistory
import RefundOps.Foundation.Client
import RefundOps.Llm.Models
import RefundOps.Llm.Structured
import RefundOps.Llm.Audit
import RefundOps.Llm.Runtime
import RefundOps.Llm.Generation
import RefundOps.Llm.Properties.Repair
import RefundOps.Llm.Properties.Reasoning
import RefundOps.Llm.Properties.Replay
import RefundOps.Llm.Properties.Grounding
import RefundOps.Llm.Properties.Budget
import RefundOps.Llm.Properties.Shortening
import RefundOps.Llm.Properties.Capture
import RefundOps.Billing.Models
import RefundOps.Billing.RulesEngine
import RefundOps.Billing.Service
import RefundOps.Billing.Properties.Reports
import RefundOps.Risk.Models
import RefundOps.Risk.Scoring
import RefundOps.Risk.Service
import RefundOps.Risk.Properties.Coherence
import RefundOps.Risk.Properties.Clearance
import RefundOps.Resolution.Config
import RefundOps.Resolution.Models
import RefundOps.Resolution.StateStore
import RefundOps.Resolution.TicketClassifier
import RefundOps.Resolution.ResponseDrafter
import RefundOps.Resolution.LlmAssist
import RefundOps.Resolution.DecisionEngine
import RefundOps.Resolution.Effects
import RefundOps.Resolution.A2AHandlers
import RefundOps.Resolution.EventHandlers
import RefundOps.Resolution.Service
import RefundOps.Resolution.Store.Operations
import RefundOps.Resolution.Store.Claim
import RefundOps.Resolution.Store.Versions
import RefundOps.Resolution.Store.Indexes
import RefundOps.Resolution.Protocol.Actions
import RefundOps.Resolution.Protocol.Invariant
import RefundOps.Resolution.Protocol.Stability
import RefundOps.Resolution.Protocol.Views
import RefundOps.Resolution.Protocol.Operations
import RefundOps.Resolution.Protocol.Conformance
import RefundOps.Resolution.Protocol.IntakeConformance
import RefundOps.Resolution.Protocol.ServiceConformance
import RefundOps.Resolution.Properties.UnknownWords
import RefundOps.Resolution.Properties.Decisions
import RefundOps.Resolution.Properties.OneDecision
import RefundOps.Resolution.Properties.Coverage
import RefundOps.Resolution.Properties.Finality
import RefundOps.Resolution.Properties.Sequential
import RefundOps.Resolution.Properties.Soundness
import RefundOps.Resolution.Properties.FailedOpinion
import RefundOps.Resolution.Properties.EscalationReason
import RefundOps.Resolution.Properties.ArrivalOrder
import RefundOps.Resolution.Properties.EndToEnd
import RefundOps.Resolution.Properties.ModelOutput
import RefundOps.Resolution.Properties.FallbackTriage
import RefundOps.Resolution.Properties.Drafts
import RefundOps.Resolution.Properties.EarlyOpinion
import RefundOps.Resolution.Watch.Errands
import RefundOps.Resolution.Watch.Results
import RefundOps.Resolution.Watch.Intake
import RefundOps.Resolution.Watch.Runs
import RefundOps.Resolution.Watch.Evidence
import RefundOps.Resolution.Properties.Isolation
import RefundOps.Resolution.Properties.Causality
import RefundOps.Resolution.Properties.Transitions
import RefundOps.Resolution.Properties.EvidenceIds
import RefundOps.Resolution.AgentcoreApp
import RefundOps.Resolution.Properties.Entrypoint
import RefundOps.Resolution.Trace
import RefundOps.Testing.AuditTimeline
import RefundOps.DemoUi.Timeline
import RefundOps.Foundation.IdGrammar
import RefundOps.Llm.Redaction
import RefundOps.Observability.Redaction
import RefundOps.Billing.HttpApp
import RefundOps.Lib.Growth
import RefundOps.Foundation.TaskWire
import RefundOps.Foundation.Fields
import RefundOps.Billing.Requests
import RefundOps.Risk.Tasks
import RefundOps.Resolution.Store.Openings
import RefundOps.Resolution.Properties.Requests
import RefundOps.Workflow.Model
import RefundOps.Workflow.Peers
import RefundOps.Workflow.Invariant
import RefundOps.Workflow.Approvals
import RefundOps.Workflow.Acceptance
import RefundOps.Workflow.Reviews
import RefundOps.Workflow.Noninterference
import RefundOps.Resolution.Properties.Sweeps
import RefundOps.Resolution.Properties.Delegations
import RefundOps.Workflow.Outcomes
import RefundOps.Workflow.Alone
import RefundOps.Workflow.Settlement
import RefundOps.Llm.Narratives
import RefundOps.Billing.LlmSummary
import RefundOps.Risk.LlmSummary
import RefundOps.Workflow.Models
import RefundOps.Lib.Lists
import RefundOps.Foundation.Exchange
import RefundOps.Foundation.RoundTrip
