import Evidrun.Lib.JsonText
import Evidrun.Lib.DocumentSchema
import Evidrun.Lib.Table
import Evidrun.Lib.FencedLease
import Evidrun.Lib.HashChain
import Evidrun.Lib.ReadCommit
import Evidrun.Contracts.Base
import Evidrun.Contracts.Events
import Evidrun.Contracts.Authoring
import Evidrun.Contracts.Runtime
import Evidrun.Contracts.Evaluation
import Evidrun.Database.Store
import Evidrun.Database.Fencing
import Evidrun.Database.Transitions
import Evidrun.Database.Ledger
import Evidrun.Database.Queue
import Evidrun.Database.Enqueue
import Evidrun.Database.EvaluationStore
import Evidrun.Database.History
import Evidrun.Database.Leases
import Evidrun.Database.Attempts
import Evidrun.Evidence.Verify
import Evidrun.Evidence.Execution
import Evidrun.Evidence.TamperEvidence
import Evidrun.Lib.DocumentRestore
import Evidrun.Contracts.RoundTrip
import Evidrun.Evidence.Documents
import Evidrun.Contracts.Study
import Evidrun.Contracts.Revisions
import Evidrun.Contracts.Compiler
import Evidrun.Contracts.StudyDigest
import Evidrun.Contracts.Matrix
import Evidrun.Contracts.ExecutionTrust
import Evidrun.Contracts.Registry
import Evidrun.Database.Registry
import Evidrun.Database.RegistryHistory
import Evidrun.Database.DecisionReplay
import Evidrun.Contracts.RunSpecFields
import Evidrun.Evidence.CapabilityOffers
import Evidrun.Evidence.ContractMembers
import Evidrun.Authority.Confirmation
import Evidrun.Authority.Verifier
import Evidrun.Authority.SingleUse
import Evidrun.Authority.ConfirmedDecisions
import Evidrun.Database.ConcurrentDecisions
import Evidrun.Contracts.Envelope
import Evidrun.Lab.Arguments
import Evidrun.Lab.Turn
import Evidrun.Lab.TurnBounds
import Evidrun.Lab.TurnAlignment
import Evidrun.Lab.Drafts
import Evidrun.Artifacts.Store
import Evidrun.Artifacts.Interleaving
import Evidrun.Artifacts.ReadBack
import Evidrun.Evidence.ArtifactManifest
import Evidrun.Evidence.ManifestAcceptance
import Evidrun.Runs.ReadAnswer
import Evidrun.Runs.ReadGrounding
import Evidrun.Lib.KeyedDiff
import Evidrun.Runs.Review
import Evidrun.Database.Repetition
import Evidrun.Database.AppendOnly
import Evidrun.Contracts.EventPayloads
import Evidrun.Contracts.GateProjection
import Evidrun.Web.TurnWindow
import Evidrun.Lab.ReadRepository
import Evidrun.Lab.FocusedReads
import Evidrun.Lab.Aggregation
import Evidrun.Scripts.ImportCycles
