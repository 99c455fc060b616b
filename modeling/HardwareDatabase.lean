/-
Module: HardwareDatabase
Purpose: The verified model of the hardware knowledge base service. The modules that no other module
  imports are listed; the others come with them.
-/
import HardwareDatabase.Proofs.ActiveProjections
import HardwareDatabase.Proofs.AdmissionBounds
import HardwareDatabase.Proofs.AffectedClosure
import HardwareDatabase.Proofs.Cancellation
import HardwareDatabase.Proofs.ColumnNames
import HardwareDatabase.Proofs.CommittedOutputs
import HardwareDatabase.Proofs.ControlRequests
import HardwareDatabase.Proofs.CoordinatorFencing
import HardwareDatabase.Proofs.CoverageReports
import HardwareDatabase.Proofs.EdfEdits
import HardwareDatabase.Proofs.EventLog
import HardwareDatabase.Proofs.ExportCleanup
import HardwareDatabase.Proofs.Finality
import HardwareDatabase.Proofs.FormulaShifts
import HardwareDatabase.Proofs.FrozenInputs
import HardwareDatabase.Proofs.GateCoverage
import HardwareDatabase.Proofs.GraphAnswers
import HardwareDatabase.Proofs.HeadingOutlines
import HardwareDatabase.Proofs.HumanDecisions
import HardwareDatabase.Proofs.JobAttempts
import HardwareDatabase.Proofs.KnowledgeBaseJobs
import HardwareDatabase.Proofs.LockTokens
import HardwareDatabase.Proofs.MaintenanceLeases
import HardwareDatabase.Proofs.MarkdownContent
import HardwareDatabase.Proofs.MemoryPages
import HardwareDatabase.Proofs.MetadataEvents
import HardwareDatabase.Proofs.MigrationCrash
import HardwareDatabase.Proofs.ModuleConnections
import HardwareDatabase.Proofs.NodeReceipts
import HardwareDatabase.Proofs.OrcadTexts
import HardwareDatabase.Proofs.OrdinalReferences
import HardwareDatabase.Proofs.PermitLedgers
import HardwareDatabase.Proofs.PlanPointers
import HardwareDatabase.Proofs.PlanResumption
import HardwareDatabase.Proofs.RateLimits
import HardwareDatabase.Proofs.ReflectionCommits
import HardwareDatabase.Proofs.ReplayedCalls
import HardwareDatabase.Proofs.RevisionCompletion
import HardwareDatabase.Proofs.RevisionPreservation
import HardwareDatabase.Proofs.SectionObjects
import HardwareDatabase.Proofs.Serialization
import HardwareDatabase.Proofs.SignalPaths
import HardwareDatabase.Proofs.SlotAccounting
import HardwareDatabase.Proofs.SnapshotRoundTrip
import HardwareDatabase.Proofs.SpanReplacement
import HardwareDatabase.Proofs.StoredRows
import HardwareDatabase.Proofs.TaskDispatch
import HardwareDatabase.Proofs.TaskEndings
import HardwareDatabase.Proofs.TaskHistory
import HardwareDatabase.Proofs.TaskLimits
import HardwareDatabase.Proofs.TimestampOrder
import HardwareDatabase.Proofs.TurnNotices
import HardwareDatabase.Proofs.TurnSequences
import HardwareDatabase.Proofs.UncertainPermits
import HardwareDatabase.Proofs.WaitingTurns
import HardwareDatabase.Proofs.WorkOrderVersions
