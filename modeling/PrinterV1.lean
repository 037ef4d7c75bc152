import PrinterV1.Foundation.Runs
import PrinterV1.Foundation.Tables
import PrinterV1.Python.Datetime
import PrinterV1.Scheduler.Contracts
import PrinterV1.Scheduler.Jobs
import PrinterV1.Scheduler.Lifecycle
import PrinterV1.Foundation.Brackets
import PrinterV1.Scheduler.Interleaving
import PrinterV1.Scheduler.MutualExclusion
import PrinterV1.Scheduler.ActiveDuplicates
import PrinterV1.Lifecycle.Contracts
import PrinterV1.Lifecycle.TrackingQueue
import PrinterV1.Lifecycle.LiveOwnership
import PrinterV1.OperatorCli.CampaignOwnership
import PrinterV1.OperatorCli.TransitionRuns
import PrinterV1.Sources.MeasuredTransport
import PrinterV1.Sources.SixUnitAccounting
import PrinterV1.Sources.SixUnitExactness
import PrinterV1.Sources.SixUnitEscapes
import PrinterV1.Sources.SixUnitRuns
import PrinterV1.Discovery.AcquisitionPlan
import PrinterV1.Discovery.Observations
import PrinterV1.Discovery.Lineage
import PrinterV1.Discovery.TrackingRecheck
import PrinterV1.Discovery.Candidates
import PrinterV1.Discovery.Selection
import PrinterV1.Discovery.AcquisitionStore
import PrinterV1.Discovery.AcquisitionRun
import PrinterV1.Discovery.ObservationOrder
import PrinterV1.Discovery.Admission
import PrinterV1.Discovery.AcquisitionFrames
import PrinterV1.Discovery.Replay
import PrinterV1.Discovery.CursorContinuity
import PrinterV1.Foundation.Sqlite
import PrinterV1.Sources.OriginRegistry
import PrinterV1.Sources.OriginAcquisition
import PrinterV1.Sources.OriginCursor
import PrinterV1.Sources.OriginWriteOnce
import PrinterV1.Discovery.SelectionCooldown
import PrinterV1.Discovery.SelectionSpacing
import PrinterV1.OperatorCli.CampaignDatabase
import PrinterV1.OperatorCli.SchedulerWork
import PrinterV1.OperatorCli.SchedulerWorkRuns
import PrinterV1.Python.IsoRoundTrip
import PrinterV1.OperatorCli.CampaignSupervision
import PrinterV1.OperatorCli.LeaseRenewal
import PrinterV1.OperatorCli.LeaseSafety
import PrinterV1.OperatorCli.CampaignCleanup
import PrinterV1.OperatorCli.CleanupFrame
import PrinterV1.OperatorCli.CampaignActiveWork
import PrinterV1.OperatorCli.CleanupProjection
import PrinterV1.Foundation.Scripts
import PrinterV1.Db.Migrate
import PrinterV1.Db.Interruption
import PrinterV1.Python.IsoOrder
import PrinterV1.Foundation.SlidingWindow
import PrinterV1.Sources.GovernedExecution
import PrinterV1.Sources.RateLimit
import PrinterV1.Discovery.Persistence
import PrinterV1.Foundation.WriteOnce
import PrinterV1.Discovery.PersistenceOnce
import PrinterV1.Snapshots.LifecycleContinuity
import PrinterV1.Snapshots.PredecessorUse
import PrinterV1.Discovery.AcquisitionEffects
import PrinterV1.Discovery.ReserveClaims
import PrinterV1.Foundation.Transactions
import PrinterV1.Discovery.AcquisitionScript
import PrinterV1.Discovery.CommittedRows
import PrinterV1.Discovery.AllOrNothing
import PrinterV1.Discovery.FailureReasons
import PrinterV1.Foundation.Sessions
import PrinterV1.Foundation.Digits
import PrinterV1.Python.Bytes
import PrinterV1.Sources.Base58
import PrinterV1.Foundation.PrimeFields
import PrinterV1.Sources.Ed25519
import PrinterV1.Sources.ProgramAddresses
import PrinterV1.Python.Base64
import PrinterV1.Sources.PumpAccounts
import PrinterV1.Sources.PumpInstructions
import PrinterV1.Sources.PumpMigration
import PrinterV1.Sources.AccountResolution
import PrinterV1.Sources.MigrationVerification
import PrinterV1.Scheduler.TrajectoryCheckpoint
import PrinterV1.Scheduler.HiddenGaps
import PrinterV1.Foundation.Balance
import PrinterV1.Scheduler.TwoTokenFairness
import PrinterV1.Scheduler.ServiceFairness
import PrinterV1.Sources.GraduatedRegistry
import PrinterV1.Sources.OneGraduation
import PrinterV1.Foundation.FirstWins
import PrinterV1.Discovery.BudgetConservation
import PrinterV1.Discovery.ExactSelection
import PrinterV1.Discovery.ResponseDuplicates
import PrinterV1.Discovery.BucketAssignment
import PrinterV1.Discovery.QualifiedSelection
import PrinterV1.Discovery.QuotaView
import PrinterV1.Discovery.QuotaReach
import PrinterV1.Discovery.QuotaEffort
import PrinterV1.Snapshots.Coverage
import PrinterV1.Foundation.Gaps
import PrinterV1.Snapshots.CadencePolicy
import PrinterV1.Snapshots.CadenceSoundness
import PrinterV1.OperatorCli.OneHourClose
import PrinterV1.Snapshots.FirstHour
import PrinterV1.OperatorCli.OneHourTruth
import PrinterV1.Foundation.Holders
import PrinterV1.OperatorCli.AcquisitionExclusion
import PrinterV1.OperatorCli.AcquisitionUndo
import PrinterV1.OperatorCli.SupervisionAcquisition
import PrinterV1.OperatorCli.OperationAccounting
import PrinterV1.OperatorCli.AccountingEvidence
import PrinterV1.OperatorCli.AccountingStorage
import PrinterV1.Sources.DirectCurve
import PrinterV1.Foundation.Layouts
import PrinterV1.Sources.CreateLayouts
import PrinterV1.Sources.CreateDecode
import PrinterV1.Sources.CreateInsertion
import PrinterV1.Sources.MintState
import PrinterV1.Foundation.Copies
import PrinterV1.Sources.DecodePlanOrder
import PrinterV1.Discovery.TrackingReclaim
import PrinterV1.OperatorCli.TerminalReport
import PrinterV1.OperatorCli.ReportTruth
import PrinterV1.Python.IsoZulu
import PrinterV1.Snapshots.PolicyTable
import PrinterV1.OperatorCli.LaneQ
import PrinterV1.OperatorCli.LaneQPromotion
import PrinterV1.Sources.MintInstructions
import PrinterV1.Sources.TokenAgeRun
import PrinterV1.Sources.ExactInitialisation
import PrinterV1.Sources.TokenAgeSoundness
import PrinterV1.Sources.TokenAgeSteps
import PrinterV1.Python.Json
import PrinterV1.Python.Objects
import PrinterV1.OperatorCli.ReportEvidence
import PrinterV1.OperatorCli.ReportImage
import PrinterV1.OperatorCli.ReportStore
import PrinterV1.OperatorCli.ReportRoundTrip
import PrinterV1.Foundation.Shuffles
import PrinterV1.Discovery.SeededOrder
import PrinterV1.Discovery.RefreshBatches
import PrinterV1.Discovery.MigrationIntake
import PrinterV1.Discovery.TwoCandidates
import PrinterV1.Python.Floats
import PrinterV1.Sources.TradeWindows
import PrinterV1.Sources.CandleSelection
import PrinterV1.Foundation.Maxima
import PrinterV1.Snapshots.StagedDerivation
import PrinterV1.Discovery.MergedCandidates
import PrinterV1.Discovery.OriginAdmissions
import PrinterV1.Discovery.SeededSelection
import PrinterV1.OperatorCli.PostCycleLifecycle
import PrinterV1.OperatorCli.LastingDisposition
import PrinterV1.Discovery.MigrationDiscovery
import PrinterV1.Python.AwareDatetime
import PrinterV1.Scheduler.DueRows
import PrinterV1.Discovery.MigrationAdmission
import PrinterV1.Discovery.MigrationReconciliation
import PrinterV1.Foundation.Leases
import PrinterV1.OperatorCli.CandidateLease
import PrinterV1.OperatorCli.CandidateLeaseCalls
import PrinterV1.OperatorCli.CandidateLeaseRuns
import PrinterV1.OperatorCli.CandidateLeaseProgress
import PrinterV1.Foundation.Paging
import PrinterV1.OperatorCli.CursorRecovery
import PrinterV1.OperatorCli.CursorRecoveryPages
import PrinterV1.OperatorCli.CursorRecoveryRuns
import PrinterV1.OperatorCli.CursorRecoveryResume
import PrinterV1.OperatorCli.CursorRecoveryExact
import PrinterV1.OperatorCli.CursorRecoveryCompletion
import PrinterV1.Scheduler.LaterEvidence
