import SandboxBenchmarks.Library.Checks
import SandboxBenchmarks.Library.CodeUnits
import SandboxBenchmarks.Library.Keyed
import SandboxBenchmarks.Library.Grouping
import SandboxBenchmarks.Library.JsonText
import SandboxBenchmarks.Library.Loops
import SandboxBenchmarks.Library.Sorting
import SandboxBenchmarks.Library.SubsetCounts
import SandboxBenchmarks.Library.PermutationTest
import SandboxBenchmarks.Library.PairCounts
import SandboxBenchmarks.Library.Transition
import SandboxBenchmarks.Library.Sequential
import SandboxBenchmarks.Library.Interaction
import SandboxBenchmarks.RankSumTest
import SandboxBenchmarks.RankSumExact
import SandboxBenchmarks.RankSumPairs
import SandboxBenchmarks.RankSumPower
import SandboxBenchmarks.CanonicalJson
import SandboxBenchmarks.CanonicalKeys
import SandboxBenchmarks.PlanVerification
import SandboxBenchmarks.PlanSchedule
import SandboxBenchmarks.PlanAcceptance
import SandboxBenchmarks.PlanExperiment
import SandboxBenchmarks.PlanExperimentReturns
import SandboxBenchmarks.PlanGpus
import SandboxBenchmarks.AccountJournal
import SandboxBenchmarks.GithubJournal
import SandboxBenchmarks.GithubJournalSafety
import SandboxBenchmarks.GithubJournalRetry
import SandboxBenchmarks.AccountReconciliation
import SandboxBenchmarks.ExecuteBatch
import SandboxBenchmarks.ExecuteBatchSafety
import SandboxBenchmarks.Aggregate
import SandboxBenchmarks.AggregateAccept
import SandboxBenchmarks.AggregateVerdict
import SandboxBenchmarks.AggregateRows
import SandboxBenchmarks.AggregateParse
import SandboxBenchmarks.LeaderboardDatasets
import SandboxBenchmarks.Leaderboard
import SandboxBenchmarks.LeaderboardRanking
import SandboxBenchmarks.LeaderboardDirection
import SandboxBenchmarks.RunPooled
import SandboxBenchmarks.DriverPort
import SandboxBenchmarks.TableSession
import SandboxBenchmarks.TableSessionSafety
import SandboxBenchmarks.ComputeSdkCreate
import SandboxBenchmarks.ComputeSdkCreateSafety
import SandboxBenchmarks.Polling
import SandboxBenchmarks.VendorRecovery
import SandboxBenchmarks.VendorMarkers
import SandboxBenchmarks.VendorMarkersSafety
import SandboxBenchmarks.CliCreate
import SandboxBenchmarks.CliCreateSafety
import SandboxBenchmarks.SandboxOwner
import SandboxBenchmarks.SandboxOwnerSafety
import SandboxBenchmarks.LogPrefix
import SandboxBenchmarks.Promote
import SandboxBenchmarks.PromoteSafety
import SandboxBenchmarks.Library.Superseding
import SandboxBenchmarks.WriteRun
import SandboxBenchmarks.Library.Serving
import SandboxBenchmarks.AccountHistory
import SandboxBenchmarks.AccountRecovery
import SandboxBenchmarks.CleanupRecovery
import SandboxBenchmarks.AccountRecoverySafety
import SandboxBenchmarks.Library.JsonParse
import SandboxBenchmarks.CanonicalJsonBytes
import SandboxBenchmarks.WorkflowExperiment
import SandboxBenchmarks.LeaderboardCoverage
import SandboxBenchmarks.VendorTeardown
import SandboxBenchmarks.Library.Masking
import SandboxBenchmarks.Library.Utf16
import SandboxBenchmarks.Diagnostics
import SandboxBenchmarks.AggregateHosts
import SandboxBenchmarks.AggregateProvenance
import SandboxBenchmarks.SuiteWork
import SandboxBenchmarks.SuiteWorkStages
import SandboxBenchmarks.SuiteWorkSafety
import SandboxBenchmarks.CreateSuiteSandbox
import SandboxBenchmarks.CreateSuiteSandboxSafety
import SandboxBenchmarks.CliPreparation
import SandboxBenchmarks.CliPreparationSafety
import SandboxBenchmarks.EvaluateExperiment
import SandboxBenchmarks.PublishExperiment
import SandboxBenchmarks.RepairExperiment
import SandboxBenchmarks.PlanRules
import SandboxBenchmarks.RepairExperimentReturns
import SandboxBenchmarks.AggregateSamples
import SandboxBenchmarks.BootstrapIntervals
import SandboxBenchmarks.KolmogorovSmirnov
import SandboxBenchmarks.RankSumSymmetry
import SandboxBenchmarks.Library.Interpolation
import SandboxBenchmarks.Library.RunningMoments
import SandboxBenchmarks.Library.OrderStatistics
import SandboxBenchmarks.Library.EmpiricalDistribution
import SandboxBenchmarks.SelectMedian
import SandboxBenchmarks.PtsIndex
import SandboxBenchmarks.RepriceRun
import SandboxBenchmarks.DetachedStepSafety
import SandboxBenchmarks.NormalizeAccounts
import SandboxBenchmarks.FleetBudget
import SandboxBenchmarks.LogReadback
import SandboxBenchmarks.WriteTextFile
import SandboxBenchmarks.Library.JsonPretty
import SandboxBenchmarks.GapMarkerRoundTrip
import SandboxBenchmarks.CostEvidence
import SandboxBenchmarks.CleanupRecoverySafety
import SandboxBenchmarks.NotAllocatedIntent
import SandboxBenchmarks.BatchHistory
import SandboxBenchmarks.AccountSessions
import SandboxBenchmarks.ExperimentLineages
import SandboxBenchmarks.ExperimentOrder
import SandboxBenchmarks.AggregateOrder
import SandboxBenchmarks.PublicationContents
import SandboxBenchmarks.LeaderboardPooling
import SandboxBenchmarks.RepairContents
