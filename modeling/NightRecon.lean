import NightRecon.Lib.Checks
import NightRecon.Lib.Text
import NightRecon.Lib.Json
import NightRecon.Lib.Sha256
import NightRecon.Lib.Datetime
import NightRecon.Lib.Cidr
import NightRecon.Lib.Ipaddress
import NightRecon.Exceptions
import NightRecon.SharedCore.Authorization
import NightRecon.SharedCore.EngagementPolicy
import NightRecon.Lib.Dict
import NightRecon.Lib.Machine
import NightRecon.RedEngine.AtomicActionLedger
import NightRecon.RedEngine.LeaseRedemption
import NightRecon.RedEngine.TransactionalPolicyAuthority
import NightRecon.Lib.Proc
import NightRecon.Lib.Value
import NightRecon.Documents
import NightRecon.SharedCore.Contracts
import NightRecon.SharedCore.SecretKeys
import NightRecon.SharedCore.Store
import NightRecon.Lib.FileBacked
import NightRecon.SharedCore.PolicyStore
import NightRecon.SharedCore.FileStore
import NightRecon.SharedCore.FileRoundTrip
import NightRecon.SharedCore.FileAppend
import NightRecon.SharedCore.Workspace
import NightRecon.SharedCore.WorkspacePolicy
import NightRecon.SharedCore.WorkspaceMerge
import NightRecon.SharedCore.WorkspaceStatus
import NightRecon.Lib.Chronicle
import NightRecon.Lib.IpaddressText
import NightRecon.Lib.JsonParse
import NightRecon.Lib.Keyed
import NightRecon.Lib.JsonText
import NightRecon.Lib.JsonScalars
import NightRecon.Lib.JsonReader
import NightRecon.Lib.JsonRoundTrip
import NightRecon.SharedCore.TargetNormalForm
import NightRecon.WhiteEngine.Fields
import NightRecon.WhiteEngine.ApprovalEngine.Request
import NightRecon.WhiteEngine.ApprovalEngine.Event
import NightRecon.WhiteEngine.ApprovalEngine.Workflow
import NightRecon.WhiteEngine.ApprovalEngine.Replay
import NightRecon.WhiteEngine.ApprovalEngine.Evidence
import NightRecon.WhiteEngine.ApprovalEngine.Operations
import NightRecon.WhiteEngine.ApprovalEngine.Timeline
import NightRecon.Lib.Commitment
import NightRecon.Lib.ValueText
import NightRecon.DocumentMembers
import NightRecon.SharedCore.RecordText
import NightRecon.WhiteEngine.Reading
import NightRecon.WhiteEngine.History
import NightRecon.WhiteEngine.AuditLog
import NightRecon.WhiteEngine.EngagementDomain
import NightRecon.WhiteEngine.EvidenceCustody.Item
import NightRecon.WhiteEngine.EvidenceCustody.Event
import NightRecon.WhiteEngine.EvidenceCustody.Case
import NightRecon.WhiteEngine.ApprovalEngine.Documents
import NightRecon.WhiteEngine.SealedFormats
import NightRecon.Lib.AppendOnly
import NightRecon.WhiteEngine.AppendOnlyStores
import NightRecon.WhiteEngine.EvidenceCustody.Bundle
import NightRecon.RedEngine.GovernedExecution
import NightRecon.Lib.Assoc
import NightRecon.Lib.Tally
import NightRecon.RedEngine.DastPolicy
import NightRecon.RedEngine.CheckPackStore
import NightRecon.Lib.Chronology
import NightRecon.Lib.Collect
import NightRecon.RedEngine.GraphBuilder
import NightRecon.RedEngine.GraphCorrelation
import NightRecon.RedEngine.GraphCorrelationRules
import NightRecon.RedEngine.GraphCorrelationExact
import NightRecon.Lib.Records
import NightRecon.RedEngine.Inventory
import NightRecon.RedEngine.InventoryChanges
import NightRecon.RedEngine.InventoryReports
import NightRecon.RedEngine.InventoryStore
import NightRecon.Lib.JsonStrict
import NightRecon.Lib.Scopes
import NightRecon.TaskAutomation.Guards
import NightRecon.TaskAutomation.ObjectiveRecord
import NightRecon.TaskAutomation.Objectives
import NightRecon.TaskAutomation.Policy
import NightRecon.TaskAutomation.Candidate
import NightRecon.TaskAutomation.Run
import NightRecon.TaskAutomation.RunSafety
import NightRecon.RedEngine.CheckFeedState
import NightRecon.RedEngine.CheckPackManager
import NightRecon.RedEngine.GraphValidation
import NightRecon.RedEngine.ValidationTechniques
import NightRecon.RedEngine.ValidationEligibility
import NightRecon.RedEngine.RemediationRetest
import NightRecon.RedEngine.EngagementCollaboration
import NightRecon.RedEngine.WorkspaceEncryption
import NightRecon.RedEngine.WorkspaceRestoration
import NightRecon.RedEngine.ProtocolDissectors
import NightRecon.RedEngine.TcpStreamReassembly
import NightRecon.Lib.Exploration
import NightRecon.Lib.Walks
import NightRecon.RedEngine.GraphIndex
import NightRecon.RedEngine.GraphPaths
import NightRecon.Lib.Layers
import NightRecon.RedEngine.GraphTraversal
import NightRecon.RedEngine.AttackPaths
import NightRecon.RedEngine.GraphCorrelationStability
import NightRecon.RedNight.Persistence
import NightRecon.RedNight.PersistenceExecutor
import NightRecon.RedNight.Appliance
import NightRecon.RedNight.AuditTrace
import NightRecon.WhiteEngine.EvidenceCustody.Lineage
import NightRecon.Lib.Isoformat
import NightRecon.WhiteEngine.EvidenceCustody.Operations
import NightRecon.RedEngine.TcpStreamInvariance
import NightRecon.Lib.Bytes
import NightRecon.RedEngine.ClientHello
import NightRecon.RedEngine.PcapImport
import NightRecon.Lib.IpaddressCase
import NightRecon.Lib.Urllib
import NightRecon.RedEngine.WebUrls
import NightRecon.Lib.Worklist
import NightRecon.RedEngine.WebCrawl
import NightRecon.RedEngine.NetworkBenchmark
import NightRecon.Lib.Firsts
import NightRecon.RedEngine.GraphIdentityEvidence
import NightRecon.RedEngine.HostilePages
import NightRecon.RedEngine.IdentityCollection
import NightRecon.RedEngine.ActiveDirectoryEntries
import NightRecon.RedEngine.ActiveDirectoryProvider
import NightRecon.RedEngine.CyberRangeSimulation
import NightRecon.RedEngine.ApiOpenapi
import NightRecon.RedEngine.PcapngImport
import NightRecon.TaskAutomation.Service
import NightRecon.TaskAutomation.QueueSafety
import NightRecon.RedEngine.PacketIntelligence
import NightRecon.RedEngine.BenchmarkProvenance
import NightRecon.RedEngine.CheckPacks
import NightRecon.Lib.IpaddressRoundTrip
import NightRecon.Lib.IpaddressExclude
import NightRecon.WhiteEngine.EngagementAuthoring
import NightRecon.WhiteEngine.PolicyCompiler
import NightRecon.WhiteEngine.CompiledScope
import NightRecon.WhiteEngine.CompilerAcceptance
import NightRecon.WhiteEngine.CompiledBundle
