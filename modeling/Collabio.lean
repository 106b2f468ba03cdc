import Collabio.Library.Runs
import Collabio.Library.Effect
import Collabio.Library.Dict
import Collabio.Library.StreamCipher
import Collabio.Library.Datetime
import Collabio.Library.Base64
import Collabio.Library.JsonCodes
import Collabio.Platform.Validation
import Collabio.Platform.ModuleWorkflow
import Collabio.Platform.ModuleAvailability
import Collabio.Platform.ModuleRecovery
import Collabio.Platform.OidcRuns
import Collabio.Platform.PgReplayRuns
import Collabio.Platform.JsonReplayRuns
import Collabio.Platform.StaticOidcRuns
import Collabio.ControlPlane.Models
import Collabio.Storage.ContentHash
import Collabio.Storage.Retention
import Collabio.Kms.AdapterSpec
import Collabio.Kms.EnvelopeSpec
import Collabio.Kms.RoundTrip
import Collabio.Kms.RewrapChain
import Collabio.Storage.LegalHoldRuns
import Collabio.Kms.CryptoshredRuns
import Collabio.ControlPlane.SharedAuditLog
import Collabio.Rag.VectorWorkerRuns
import Collabio.Search.Noninterference
import Collabio.KnowledgeBase.ConcurrentApprovals
import Collabio.ControlPlane.PgAudit
import Collabio.Kms.DestructionRuns
import Collabio.Kms.ShredTiming
import Collabio.Storage.StorageManifestSpec
import Collabio.Operations.RestoreAfterRewrap
import Collabio.Operations.RestoreOutcomes
import Collabio.Platform.TenantPolicies
import Collabio.Platform.ConcurrentPolicyUpdates
import Collabio.Rag.DeletionCoverage
import Collabio.Rag.EmbeddingModels
import Collabio.Rag.EmbeddingModelRuns
import Collabio.Platform.ModuleAuditTrail
import Collabio.Rag.SourceIndexing
import Collabio.Persistence.Migrator
import Collabio.Storage.PgReceiptStore
import Collabio.Storage.PgSourceObjects
import Collabio.Platform.LegacySqlStatements
import Collabio.Storage.SourceLedgers
import Collabio.Storage.FailedAdds
import Collabio.Storage.StorageKeys
import Collabio.Storage.LegalHoldAtomicity
import Collabio.ControlPlane.PgAuditVerify
import Collabio.ControlPlane.AuditCheckpoints
import Collabio.Kms.DecryptionIntegrity
import Collabio.Kms.ManifestStorage
import Collabio.Rag.TerminalChunks
import Collabio.Rag.ReindexOutcome
import Collabio.KnowledgeBase.ExecutedWrites
import Collabio.KnowledgeBase.GuardSoundness
import Collabio.KnowledgeBase.WriteRuns
import Collabio.KnowledgeBase.StaleApprovals
import Collabio.KnowledgeBase.WrittenArticles
import Collabio.KnowledgeBase.RefreshedEvidence
import Collabio.KnowledgeBase.CommittedWrites
import Collabio.KnowledgeBase.LedgerLineage
import Collabio.KnowledgeBase.AtomicExecutions
import Collabio.KnowledgeBase.WriteLineage
import Collabio.KnowledgeBase.ArticleVersions
import Collabio.KnowledgeBase.ConfirmedWrites
import Collabio.KnowledgeBase.GatedRequests
import Collabio.KnowledgeBase.PgArticleRefinement
import Collabio.KnowledgeBase.ReadRequests
import Collabio.Platform.RsaSignatures
import Collabio.Kms.ReferenceGrammar
import Collabio.Rag.TextChunker
import Collabio.Platform.ReplayPurge
import Collabio.Platform.ObjectAcl
import Collabio.Platform.OidcRefreshFailures
import Collabio.Rag.PromptFraming
import Collabio.Platform.CrmErpMappingSpec
import Collabio.Platform.BearerTokens
import Collabio.Platform.AuthzRequests
import Collabio.Search.KeywordRanking
import Collabio.Rag.PdfLiterals
import Collabio.Rag.PdfStreamLimit
import Collabio.Rag.AuditMetadata
import Collabio.Library.Grouping
import Collabio.Platform.LegacySqlSnapshotRows
import Collabio.Platform.LegacySqlConstraintGroups
import Collabio.Platform.LegacySqlSnapshotReads
import Collabio.Platform.LegacySqlSnapshotSpec
import Collabio.Platform.LegacySqlSnapshotFaithful
import Collabio.Platform.LegacySqlSnapshotCondition
