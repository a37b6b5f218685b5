import DataSafe.Api.ReplicaCluster
import DataSafe.Api.ReplicaReplay
import DataSafe.Api.SharePassword
import DataSafe.Api.Sharing
import DataSafe.Api.SiteReplication
import DataSafe.Auth.ChunkedReads
import DataSafe.Auth.CorrectlySigned
import DataSafe.Auth.TokenSeparation
import DataSafe.Erasure.RSCodec
import DataSafe.Events.Backlog
import DataSafe.Events.Bookkeeping
import DataSafe.Events.KafkaBridge
import DataSafe.Events.SinkIsolation
import DataSafe.Events.ULID
import DataSafe.Ha.Leader
import DataSafe.Kms.DekCache
import DataSafe.Kms.EnvelopeIntegrity
import DataSafe.Metadata.FieldUpdates
import DataSafe.Metadata.ReadConsistency
import DataSafe.Mfa.AdminChanges
import DataSafe.Mfa.Gate
import DataSafe.Migrate.ByteCopy
import DataSafe.Migrate.Journal
import DataSafe.S3.BucketDeletion
import DataSafe.S3.DeleteFrame
import DataSafe.S3.DenyWins
import DataSafe.S3.FailedOverwrite
import DataSafe.S3.FederatedListing
import DataSafe.S3.HeldOverwrite
import DataSafe.S3.KeyConfinement
import DataSafe.S3.KeyIndependence
import DataSafe.S3.MultiDelete
import DataSafe.S3.MultipartAtomicity
import DataSafe.S3.RangeReads
import DataSafe.S3.RbacAgreement
import DataSafe.S3.RefusedMove
import DataSafe.S3.Retention
import DataSafe.S3.SourceAddress
import DataSafe.Security.FieldEncryption
import DataSafe.Sync.Idempotent
