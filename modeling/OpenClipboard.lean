import OpenClipboard.Library.Transition
import OpenClipboard.Library.LastWriter
import OpenClipboard.Library.StripedLock
import OpenClipboard.Inbound.EntryIdentity
import OpenClipboard.Core.WriteGuard
import OpenClipboard.Core.Mime
import OpenClipboard.Core.Path
import OpenClipboard.Core.ContentHash
import OpenClipboard.Core.Category
import OpenClipboard.Membership.Gates
import OpenClipboard.ActiveState.Register
import OpenClipboard.ActiveState.WriteOrder
import OpenClipboard.ActiveState.Replica
import OpenClipboard.Library.FileTree
import OpenClipboard.Library.Base64Text
import OpenClipboard.Library.Interruption
import OpenClipboard.Core.FileSet
import OpenClipboard.Capture.FileSystem
import OpenClipboard.Capture.EntryFileSet
import OpenClipboard.Capture.Traversal
import OpenClipboard.Capture.Manifest
import OpenClipboard.Capture.Selection
import OpenClipboard.Capture.Coverage
import OpenClipboard.Capture.Classification
import OpenClipboard.Outbound.Resolve
import OpenClipboard.Outbound.RootMarks
import OpenClipboard.Outbound.PathRecovery
import OpenClipboard.Outbound.PathFidelity
import OpenClipboard.Outbound.NoFileLost
import OpenClipboard.ClipboardWrite.SelfWriteLedger
import OpenClipboard.ClipboardWrite.Watcher
import OpenClipboard.ClipboardWrite.EchoSuppression
import OpenClipboard.Outbound.Publish
import OpenClipboard.Inbound.ApplyInbound
import OpenClipboard.Inbound.Activation
import OpenClipboard.Inbound.ClockGuard
import OpenClipboard.Outbound.Dispatch
import OpenClipboard.Outbound.AllOrNothing
import OpenClipboard.Outbound.SnapshotFromEntry
import OpenClipboard.ActiveState.ServePull
import OpenClipboard.Storage.Encryption
import OpenClipboard.Storage.CommitHistory
import OpenClipboard.Storage.SealedColumns
import OpenClipboard.Security.Cipher
import OpenClipboard.SwitchSpace.Device
import OpenClipboard.SwitchSpace.Effects
import OpenClipboard.SwitchSpace.Isolation
import OpenClipboard.SwitchSpace.CrashSafety
import OpenClipboard.SwitchSpace.Coverage
import OpenClipboard.SwitchSpace.Captures
import OpenClipboard.SwitchSpace.Concurrency
import OpenClipboard.ClipboardWrite.OrderlySchedule
import OpenClipboard.Pairing.Message
import OpenClipboard.Pairing.KeyMaterial
import OpenClipboard.Pairing.JoinerHandshake
import OpenClipboard.Pairing.Sponsor
import OpenClipboard.Pairing.SessionView
import OpenClipboard.Pairing.SessionOutline
import OpenClipboard.Pairing.OneGuess
import OpenClipboard.Pairing.Redeem
import OpenClipboard.Pairing.Agreement
import OpenClipboard.Pairing.Binding
import OpenClipboard.ConfigMigration.Staging
import OpenClipboard.ConfigMigration.PendingImport
import OpenClipboard.ConfigMigration.Resumption
import OpenClipboard.ConfigMigration.CrashSafety
import OpenClipboard.ConfigMigration.Tar
import OpenClipboard.ConfigMigration.Bundle
import OpenClipboard.ConfigMigration.Export
import OpenClipboard.ConfigMigration.ExportedMembers
import OpenClipboard.ConfigMigration.RoundTrip
import OpenClipboard.MobileSync.Staging
import OpenClipboard.MobileSync.Upload
import OpenClipboard.MobileSync.LatestDoc
import OpenClipboard.MobileSync.FileAgreement
import OpenClipboard.MobileSync.ContentId
import OpenClipboard.MobileSync.ContentIdentity
import OpenClipboard.MobileSync.TwoStep
import OpenClipboard.MobileSync.Attribution
import OpenClipboard.MobileSync.Credentials
import OpenClipboard.MobileSync.CredentialRuns
import OpenClipboard.FileTransfer.Timeline
import OpenClipboard.FileTransfer.Interleaving
import OpenClipboard.Capture.Identity
import OpenClipboard.History.CacheDisk
import OpenClipboard.History.UriList
import OpenClipboard.History.DeleteEntry
import OpenClipboard.History.Sweeps
import OpenClipboard.History.Confinement
import OpenClipboard.Delivery.Dispatch
import OpenClipboard.Delivery.Drains
import OpenClipboard.Security.ChunkedTransfer
import OpenClipboard.Security.TransferAuthenticity
import OpenClipboard.Search.Collection
import OpenClipboard.Search.ProjectionAgreement
import OpenClipboard.Search.EntryMirror
import OpenClipboard.Search.Tokenizer
import OpenClipboard.Search.PrefixSearch
import OpenClipboard.Library.Calendar
import OpenClipboard.Search.TimePresets
import OpenClipboard.Inbound.Availability
import OpenClipboard.ActiveState.Reconcile
import OpenClipboard.MobileEngine.Clipboard
import OpenClipboard.MobileEngine.Reducer
import OpenClipboard.MobileEngine.Actions
import OpenClipboard.MobileEngine.Engine
import OpenClipboard.MobileEngine.Ticks
import OpenClipboard.MobileEngine.LoopPause
import OpenClipboard.MobileEngine.SyncedContent
import OpenClipboard.MobileEngine.LockStep
import OpenClipboard.MobileEngine.SharedWatermark
import OpenClipboard.MobileEngine.StaleClobber
import OpenClipboard.MobileEngine.ForeignMirror
import OpenClipboard.Security.TransferRoundTrip
import OpenClipboard.Core.SnapshotIdentity
import OpenClipboard.Library.ByteReader
import OpenClipboard.Wire.ClipboardPayloadV3
import OpenClipboard.Wire.PayloadCodec
import OpenClipboard.Wire.EnvelopeRoundTrip
import OpenClipboard.ClipboardWrite.LedgerExactness
import OpenClipboard.History.MissingFiles
import OpenClipboard.History.RetentionLaw
import OpenClipboard.History.QuotaLaw
import OpenClipboard.Storage.SpoolLedger
import OpenClipboard.Storage.SpoolRuns
import OpenClipboard.Storage.SpoolOrderly
import OpenClipboard.Wire.PrefixCode
import OpenClipboard.ClipboardWrite.WatcherRuns
import OpenClipboard.ClipboardWrite.FailedWrite
import OpenClipboard.MobileEngine.StagedApply
import OpenClipboard.MobileEngine.LoopGuard
import OpenClipboard.ActiveState.ConsumableShadow
import OpenClipboard.Library.FreshName
import OpenClipboard.Inbound.TargetPaths
import OpenClipboard.Library.ErasedPositions
import OpenClipboard.Inbound.Materialize
import OpenClipboard.Inbound.DirectorySet
import OpenClipboard.Inbound.PromotionAtomicity
import OpenClipboard.Pairing.SpaceAccess
import OpenClipboard.Pairing.KekObserved
import OpenClipboard.Library.Postcard
import OpenClipboard.Pairing.Wire
import OpenClipboard.Pairing.WireVersions
import OpenClipboard.Library.Occurrence
import OpenClipboard.Capture.CfHtml
import OpenClipboard.Storage.RepresentationCache
import OpenClipboard.Storage.EncryptedBlobs
import OpenClipboard.Storage.BlobWriter
import OpenClipboard.Network.SingleFlight
import OpenClipboard.MobileSync.StagingSessions
import OpenClipboard.MobileSync.SessionIsolation
import OpenClipboard.Network.Presence
import OpenClipboard.Network.PresenceSections
import OpenClipboard.Network.PresenceAgreement
import OpenClipboard.Library.SortedMap
import OpenClipboard.MobileSync.ConnectUri
import OpenClipboard.MobileSync.ConnectRoundTrip
import OpenClipboard.Library.TextCode
import OpenClipboard.Search.FilterPaths
import OpenClipboard.Search.FilterAgreement
import OpenClipboard.Outbound.RepresentationPolicy
import OpenClipboard.Network.KeepAlive
import OpenClipboard.Network.RelayRecovery
import OpenClipboard.ActiveState.PullExchange
