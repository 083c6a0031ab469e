import DirectTransfer.Core.ApprovalSettlement
import DirectTransfer.Core.BatchWorkerProperties
import DirectTransfer.Core.BookPersistence
import DirectTransfer.Core.CommitOutcome
import DirectTransfer.Core.PayloadErrors
import DirectTransfer.Core.HandshakeAgreement
import DirectTransfer.Core.HistoryCalls
import DirectTransfer.Core.HistoryCompletion
import DirectTransfer.Core.HistoryDecisions
import DirectTransfer.Core.HistoryOwnership
import DirectTransfer.Core.InboxDecisions
import DirectTransfer.Core.NameSafety
import DirectTransfer.Core.ReceiverProperties
import DirectTransfer.Core.TrustPersistenceProperties
import DirectTransfer.Core.ShownKeys
import DirectTransfer.Core.CompletionTimes
import DirectTransfer.Core.ResponseWait
import DirectTransfer.Core.ChunkSessions
import DirectTransfer.Core.EndpointText
import DirectTransfer.Core.CollisionNames
import DirectTransfer.Core.RecordLoadingProperties
import DirectTransfer.Core.Throttling
import DirectTransfer.Core.ResumeSoundness
import DirectTransfer.Core.PublicKeyText
import DirectTransfer.Core.PairingWindow
import DirectTransfer.Core.HistorySearch
import DirectTransfer.Core.HistoryMigration
import DirectTransfer.Core.SlotConservation
import DirectTransfer.Core.IdentityKeeping
import DirectTransfer.Core.Recipients
import DirectTransfer.Core.TransferRecords
import DirectTransfer.Core.StoredOnce
import DirectTransfer.Core.PoisonedPartials
import DirectTransfer.Core.RetriedDelivery
import DirectTransfer.Core.LinkedDelivery
