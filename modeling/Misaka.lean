import Misaka.AuthenticatedSession
import Misaka.AuthorizationStores
import Misaka.Bincode
import Misaka.CloudflareDirectory
import Misaka.ConcurrentFinalize
import Misaka.ConcurrentSessions
import Misaka.ConnectionManager
import Misaka.ConnectionRuns
import Misaka.ControlChannel
import Misaka.ControlDelivery
import Misaka.CopyCommand
import Misaka.DirectoryAlarm
import Misaka.DirectorySequence
import Misaka.Dispatch
import Misaka.DispatchFrame
import Misaka.Duplex
import Misaka.EffectTask
import Misaka.Enrollment
import Misaka.EnrollmentAgreement
import Misaka.EnrollmentContracts
import Misaka.EnrollmentDialogue
import Misaka.FilePairs
import Misaka.FileText
import Misaka.GatewayContract
import Misaka.GatewayEquivalence
import Misaka.GatewayRequests
import Misaka.HumanAuthorization
import Misaka.Identity
import Misaka.IdentityCrash
import Misaka.InboundTransport
import Misaka.JobConservation
import Misaka.JobDispatch
import Misaka.JobFrames
import Misaka.JobLedger
import Misaka.JobManager
import Misaka.JobServices
import Misaka.JoinRecovery
import Misaka.JoinTransaction
import Misaka.JsonReading
import Misaka.JsonText
import Misaka.KeyMaterial
import Misaka.KeyedRows
import Misaka.MembershipIssuance
import Misaka.MembershipSerials
import Misaka.NativeGateway
import Misaka.NodeRuntime
import Misaka.NonceCrash
import Misaka.NonceReplay
import Misaka.OutboundHandshake
import Misaka.PeerKnowledge
import Misaka.PendingResults
import Misaka.Protocol
import Misaka.RankedMap
import Misaka.RecordConvergence
import Misaka.RecordExchange
import Misaka.RelyGuarantee
import Misaka.ResumeReply
import Misaka.RevocationHistory
import Misaka.ServiceMoves
import Misaka.ServiceRoles
import Misaka.SessionSoundness
import Misaka.Sha256
import Misaka.SharedFiles
import Misaka.SignedCommand
import Misaka.SigningSeparation
import Misaka.SinglePassTransfer
import Misaka.StateDirectory
import Misaka.StateLayout
import Misaka.StateStores
import Misaka.StreamDialogue
import Misaka.StreamPermission
import Misaka.StreamServices
import Misaka.TaskPool
import Misaka.TransferCrash
import Misaka.TransferDialogue
import Misaka.TransferDisk
import Misaka.TransferFiles
import Misaka.TransferRecovery
import Misaka.TransferResume
import Misaka.TransferThreads
import Misaka.TransferVolume
import Misaka.UniqueDecoding
import Misaka.WorkStealing
import Misaka.BindingRotation
import Misaka.KeyPermissions
import Misaka.LocalControl
import Misaka.RuntimeMarker
import Misaka.SecureConnector
