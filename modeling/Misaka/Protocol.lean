import Misaka.Identity

/-!
The payloads of the control plane, of the authenticated session and of the
stream services, with the layouts of those the node itself writes. Decoding is
bincode's and is a parameter: every result about received bytes holds for
whatever values they decode to.
-/

namespace Misaka.Protocol
open Bincode Identity

def AUTH_SESSION_PROTOCOL_VERSION : UInt16 := 1
def PROTOCOL_VERSION : UInt16 := 3
def TRANSFER_V1_CHUNK_SIZE : UInt32 := 64 * 1024

-- `b"MTR1"`.
def TRANSFER_V1_MAGIC : List UInt8 := [0x4d, 0x54, 0x52, 0x31]

-- `b"MTR2"`.
def TRANSFER_V2_MAGIC : List UInt8 := [0x4d, 0x54, 0x52, 0x32]

def TRANSFER_DIGEST_PRIME : UInt64 := 0x100000001b3

/-- The running four-lane checksum of a transfer. -/
structure TransferDigest where
  lane0 : UInt64
  lane1 : UInt64
  lane2 : UInt64
  lane3 : UInt64
deriving DecidableEq

def TransferDigest.start : TransferDigest :=
  ⟨0xcbf29ce484222325, 0x84222325cbf29ce4, 0x9e3779b185ebca87, 0xd6e8feb86659fd93⟩

def digestLane (lane : UInt64) (byte : UInt8) : UInt64 :=
  (lane ^^^ byte.toUInt64) * TRANSFER_DIGEST_PRIME

def updateTransferDigest (digest : TransferDigest) (bytes : List UInt8) : TransferDigest :=
  bytes.foldl (fun lanes byte =>
    ⟨digestLane lanes.lane0 byte, digestLane lanes.lane1 byte, digestLane lanes.lane2 byte,
      digestLane lanes.lane3 byte⟩) digest

def finalizeTransferDigest (digest : TransferDigest) : Bytes 32 where
  toList := u64 digest.lane0 ++ u64 digest.lane1 ++ u64 digest.lane2 ++ u64 digest.lane3
  size_eq := by simp [u64, little_endian_length]

def transferDigest (bytes : List UInt8) : Bytes 32 :=
  finalizeTransferDigest (updateTransferDigest .start bytes)

inductive MessageType where
  | hello | heartbeat | state | job | jobRequest | jobResponse | ack | ping | pong | peerRecords
deriving DecidableEq

def MessageType.display : MessageType → String
  | .hello => "Hello"
  | .heartbeat => "Heartbeat"
  | .state => "State"
  | .job => "Job"
  | .jobRequest => "JobRequest"
  | .jobResponse => "JobResponse"
  | .ack => "Ack"
  | .ping => "Ping"
  | .pong => "Pong"
  | .peerRecords => "PeerRecords"

structure Envelope where
  networkId : NetworkId
  protocolVersion : UInt16
  msgType : MessageType
  sender : SisterId
  -- Zero addresses nobody in particular.
  recipient : SisterId
  data : List UInt8
deriving DecidableEq

def Envelope.new (network : NetworkId) (msgType : MessageType) (sender recipient : SisterId)
    (data : List UInt8) : Envelope :=
  ⟨network, PROTOCOL_VERSION, msgType, sender, recipient, data⟩

def Envelope.encode (envelope : Envelope) : List UInt8 :=
  envelope.networkId.encode ++ u16 envelope.protocolVersion ++ variant envelope.msgType.ctorIdx ++
    u64 envelope.sender ++ u64 envelope.recipient ++ byteString envelope.data

structure HelloData where
  networkId : NetworkId
  identity : SisterIdentity
  listenAddr : String
  streamAddr : Option String
  streamCertificate : Option (List UInt8)
deriving DecidableEq

def encodeIdentity (identity : SisterIdentity) : List UInt8 :=
  u64 identity.id ++ text identity.nickname ++ text identity.hostname ++ text identity.platform ++
    text identity.version ++ u16 identity.listenPort

def HelloData.encode (hello : HelloData) : List UInt8 :=
  hello.networkId.encode ++ encodeIdentity hello.identity ++ text hello.listenAddr ++
    option text hello.streamAddr ++ option byteString hello.streamCertificate

structure PeerRecordsData where
  networkId : NetworkId
  records : List PeerRecord
deriving DecidableEq

def encodeRecord (record : PeerRecord) : List UInt8 :=
  record.signingBytes ++ encodeSignature record.sisterSignature

def PeerRecordsData.encode (data : PeerRecordsData) : List UInt8 :=
  data.networkId.encode ++ sequence encodeRecord data.records

structure StateData where
  networkId : NetworkId
  identity : SisterIdentity
  listenAddr : String
  streamAddr : Option String
  streamCertificate : Option (List UInt8)
  -- An `f32`, kept as its bits: the node stores and forwards it and never computes with it.
  cpuUsage : UInt32
  memoryTotal : UInt64
  memoryUsed : UInt64
  runningJobs : UInt64
  queuedJobs : UInt64
  uptimeSecs : UInt64
  capabilities : List String
deriving DecidableEq

def StateData.encode (state : StateData) : List UInt8 :=
  state.networkId.encode ++ encodeIdentity state.identity ++ text state.listenAddr ++
    option text state.streamAddr ++ option byteString state.streamCertificate ++
    u32 state.cpuUsage ++ u64 state.memoryTotal ++ u64 state.memoryUsed ++
    u64 state.runningJobs ++ u64 state.queuedJobs ++ u64 state.uptimeSecs ++
    sequence text state.capabilities

structure JobData where
  id : String
  creator : SisterId
  -- Zero lets the receiver decide.
  executor : SisterId
  creatorAddr : String
  command : String
  arguments : List String
  createdAt : UInt64
  authorization : Option CommandAuthorization
deriving DecidableEq

def encodeAuthorization (authorization : CommandAuthorization) : List UInt8 :=
  authorization.signingBytes ++ encodeSignature authorization.signature

def JobData.encode (job : JobData) : List UInt8 :=
  text job.id ++ u64 job.creator ++ u64 job.executor ++ text job.creatorAddr ++
    text job.command ++ sequence text job.arguments ++ u64 job.createdAt ++
    option encodeAuthorization job.authorization

def JobData.fullCommand (job : JobData) : String :=
  if job.arguments.isEmpty then job.command
  else job.command ++ " " ++ " ".intercalate job.arguments

structure JobResultData where
  jobId : String
  creator : SisterId
  executor : SisterId
  output : String
  exitCode : Int32
  success : Bool
  startedAt : UInt64
  finishedAt : UInt64
deriving DecidableEq

def JobResultData.encode (result : JobResultData) : List UInt8 :=
  text result.jobId ++ u64 result.creator ++ u64 result.executor ++ text result.output ++
    u32 result.exitCode.toUInt32 ++ bool result.success ++ u64 result.startedAt ++
    u64 result.finishedAt

structure AuthenticatedClientHello where
  protocolVersion : UInt16
  networkId : NetworkId
  sisterId : SisterId
  sisterPublicKey : PublicKey
  membershipCertificate : MembershipCertificate
  transportBinding : TransportBinding
  nonce : Bytes 32
  signature : Signature
deriving DecidableEq

variable (hello : AuthenticatedClientHello)

def AuthenticatedClientHello.signingBytes : List UInt8 :=
  u16 hello.protocolVersion ++ hello.networkId.encode ++ u64 hello.sisterId ++
    hello.sisterPublicKey.toList ++ hello.membershipCertificate.encode ++
    hello.transportBinding.encode ++ hello.nonce.toList

def AuthenticatedClientHello.unsigned :
    AuthenticatedClientHello :=
  { hello with signature := Bytes.fill 64 0 }

def AuthenticatedClientHello.encode : List UInt8 :=
  hello.signingBytes ++ encodeSignature hello.signature

structure AuthenticatedServerHello where
  protocolVersion : UInt16
  networkId : NetworkId
  sisterId : SisterId
  sisterPublicKey : PublicKey
  membershipCertificate : MembershipCertificate
  transportBinding : TransportBinding
  clientNonce : Bytes 32
  nonce : Bytes 32
  signature : Signature
deriving DecidableEq

variable (hello : AuthenticatedServerHello)

def AuthenticatedServerHello.signingBytes : List UInt8 :=
  u16 hello.protocolVersion ++ hello.networkId.encode ++ u64 hello.sisterId ++
    hello.sisterPublicKey.toList ++ hello.membershipCertificate.encode ++
    hello.transportBinding.encode ++ hello.clientNonce.toList ++ hello.nonce.toList

def AuthenticatedServerHello.unsigned :
    AuthenticatedServerHello :=
  { hello with signature := Bytes.fill 64 0 }

def AuthenticatedServerHello.encode : List UInt8 :=
  hello.signingBytes ++ encodeSignature hello.signature

structure ControlRequest where
  envelope : Envelope
  expectResponse : Bool
deriving DecidableEq

def ControlRequest.encode (request : ControlRequest) : List UInt8 :=
  request.envelope.encode ++ bool request.expectResponse

structure TransferRequest where
  destination : String
  size : UInt64
  digest : Bytes 32
  authorization : Option CommandAuthorization
deriving DecidableEq

def TransferRequest.encode (request : TransferRequest) : List UInt8 :=
  text request.destination ++ u64 request.size ++ request.digest.toList ++
    option encodeAuthorization request.authorization

structure TransferResult where
  success : Bool
  bytesWritten : UInt64
  digest : Bytes 32
  error : Option String
deriving DecidableEq

structure TransferV1Request where
  destination : String
  size : UInt64
  digest : Bytes 32
  chunkSize : UInt32
  authorization : Option CommandAuthorization
deriving DecidableEq

def TransferV1Request.encode (request : TransferV1Request) : List UInt8 :=
  text request.destination ++ u64 request.size ++ request.digest.toList ++ u32 request.chunkSize ++
    option encodeAuthorization request.authorization

structure TransferV1Resume where
  offset : UInt64
  complete : Bool
  error : Option String
deriving DecidableEq

structure TransferV1Chunk where
  index : UInt64
  offset : UInt64
  len : UInt32
  digest : Bytes 32
deriving DecidableEq

def TransferV1Chunk.encode (chunk : TransferV1Chunk) : List UInt8 :=
  u64 chunk.index ++ u64 chunk.offset ++ u32 chunk.len ++ chunk.digest.toList

theorem TransferV1Chunk.encode_length (chunk : TransferV1Chunk) : chunk.encode.length = 52 := by
  simp only [encode, u64, u32, List.length_append, little_endian_length, chunk.digest.size_eq]

structure TransferV1Ack where
  nextOffset : UInt64
  complete : Bool
  error : Option String
deriving DecidableEq

inductive TransferV2Operation where
  | prepare | chunk | finalize
deriving DecidableEq

structure TransferV2Request where
  operation : TransferV2Operation
  destination : String
  size : UInt64
  digest : Bytes 32
  chunkSize : UInt32
  chunkCount : UInt64
  index : UInt64
  offset : UInt64
  len : UInt32
  chunkDigest : Bytes 32
  authorization : Option CommandAuthorization
deriving DecidableEq

structure TransferV2Resume where
  completedIndices : List UInt64
  complete : Bool
  error : Option String
deriving DecidableEq

def TransferV2Resume.encode (resume : TransferV2Resume) : List UInt8 :=
  sequence u64 resume.completedIndices ++ bool resume.complete ++ option text resume.error

structure TransferV2Ack where
  index : UInt64
  accepted : Bool
  complete : Bool
  error : Option String
deriving DecidableEq

structure TunnelRequest where
  remote : String
  authorization : Option CommandAuthorization
deriving DecidableEq

def TunnelRequest.encode (request : TunnelRequest) : List UInt8 :=
  text request.remote ++ option encodeAuthorization request.authorization
end Misaka.Protocol
