import Misaka.AuthorizationStores
import Misaka.EffectTask
import Misaka.JobManager
import Misaka.PeerKnowledge

/-!
The operations a running Sister performs and what they do to its state. The
peer table, the record map, the job manager and the three authorization files
have a meaning here; everything that only talks to the outside (streams, TCP,
files of a transfer, randomness) may answer anything. Code of other crates
(bincode and JSON decoding, Ed25519, the Iroh and socket address parsers, the
packet cipher) and the host's path syntax are a `Platform`.
-/

namespace Misaka.NodeRuntime
open Bincode Identity Protocol PeerKnowledge JobManager AuthorizationStores EffectTask

inductive IoErrorKind where
  | permissionDenied | invalidData | invalidInput | unexpectedEof | timedOut | alreadyExists | other
deriving DecidableEq

structure IoError where
  kind : IoErrorKind
  message : String
deriving DecidableEq

inductive NetworkError where
  | bind (error : IoError)
  | connect (error : IoError)
  | handshake (reason : String)
  | tls (reason : String)
  | unsupportedVersion (expected actual : UInt8)
  | networkMismatch (expected actual : NetworkId)
  | io (error : IoError)
  | unsupportedEndpoint (endpoint : String)
  | iroh (reason : String)
  | authentication (reason : String)
  | closed
deriving DecidableEq

def NetworkError.display : NetworkError → String
  | .bind error => "bind failed: " ++ error.message
  | .connect error => "connect failed: " ++ error.message
  | .handshake reason => "handshake failed: " ++ reason
  | .tls reason => "TLS failed: " ++ reason
  | .unsupportedVersion expected actual =>
    "unsupported protocol version: expected " ++ toString expected.toNat ++ ", got " ++
      toString actual.toNat
  | .networkMismatch expected actual =>
    "network mismatch: expected " ++ expected.display ++ ", got " ++ actual.display
  | .io error => "I/O failed: " ++ error.message
  | .unsupportedEndpoint endpoint => "unsupported network endpoint: " ++ endpoint
  | .iroh reason => "Iroh failed: " ++ reason
  | .authentication reason => "authentication failed: " ++ reason
  | .closed => "stream closed"

inductive MisakaError where
  | io (error : IoError)
  | network (reason : String)
  | serde (reason : String)
  | protocol (reason : String)
  | crypto (reason : String)
  | addr (reason : String)
  | frameTooLarge (length max : Nat)
  | other (reason : String)
deriving DecidableEq

def MisakaError.display : MisakaError → String
  | .io error => "IO error: " ++ error.message
  | .network reason => "Network error: " ++ reason
  | .serde reason => "Protocol serialization error: " ++ reason
  | .protocol reason => "Protocol error: " ++ reason
  | .crypto reason => "Crypto error: " ++ reason
  | .addr reason => "Address parse error: " ++ reason
  | .frameTooLarge length max =>
    "Frame length " ++ toString length ++ " exceeds maximum " ++ toString max
  | .other reason => "Unknown: " ++ reason

structure SocketAddr where
  text : String
deriving DecidableEq

/-- An Iroh address: the endpoint id is read by the node, the relay and direct
addresses behind it only by the transport. -/
structure EndpointAddr where
  id : IrohEndpointId
  routes : String
deriving DecidableEq

inductive NetworkEndpoint where
  | tcp (addr : SocketAddr)
  | iroh (addr : EndpointAddr)
deriving DecidableEq

structure TransferV1State where
  size : UInt64
  digest : Bytes 32
  chunkSize : UInt32
  offset : UInt64
deriving DecidableEq

structure TransferV2State where
  size : UInt64
  digest : Bytes 32
  chunkSize : UInt32
  chunkCount : UInt64
  completed : List UInt8
deriving DecidableEq

abbrev Decoder (Value : Type) := List UInt8 → Except String Value

structure Platform where
  verifies : SignatureCheck
  parseSocketAddr : String → Except String SocketAddr
  parseEndpointAddr : String → Except String EndpointAddr
  displayEndpointAddr : EndpointAddr → String
  parentDir : String → Option String
  joinPath : String → String → String
  parseEndpointId : String → Except String IrohEndpointId
  decrypt : Decoder (List UInt8)
  envelope : Decoder Envelope
  controlRequest : Decoder ControlRequest
  helloData : Decoder HelloData
  stateData : Decoder StateData
  jobData : Decoder JobData
  jobResultData : Decoder JobResultData
  peerRecordsData : Decoder PeerRecordsData
  clientHello : Decoder AuthenticatedClientHello
  serverHello : Decoder AuthenticatedServerHello
  transferRequest : Decoder TransferRequest
  transferV1Request : Decoder TransferV1Request
  transferV1Chunk : Decoder TransferV1Chunk
  transferV2Request : Decoder TransferV2Request
  tunnelRequest : Decoder TunnelRequest
  transferV1State : Decoder TransferV1State
  transferV2State : Decoder TransferV2State
  transferV1Json : TransferV1State → List UInt8
  transferV2Json : TransferV2State → List UInt8

-- Rust's `str::strip_prefix`.
def stripLeading (lead value : String) : Option String :=
  if lead.toList.isPrefixOf value.toList then
    some (String.ofList (value.toList.drop lead.toList.length))
  else none

theorem strip_leading_some {lead value rest : String} :
    stripLeading lead value = some rest ↔ value = lead ++ rest := by
  unfold stripLeading
  constructor
  · intro stripped
    split at stripped
    · rename_i leads
      obtain ⟨tail, joined⟩ := List.isPrefixOf_iff_prefix.mp leads
      have dropped := Option.some.inj stripped
      rw [← joined, List.drop_left] at dropped
      rw [← String.toList_inj, String.toList_append, ← joined, ← dropped, String.toList_ofList]
    · cases stripped
  · rintro rfl
    simp

def parseEndpoint (platform : Platform) (value : String) : Except String NetworkEndpoint :=
  match stripLeading "tcp://" value with
  | some addr =>
    match platform.parseSocketAddr addr with
    | .ok parsed => .ok (.tcp parsed)
    | .error error => .error ("invalid TCP endpoint " ++ addr ++ ": " ++ error)
  | none =>
    match stripLeading "iroh://" value with
    | some addr =>
      match platform.parseEndpointAddr addr with
      | .ok parsed => .ok (.iroh parsed)
      | .error error => .error ("invalid Iroh endpoint " ++ addr ++ ": " ++ error)
    | none => .error ("unsupported network endpoint: " ++ value)

def NetworkEndpoint.display (platform : Platform) : NetworkEndpoint → String
  | .tcp addr => "tcp://" ++ addr.text
  | .iroh addr => "iroh://" ++ platform.displayEndpointAddr addr

/-- A logical stream with the remote endpoint its connection reports. -/
structure NetworkStream where
  id : Nat
  remoteEndpoint : Option String
deriving DecidableEq

structure Session where
  id : Nat
deriving DecidableEq

structure TcpStream where
  id : Nat
deriving DecidableEq

structure FileHandle where
  id : Nat
deriving DecidableEq

/-- An open file of a transfer, with the path it was opened at. -/
structure OpenFile where
  path : String
  handle : FileHandle
deriving DecidableEq

/-- What a node writes on a logical stream, one value per frame or marker. -/
inductive StreamFrame where
  | clientHello (hello : AuthenticatedClientHello)
  | serverHello (hello : AuthenticatedServerHello)
  | greeting
  | controlMagic
  | control (request : ControlRequest)
  | response (envelope : Envelope)
  | raw (bytes : List UInt8)
  | transferResult (result : TransferResult)
  | transferV1Resume (resume : TransferV1Resume)
  | transferV1Ack (ack : TransferV1Ack)
  | transferV2Resume (resume : TransferV2Resume)
  | transferV2Ack (ack : TransferV2Ack)
deriving DecidableEq

inductive FileOp where
  | createDirAll (path : String)
  | create (path : String)
  | openAppend (path : String)
  | openWrite (path : String)
  | seek (file : OpenFile) (offset : UInt64)
  | setLen (file : OpenFile) (size : UInt64)
  | writeAll (file : OpenFile) (bytes : List UInt8)
  | flush (file : OpenFile)
  | read (path : String)
  | write (path : String) (bytes : List UInt8)
  | copy (source target : String)
  | rename (source target : String)
  | remove (path : String)
  | exists_ (path : String)
  | length (path : String)
  | hash (path : String)
  | lock (path : String)
  | unlock (path : String)
deriving DecidableEq

abbrev FileOp.Result : FileOp → Type
  | .create _ | .openAppend _ | .openWrite _ => Except IoError FileHandle
  | .read _ => Except IoError (List UInt8)
  | .copy _ _ | .length _ => Except IoError UInt64
  | .exists_ _ => Except IoError Bool
  | .hash _ => Except IoError (Bytes 32)
  | .lock _ | .unlock _ => Unit
  | _ => Except IoError Unit

def FileOp.paths : FileOp → List String
  | .createDirAll path | .create path | .openAppend path | .openWrite path | .read path
  | .write path _ | .remove path | .exists_ path | .length path | .hash path | .lock path
  | .unlock path => [path]
  | .seek file _ | .setLen file _ | .writeAll file _ | .flush file => [file.path]
  | .copy source target | .rename source target => [source, target]

structure ResourceSnapshot where
  cpuUsage : UInt32
  memoryTotal : UInt64
  memoryUsed : UInt64
  runningJobs : UInt64
  queuedJobs : UInt64
  uptimeSecs : UInt64
  capabilities : List String
deriving DecidableEq

inductive RuntimeOp where
  | nowSecs
  | random32
  | newUuid
  | sign (key : PublicKey) (message : List UInt8)
  | localState
  | loadAuthority (directory : String)
  | loadRevocations (directory : String)
  | recordNonce (directory : String) (authorization : CommandAuthorization)
  | peerGet (id : SisterId)
  | peerAll
  | peerUpsert (state : PeerState)
  | recordGet (id : SisterId)
  | recordAll
  | recordUpsert (network : NetworkId) (record : PeerRecord)
  | spawnPeerRecords (peer : SisterId)
  | enqueue (job : LocalJob)
  | popTransferable (requester : SisterId) (allowUnauthenticated : Bool)
  | pushBack (job : LocalJob)
  | markTransferred (id : String)
  | resolvePending (id : String)
  | sendResult (waiter : Waiter) (result : JobResultData)
  | connectSession (endpoint : EndpointAddr) (network : NetworkId)
  | openStream (session : Session)
  | readExact (stream : NetworkStream) (count : Nat)
  | readSome (stream : NetworkStream) (limit : Nat)
  | write (stream : NetworkStream) (frame : StreamFrame)
  | tcpConnect (addr : SocketAddr)
  | tcpRead (stream : TcpStream) (count : Nat)
  | tcpWrite (stream : TcpStream) (envelope : Envelope)
  | copyBidirectional (stream : NetworkStream) (remote : TcpStream)
  | file (op : FileOp)

abbrev RuntimeOp.Result : RuntimeOp → Type
  | .nowSecs => UInt64
  | .random32 => Bytes 32
  | .newUuid => Bytes 16
  | .sign _ _ => Signature
  | .localState => ResourceSnapshot
  | .loadAuthority _ => Except StoreError (Option NetworkAuthority)
  | .loadRevocations _ => Except StoreError (Option (List RevocationRecord))
  | .recordNonce _ _ => Except NonceStoreError Unit
  | .peerGet _ => Option PeerState
  | .peerAll => List PeerState
  | .recordGet _ => Option PeerRecord
  | .recordAll => List PeerRecord
  | .recordUpsert _ _ => Bool
  | .popTransferable _ _ => Option LocalJob
  | .resolvePending _ => Option Waiter
  | .connectSession _ _ => Except NetworkError Session
  | .openStream _ => Except NetworkError NetworkStream
  | .readExact _ _ => Except IoError (List UInt8)
  | .readSome _ _ => Except IoError (List UInt8)
  | .write _ _ => Except IoError Unit
  | .tcpConnect _ => Except IoError TcpStream
  | .tcpRead _ _ => Except IoError (List UInt8)
  | .tcpWrite _ _ => Except MisakaError Unit
  | .copyBidirectional _ _ => Except IoError Unit
  | .file op => op.Result
  | _ => Unit

abbrev RuntimeTask (Err Val : Type) := Task RuntimeOp RuntimeOp.Result Err Val

structure NodeState where
  clock : UInt64
  peers : PeerStateTable
  records : SisterMap PeerRecord
  jobs : Jobs
  directories : String → DataDirectory

def NodeState.setNonces (state : NodeState) (directory : String)
    (nonces : Stored (List NonceEntry)) : NodeState :=
  { state with
    directories := Function.update state.directories directory
      { state.directories directory with nonces := nonces } }

def NodeStep (platform : Platform) (before : NodeState) (op : RuntimeOp) (result : op.Result)
    (after : NodeState) : Prop :=
  match op, result with
  | .nowSecs, now => now = before.clock ∧ after = before
  | .loadAuthority directory, answer =>
    Reads (before.directories directory).authority answer ∧ after = before
  | .loadRevocations directory, answer =>
    Reads (before.directories directory).revocations answer ∧ after = before
  | .recordNonce directory authorization, answer =>
    ∃ nonces,
      Records (before.directories directory).nonces authorization before.clock answer nonces ∧
      after = before.setNonces directory nonces
  | .peerGet id, row => row = before.peers.get id ∧ after = before
  | .peerAll, rows => (∀ row, row ∈ rows ↔ ∃ id, before.peers.get id = some row) ∧ after = before
  | .peerUpsert state, _ =>
    ∃ instant, after = { before with peers := before.peers.upsert state instant }
  | .recordGet id, row => row = before.records.lookup id ∧ after = before
  | .recordAll, rows =>
    (∀ row, row ∈ rows ↔ ∃ id, before.records.lookup id = some row) ∧ after = before
  | .recordUpsert network record, stored =>
    ∃ records, upsertPeerRecord platform.verifies network before.records record =
        (stored, records) ∧
      after = { before with records := records }
  | .enqueue job, _ => after = { before with jobs := before.jobs.enqueue job }
  | .popTransferable requester allowed, popped =>
    ∃ jobs, before.jobs.popTransferable requester allowed = (popped, jobs) ∧
      after = { before with jobs := jobs }
  | .pushBack job, _ => after = { before with jobs := before.jobs.pushBack job }
  | .markTransferred id, _ => after = { before with jobs := before.jobs.markTransferred id }
  | .resolvePending id, waiter =>
    ∃ jobs, before.jobs.resolvePending id = (waiter, jobs) ∧
      after = { before with jobs := jobs }
  | _, _ => after = before

-- What an operation on the job manager does to it.
def JobsStep (before : Jobs) : RuntimeOp → Jobs → Prop
  | .enqueue job, after => after = before.enqueue job
  | .popTransferable requester allowed, after =>
    ∃ popped, before.popTransferable requester allowed = (popped, after)
  | .pushBack job, after => after = before.pushBack job
  | .markTransferred id, after => after = before.markTransferred id
  | .resolvePending id, after => ∃ waiter, before.resolvePending id = (waiter, after)
  | _, _ => False

/-- Everything a step can do to the node: nothing, or one change to the nonce
file, the peer table, the record map or the job manager. -/
theorem node_step_cases {platform : Platform} {before after : NodeState} {op : RuntimeOp}
    {result : op.Result} (taken : NodeStep platform before op result after) :
    after = before ∨
    (∃ directory authorization nonces, op = .recordNonce directory authorization ∧
      after = before.setNonces directory nonces) ∨
    (∃ state instant, op = .peerUpsert state ∧
      after = { before with peers := before.peers.upsert state instant }) ∨
    (∃ network record stored records, op = .recordUpsert network record ∧
      upsertPeerRecord platform.verifies network before.records record = (stored, records) ∧
      after = { before with records := records }) ∨
    (∃ jobs, JobsStep before.jobs op jobs ∧ after = { before with jobs := jobs }) := by
  cases op with
  | recordNonce directory authorization =>
    obtain ⟨nonces, _, rfl⟩ := taken
    exact Or.inr (Or.inl ⟨directory, authorization, nonces, rfl, rfl⟩)
  | peerUpsert state =>
    obtain ⟨instant, rfl⟩ := taken
    exact Or.inr (Or.inr (Or.inl ⟨state, instant, rfl, rfl⟩))
  | recordUpsert network record =>
    obtain ⟨records, stores, rfl⟩ := taken
    exact Or.inr (Or.inr (Or.inr (Or.inl ⟨network, record, _, records, rfl, stores, rfl⟩)))
  | popTransferable requester allowed =>
    obtain ⟨jobs, popping, rfl⟩ := taken
    exact Or.inr (Or.inr (Or.inr (Or.inr ⟨jobs, ⟨_, popping⟩, rfl⟩)))
  | resolvePending id =>
    obtain ⟨jobs, resolving, rfl⟩ := taken
    exact Or.inr (Or.inr (Or.inr (Or.inr ⟨jobs, ⟨_, resolving⟩, rfl⟩)))
  | enqueue _ | pushBack _ | markTransferred _ =>
    exact Or.inr (Or.inr (Or.inr (Or.inr ⟨_, rfl, taken⟩)))
  | nowSecs | loadAuthority _ | loadRevocations _ | peerGet _ | peerAll | recordGet _
  | recordAll => exact Or.inl taken.2
  | _ => exact Or.inl taken

abbrev NodeTrace := List (Event RuntimeOp RuntimeOp.Result NodeState)

structure AuthenticatedSessionConfig where
  networkId : NetworkId
  sisterId : SisterId
  sisterKey : PublicKey
  authority : NetworkAuthority
  membershipCertificate : MembershipCertificate
  transportBinding : TransportBinding
  revocationDirectory : Option String
deriving DecidableEq

inductive StreamBackend where
  | directTcp | iroh
deriving DecidableEq

structure NodeConfig where
  networkId : NetworkId
  identity : SisterIdentity
  streamBackend : StreamBackend
  authenticatedSession : Option AuthenticatedSessionConfig
  allowUnauthenticatedOperations : Bool
  probeOnly : Bool
  peerRecord : Option PeerRecord
  dataDir : String
  listenAddr : String
  streamEndpoint : Option String
  streamCertificate : Option (List UInt8)
deriving DecidableEq

/-! Calls that several components make with their own limits and error texts. -/
section Calls
variable {Err Value : Type}

/-- A frame is a big-endian 32-bit length, checked before the payload is read. -/
def readFrame (limit : Nat) (tooLarge : Err) (ofIo : IoError → Err) (ofCodec : String → Err)
    (decode : Decoder Value) (stream : NetworkStream) : RuntimeTask Err Value := do
  let header ← perform (.readExact stream 4)
  let header ← orError ofIo header
  ensure (ofBigEndian header ≤ limit) tooLarge
  let payload ← perform (.readExact stream (ofBigEndian header))
  let payload ← orError ofIo payload
  orError ofCodec (decode payload)

def writeFrame (limit : Nat) (tooLarge : Err) (ofIo : IoError → Err) (payload : List UInt8)
    (stream : NetworkStream) (frame : StreamFrame) : RuntimeTask Err Unit := do
  ensure (payload.length ≤ limit) tooLarge
  let written ← perform (.write stream frame)
  orError ofIo written

/-- `RevocationStore::is_revoked` on a directory. -/
def isRevokedIn (platform : Platform) (change : RevocationStoreError → Err) (directory : String)
    (authority : NetworkAuthority) (network : NetworkId) (kind : MembershipKind)
    (serial : UInt64) : RuntimeTask Err Bool := do
  let loaded ← perform (.loadRevocations directory)
  let loaded ← orError (change ∘ .ofStore) loaded
  orError change (isRevoked platform.verifies authority network kind serial (loaded.getD []))

variable {State : Type} {step : State → (op : RuntimeOp) → op.Result → State → Prop}
variable {trace longer : List (Event RuntimeOp RuntimeOp.Result State)}

-- The value was decoded from bytes that the stream really delivered.
def ReadFrom (decode : Decoder Value) (stream : NetworkStream)
    (trace : List (Event RuntimeOp RuntimeOp.Result State)) (value : Value) : Prop :=
  ∃ count payload, Answered trace (.readExact stream count) (.ok payload) ∧
    decode payload = .ok value

/-- The value is the first frame of the stream: its length, then its bytes. -/
def FirstFrame (decode : Decoder Value) (stream : NetworkStream) (value : Value)
    (trace : List (Event RuntimeOp RuntimeOp.Result State)) : Prop :=
  ∃ rest header payload, ∃ s₁ s₂ s₃ s₄ : State,
    trace = rest ++ [⟨s₃, .readExact stream (ofBigEndian header), .ok payload, s₄⟩,
      ⟨s₁, .readExact stream 4, .ok header, s₂⟩] ∧
    decode payload = .ok value

-- The directory's revocations were read and judged not to name the membership.
def FoundUnrevoked (platform : Platform) (authority : NetworkAuthority) (directory : String)
    (network : NetworkId) (kind : MembershipKind) (serial : UInt64)
    (trace : List (Event RuntimeOp RuntimeOp.Result State)) : Prop :=
  ∃ loaded, Answered trace (.loadRevocations directory) (.ok loaded) ∧
    isRevoked platform.verifies authority network kind serial (loaded.getD []) = .ok false

variable {decode : Decoder Value} {value : Value} {stream : NetworkStream}

theorem read_from_suffix (kept : trace <:+ longer) (read : ReadFrom decode stream trace value) :
    ReadFrom decode stream longer value := by
  obtain ⟨count, payload, answered, decoded⟩ := read
  exact ⟨count, payload, answered_suffix kept answered, decoded⟩

theorem first_frame_suffix (kept : trace <:+ longer)
    (first : FirstFrame decode stream value trace) :
    FirstFrame decode stream value longer := by
  obtain ⟨later, rfl⟩ := kept
  obtain ⟨rest, header, payload, s₁, s₂, s₃, s₄, rfl, decoded⟩ := first
  exact ⟨later ++ rest, header, payload, s₁, s₂, s₃, s₄, by simp, decoded⟩

theorem first_frame_unique {other : Value} (first : FirstFrame decode stream value trace)
    (again : FirstFrame decode stream other trace) :
    value = other := by
  obtain ⟨rest, header, payload, s₁, s₂, s₃, s₄, rfl, decoded⟩ := first
  obtain ⟨rest', header', payload', t₁, t₂, t₃, t₄, same, decoded'⟩ := again
  obtain ⟨_, frames⟩ := List.append_inj' same rfl
  have payloads : payload = payload' := by
    simp only [List.cons.injEq, Event.mk.injEq, RuntimeOp.readExact.injEq, true_and] at frames
    obtain ⟨⟨_, _, results, _⟩, _, rfl, _⟩ := frames
    cases results
    rfl
  subst payloads
  exact Except.ok.inj (decoded.symm.trans decoded')

variable {platform : Platform} {authority : NetworkAuthority} {directory : String}
variable {network : NetworkId} {kind : MembershipKind} {serial : UInt64}

theorem found_unrevoked_suffix (kept : trace <:+ longer)
    (found : FoundUnrevoked platform authority directory network kind serial trace) :
    FoundUnrevoked platform authority directory network kind serial longer := by
  obtain ⟨loaded, answered, clean⟩ := found
  exact ⟨loaded, answered_suffix kept answered, clean⟩

theorem read_frame_spec (limit : Nat) (tooLarge : Err) (ofIo : IoError → Err)
    (ofCodec : String → Err) (decode : Decoder Value) (stream : NetworkStream) :
    Holds (traceStep step) (fun _ _ => True)
      (readFrame limit tooLarge ofIo ofCodec decode stream)
      (fun longer value => ReadFrom decode stream longer value) (fun _ _ => True) trace := by
  simp only [readFrame, holds_bind, holds_trace_perform, holds_or_error, holds_ensure, true_and,
    implies_true, and_true]
  intro _ before after _ header _ _ payload before' after' _ bytes received value decoded
  subst received
  exact ⟨_, bytes, answered_head, decoded⟩

theorem read_first_frame_spec (limit : Nat) (tooLarge : Err) (ofIo : IoError → Err)
    (ofCodec : String → Err) (decode : Decoder Value) (stream : NetworkStream) :
    Holds (traceStep step) (fun _ op => ∃ count, op = .readExact stream count)
      (readFrame limit tooLarge ofIo ofCodec decode stream)
      (fun longer value => FirstFrame decode stream value longer) (fun _ _ => True) [] := by
  simp only [readFrame, holds_bind, holds_trace_perform, holds_or_error, holds_ensure,
    implies_true, and_true]
  constructor
  · exact ⟨4, rfl⟩
  intro _ s₁ s₂ _ header delivered _
  constructor
  · exact ⟨_, rfl⟩
  intro _ s₃ s₄ _ payload arrived value decoded
  subst delivered arrived
  exact ⟨[], header, payload, s₁, s₂, s₃, s₄, rfl, decoded⟩

theorem is_revoked_in_spec (platform : Platform) (change : RevocationStoreError → Err)
    (directory : String) (authority : NetworkAuthority) (network : NetworkId)
    (kind : MembershipKind) (serial : UInt64) :
    Holds (traceStep step) (fun _ _ => True)
      (isRevokedIn platform change directory authority network kind serial)
      (fun longer revoked => revoked = false →
        FoundUnrevoked platform authority directory network kind serial longer)
      (fun _ _ => True) trace := by
  simp only [isRevokedIn, holds_bind, holds_trace_perform, holds_or_error, true_and,
    implies_true, and_true]
  intro _ before after _ loaded received revoked judged unrevoked
  subst received unrevoked
  exact ⟨loaded, answered_head, judged⟩

/-! The same calls when they succeed, as runs. -/

-- `(payload.len() as u32).to_be_bytes()`, sent in front of every payload.
def frameHeader (payload : List UInt8) : List UInt8 := bigEndian 4 payload.length

variable {payload : List UInt8} {limit : Nat}

theorem frame_header_le (small : payload.length ≤ limit) (limited : limit < 2 ^ 32) :
    ofBigEndian (frameHeader payload) ≤ limit := by
  rw [frameHeader, of_big_endian_encoding 4 _ (by omega)]
  exact small

variable {tooLarge : Err} {ofIo : IoError → Err} {ofCodec : String → Err}

theorem read_frame_runs {header : List UInt8} (state : NodeState) (trace : NodeTrace)
    (small : ofBigEndian header ≤ limit) (decoded : decode payload = .ok value) :
    Reaches (traceStep (NodeStep platform)) (readFrame limit tooLarge ofIo ofCodec decode stream)
      trace (.done value)
      (⟨state, .readExact stream (ofBigEndian header), .ok payload, state⟩ ::
        ⟨state, .readExact stream 4, .ok header, state⟩ :: trace) := by
  have readHeader : NodeStep platform state (.readExact stream 4) (.ok header) state := rfl
  have readPayload : NodeStep platform state (.readExact stream (ofBigEndian header))
      (.ok payload) state := rfl
  refine reaches_perform readHeader ?_
  simp only [or_error_ok, done_bind, decide_eq_true small, ensure_true]
  refine reaches_perform readPayload ?_
  simp only [or_error_ok, done_bind, decoded]
  exact .here _ _

variable {frame : StreamFrame}

theorem write_frame_runs (state : NodeState) (trace : NodeTrace) (small : payload.length ≤ limit) :
    Reaches (traceStep (NodeStep platform)) (writeFrame limit tooLarge ofIo payload stream frame)
      trace (.done ()) (⟨state, .write stream frame, .ok (), state⟩ :: trace) := by
  have written : NodeStep platform state (.write stream frame) (.ok ()) state := rfl
  unfold writeFrame
  simp only [decide_eq_true small, ensure_true, done_bind]
  exact reaches_perform written (.here _ _)

variable {change : RevocationStoreError → Err}

theorem is_revoked_in_runs (state : NodeState) (trace : NodeTrace)
    (listed : (state.directories directory).revocations = .absent) :
    Reaches (traceStep (NodeStep platform))
      (isRevokedIn platform change directory authority network kind serial) trace (.done false)
      (⟨state, .loadRevocations directory, .ok none, state⟩ :: trace) := by
  have load : NodeStep platform state (.loadRevocations directory) (.ok none) state := by
    refine ⟨Or.inr ?_, rfl⟩
    rw [listed]
    rfl
  exact reaches_perform load (.here _ _)

variable {allowed : RuntimeOp → Prop}

theorem only_read_frame (reads : ∀ count, allowed (.readExact stream count)) :
    Only allowed (readFrame limit tooLarge ofIo ofCodec decode stream) := by
  refine only_bind (by simpa using reads 4) fun header => ?_
  refine only_bind (by simp) fun bytes => ?_
  refine only_bind (by simp) fun _ => ?_
  refine only_bind (by simpa using reads _) fun payload => ?_
  exact only_bind (by simp) fun _ => by simp

theorem only_write_frame (writes : allowed (.write stream frame)) :
    Only allowed (writeFrame limit tooLarge ofIo payload stream frame) := by
  refine only_bind (by simp) fun _ => ?_
  exact only_bind (by simpa using writes) fun _ => by simp

theorem only_is_revoked_in (loads : allowed (.loadRevocations directory)) :
    Only allowed (isRevokedIn platform change directory authority network kind serial) := by
  refine only_bind (by simpa using loads) fun _ => ?_
  exact only_bind (by simp) fun _ => by simp
end Calls

/-! A small deployment: one Sister, one authority, a human that may submit jobs.
Everything in it was signed by the key it names. Its decoders know the encodings
of the few values the deployment meets, its parsers one Iroh endpoint. -/

def recognise {Value : Type} (encode : Value → List UInt8) (values : List Value) : Decoder Value :=
  fun bytes =>
    match values.find? (encode · == bytes) with
    | some value => .ok value
    | none => .error "unexpected end of file"

variable {Value : Type}

theorem recognise_first (encode : Value → List UInt8) (value : Value) (others : List Value) :
    recognise encode (value :: others) (encode value) = .ok value := by
  simp [recognise]

variable {encode : Value → List UInt8} {values : List Value} {bytes : List UInt8} {value : Value}

theorem recognise_known (decoded : recognise encode values bytes = .ok value) :
    value ∈ values := by
  unfold recognise at decoded
  split at decoded
  · cases decoded
    exact List.mem_of_find?_eq_some ‹_›
  · cases decoded

theorem recognise_encoded (decoded : recognise encode values bytes = .ok value) :
    encode value = bytes := by
  unfold recognise at decoded
  split at decoded
  · rename_i found
    cases decoded
    exact beq_iff_eq.mp (List.find?_some (p := fun value => encode value == bytes) found)
  · cases decoded

def sampleEndpointId : IrohEndpointId := Bytes.fill 32 7

def sampleEndpointText : String := String.ofList (hex sampleEndpointId.toList)

-- An address without relay and direct addresses.
def sampleAddr : EndpointAddr := ⟨sampleEndpointId, "[]"⟩

def endpointAddrJson (addr : EndpointAddr) : String :=
  "\x7b\"id\":\"" ++ String.ofList (hex addr.id.toList) ++ "\",\"addrs\":" ++ addr.routes ++ "\x7d"

def samplePlatform : Platform where
  verifies := fun _ _ _ => true
  parseSocketAddr := fun text => .ok ⟨text⟩
  parseEndpointAddr := fun text =>
    if text = endpointAddrJson sampleAddr then .ok sampleAddr else .error "expected value"
  displayEndpointAddr := endpointAddrJson
  parentDir := fun _ => none
  joinPath := fun root name => root ++ "/" ++ name
  parseEndpointId := fun text =>
    if text = sampleEndpointText then .ok sampleEndpointId else .error "invalid key"
  decrypt := .ok
  envelope := fun _ => .error "envelope"
  controlRequest := fun _ => .error "control request"
  helloData := fun _ => .error "hello"
  stateData := fun _ => .error "state"
  jobData := fun _ => .error "job"
  jobResultData := fun _ => .error "job result"
  peerRecordsData := fun _ => .error "peer records"
  clientHello := fun _ => .error "client hello"
  serverHello := fun _ => .error "server hello"
  transferRequest := fun _ => .error "transfer request"
  transferV1Request := fun _ => .error "transfer v1 request"
  transferV1Chunk := fun _ => .error "transfer v1 chunk"
  transferV2Request := fun _ => .error "transfer v2 request"
  tunnelRequest := fun _ => .error "tunnel request"
  transferV1State := fun _ => .error "transfer v1 state"
  transferV2State := fun _ => .error "transfer v2 state"
  transferV1Json := fun _ => []
  transferV2Json := fun _ => []

theorem sample_endpoint_parses {platform : Platform}
    (parser : platform.parseEndpointAddr = samplePlatform.parseEndpointAddr) :
    parseEndpoint platform ("iroh://" ++ endpointAddrJson sampleAddr) = .ok (.iroh sampleAddr) := by
  have notTcp : stripLeading "tcp://" ("iroh://" ++ endpointAddrJson sampleAddr) = none := by
    decide +kernel
  have iroh : stripLeading "iroh://" ("iroh://" ++ endpointAddrJson sampleAddr) =
      some (endpointAddrJson sampleAddr) := strip_leading_some.mpr rfl
  simp only [parseEndpoint, notTcp, iroh, parser, samplePlatform, if_true]

def sampleNetwork : NetworkId := ⟨Bytes.fill 16 1⟩

def sampleAuthority : NetworkAuthority := ⟨sampleNetwork, Bytes.fill 32 2⟩

def sampleHuman : HumanIdentity := ⟨⟨Bytes.fill 16 3⟩, "operator", Bytes.fill 32 4⟩

def sampleMembership : HumanMembershipCertificate :=
  ⟨sampleNetwork, sampleHuman, .operator, 0, none, 1, Bytes.fill 64 0⟩

def sampleAuthorization (permission : Permission) (constraints : List String) :
    CommandAuthorization where
  networkId := sampleNetwork
  issuer := sampleHuman
  membership := sampleMembership
  role := .operator
  permission := permission
  target := some (.sister 1)
  constraints := constraints
  issuedAt := 0
  expiresAt := 10
  nonce := Bytes.fill 16 5
  signature := Bytes.fill 64 0

def sampleNode : NodeConfig where
  networkId := sampleNetwork
  identity := ⟨1, "misaka", "host", "linux", "0.1.0", 7777⟩
  streamBackend := .iroh
  authenticatedSession := none
  allowUnauthenticatedOperations := false
  probeOnly := false
  peerRecord := none
  dataDir := "data"
  listenAddr := "127.0.0.1:7777"
  streamEndpoint := none
  streamCertificate := none

def sampleState : NodeState where
  clock := 5
  peers := ⟨∅, ∅⟩
  records := ∅
  jobs := ⟨[], ∅, ∅⟩
  directories := fun _ => ⟨.present sampleAuthority, .absent, .absent⟩

def sampleSpent (authorization : CommandAuthorization) : NodeState :=
  sampleState.setNonces "data" (.present [nonceEntry authorization])
end Misaka.NodeRuntime
