import Misaka.AuthenticatedSession

/-!
Sending control messages. On the Iroh backend a message goes to the first Iroh
endpoint of the peer's row, else to the endpoint of its record, over a freshly
dialled and authenticated stream; the handshake is pinned to the envelope's
recipient unless that is zero. With no Iroh endpoint known the legacy TCP
control plane is used. The one-way and the answered form share one path.
-/

namespace Misaka.ControlChannel
open Bincode Identity Protocol PeerKnowledge EffectTask NodeRuntime AuthenticatedSession

def MAX_CONTROL_FRAME_LENGTH : Nat := 4 * 1024 * 1024
def MAX_FRAME_LENGTH : Nat := 4 * 1024 * 1024

section Code
variable (platform : Platform) (node : NodeConfig)

def readControlFrame {Value : Type} (decode : Decoder Value) (stream : NetworkStream) :
    RuntimeTask NetworkError Value :=
  readFrame MAX_CONTROL_FRAME_LENGTH (.authentication "control frame is too large") .io
    .authentication decode stream

def writeControlFrame (payload : List UInt8) (stream : NetworkStream) (frame : StreamFrame) :
    RuntimeTask NetworkError Unit :=
  writeFrame MAX_CONTROL_FRAME_LENGTH (.authentication "control frame is too large") .io payload
    stream frame

-- `(envelope.to != 0).then_some(envelope.to)`.
def recipientPin (envelope : Envelope) : Option SisterId :=
  if envelope.recipient ≠ 0 then some envelope.recipient else none

/-- The stream a control request may use: authenticated when a session is
configured, as opened otherwise. -/
def openControlStream (auth : Option AuthenticatedSessionConfig) (endpoint : EndpointAddr)
    (network : NetworkId) (pin : Option SisterId) (keyPin : Option PublicKey) :
    RuntimeTask NetworkError NetworkStream := do
  let session ← perform (.connectSession endpoint network)
  let session ← orError id session
  let stream ← perform (.openStream session)
  let stream ← orError id stream
  match auth with
  | some auth => authenticateClient platform auth stream pin keyPin
  | none => pure stream

-- The first half of `send`: the request is on the wire.
def sendRequest (endpoint : EndpointAddr) (network : NetworkId)
    (auth : Option AuthenticatedSessionConfig) (request : ControlRequest)
    (expectedSisterPublicKey : Option PublicKey) : RuntimeTask NetworkError NetworkStream := do
  let stream ← openControlStream platform auth endpoint network (recipientPin request.envelope)
    expectedSisterPublicKey
  let greeting ← perform (.readExact stream 5)
  let greeting ← orError .io greeting
  ensure (greeting == utf8 "world") (.authentication "unexpected Iroh control greeting")
  let written ← perform (.write stream .controlMagic)
  orError .io written
  writeControlFrame request.encode stream (.control request)
  pure stream

def send (endpoint : EndpointAddr) (network : NetworkId)
    (auth : Option AuthenticatedSessionConfig) (envelope : Envelope) (expectResponse : Bool)
    (expectedSisterPublicKey : Option PublicKey) : RuntimeTask NetworkError (Option Envelope) := do
  let stream ← sendRequest platform endpoint network auth ⟨envelope, expectResponse⟩
    expectedSisterPublicKey
  if expectResponse then
    let response ← readControlFrame platform.envelope stream
    pure (some response)
  else pure none

def irohEndpointOf (endpoint : String) : Option EndpointAddr :=
  match parseEndpoint platform endpoint with
  | .ok (.iroh addr) => some addr
  | _ => none

def rowEndpoint (row : Option PeerState) : Option EndpointAddr :=
  row.bind fun state => state.streamEndpoints.findSome? (irohEndpointOf platform)

def recordEndpoint (record : Option PeerRecord) : Option EndpointAddr :=
  record.bind fun known => irohEndpointOf platform known.endpointAddr

def irohPeerEndpoint (peer : SisterId) : RuntimeTask MisakaError (Option EndpointAddr) :=
  match node.streamBackend with
  | .directTcp => pure none
  | .iroh => do
      let row ← perform (.peerGet peer)
      match rowEndpoint platform row with
      | some endpoint => pure (some endpoint)
      | none => do
          let record ← perform (.recordGet peer)
          pure (recordEndpoint platform record)

def addrOf (row : Option PeerState) : Option SocketAddr :=
  row.bind fun state => (platform.parseSocketAddr state.addr).toOption

def readEnvelope (stream : TcpStream) : RuntimeTask MisakaError Envelope := do
  let header ← perform (.tcpRead stream 4)
  let header ← orError .io header
  let length := ofBigEndian header
  ensure (length ≤ MAX_FRAME_LENGTH) (.frameTooLarge length MAX_FRAME_LENGTH)
  let buffer ← perform (.tcpRead stream length)
  let buffer ← orError .io buffer
  let decrypted ← orError .crypto (platform.decrypt buffer)
  let envelope ← orError .serde (platform.envelope decrypted)
  ensure (envelope.protocolVersion == PROTOCOL_VERSION)
    (.other ("unsupported protocol version: expected " ++ toString PROTOCOL_VERSION.toNat ++
      ", got " ++ toString envelope.protocolVersion.toNat))
  pure envelope

variable (addr : SocketAddr) (envelope : Envelope)

def tcpOpenAndWrite :
    RuntimeTask MisakaError TcpStream := do
  let stream ← perform (.tcpConnect addr)
  let stream ← orError .io stream
  let written ← perform (.tcpWrite stream envelope)
  orError id written
  pure stream

def sendTo : RuntimeTask MisakaError Envelope := do
  let stream ← tcpOpenAndWrite addr envelope
  readEnvelope platform stream

def sendFire : RuntimeTask MisakaError Unit := do
  let _ ← tcpOpenAndWrite addr envelope

def sendToPeer (peer : SisterId) (envelope : Envelope) : RuntimeTask MisakaError Envelope := do
  match ← irohPeerEndpoint platform node peer with
  | some endpoint => do
      let response ← mapError (fun error => .network error.display)
        (send platform endpoint node.networkId node.authenticatedSession envelope true none)
      orFail response (.network "Iroh control channel returned no response")
  | none => do
      let row ← perform (.peerGet peer)
      let addr ← orFail (addrOf platform row)
        (.other ("no address for executor #" ++ toString peer.toNat))
      sendTo platform addr envelope

def sendFireToPeer (peer : SisterId) (envelope : Envelope) : RuntimeTask MisakaError Unit := do
  match ← irohPeerEndpoint platform node peer with
  | some endpoint => do
      let _ ← mapError (fun error => .network error.display)
        (send platform endpoint node.networkId node.authenticatedSession envelope false none)
  | none => do
      let row ← perform (.peerGet peer)
      let addr ← orFail (addrOf platform row)
        (.other ("no address for Sister #" ++ toString peer.toNat))
      sendFire addr envelope

def stateEnvelope (snapshot : ResourceSnapshot) : Envelope :=
  let state : StateData :=
    { networkId := node.networkId
      identity := node.identity
      listenAddr := node.listenAddr
      streamAddr := node.streamEndpoint
      streamCertificate := node.streamCertificate
      cpuUsage := snapshot.cpuUsage
      memoryTotal := snapshot.memoryTotal
      memoryUsed := snapshot.memoryUsed
      runningJobs := snapshot.runningJobs
      queuedJobs := snapshot.queuedJobs
      uptimeSecs := snapshot.uptimeSecs
      capabilities := snapshot.capabilities }
  Envelope.new node.networkId .state node.identity.id 0 state.encode

/-- One turn of `state_broadcast_loop`: a peer that cannot be reached is skipped. -/
def broadcastState : RuntimeTask MisakaError Unit := do
  let snapshot ← perform .localState
  let rows : List PeerState ← perform RuntimeOp.peerAll
  forEach (rows.map (·.id)) fun peer => do
    let _ ← (attempt (sendFireToPeer platform node peer (stateEnvelope node snapshot)) :
      RuntimeTask MisakaError (Except MisakaError Unit))
end Code

/-! Vocabulary: what sending can do besides writing the message itself. -/
section Vocabulary
variable {platform : Platform} {node : NodeConfig}

def DialOp : RuntimeOp → Prop
  | .nowSecs | .random32 | .sign _ _ | .loadRevocations _ => True
  | .connectSession _ _ | .openStream _ | .readExact _ _ => True
  | .write _ (.clientHello _) | .write _ (.serverHello _) | .write _ .controlMagic => True
  | _ => False

def SendOp (envelope : Envelope) : RuntimeOp → Prop
  | .peerGet _ | .recordGet _ | .tcpConnect _ | .tcpRead _ _ => True
  | .write _ (.control request) => request.envelope = envelope
  | .tcpWrite _ sent => sent = envelope
  | op => DialOp op

-- The message leaves the node, on either transport.
def WritesEnvelope : RuntimeOp → Envelope → Prop
  | .write _ (.control request), sent => request.envelope = sent
  | .tcpWrite _ written, sent => written = sent
  | _, _ => False

theorem handshake_op_dials {stream : NetworkStream} (op : RuntimeOp)
    (handshake : HandshakeOp stream op) : DialOp op := by
  unfold HandshakeOp at handshake
  split at handshake <;> simp_all [DialOp]

theorem dial_op_sends (envelope : Envelope) (op : RuntimeOp) (dials : DialOp op) :
    SendOp envelope op := by
  unfold DialOp at dials
  split at dials <;> simp_all [SendOp, DialOp]

theorem only_open_control_stream (auth : Option AuthenticatedSessionConfig)
    (endpoint : EndpointAddr) (network : NetworkId) (pin : Option SisterId)
    (keyPin : Option PublicKey) :
    Only DialOp (openControlStream platform auth endpoint network pin keyPin) := by
  refine only_perform_bind trivial fun _ => ?_
  refine only_bind (by simp) fun session => ?_
  refine only_perform_bind trivial fun _ => ?_
  refine only_bind (by simp) fun stream => ?_
  cases auth with
  | none => simp
  | some auth =>
    exact only_mono (only_authenticate_client platform auth stream pin keyPin) handshake_op_dials

theorem only_send_request (endpoint : EndpointAddr) (network : NetworkId)
    (auth : Option AuthenticatedSessionConfig) (request : ControlRequest)
    (keyPin : Option PublicKey) :
    Only (SendOp request.envelope) (sendRequest platform endpoint network auth request keyPin) := by
  refine only_bind (only_mono (only_open_control_stream auth endpoint network _ keyPin)
    (dial_op_sends request.envelope)) fun stream => ?_
  refine only_perform_bind trivial fun _ => ?_
  refine only_bind (by simp) fun _ => ?_
  refine only_bind (by simp) fun _ => ?_
  refine only_perform_bind trivial fun _ => ?_
  refine only_bind (by simp) fun _ => ?_
  exact only_bind (only_write_frame rfl) fun _ => by simp

theorem only_send (endpoint : EndpointAddr) (network : NetworkId)
    (auth : Option AuthenticatedSessionConfig) (envelope : Envelope) (expectResponse : Bool)
    (keyPin : Option PublicKey) :
    Only (SendOp envelope)
      (send platform endpoint network auth envelope expectResponse keyPin) := by
  refine only_bind (only_send_request endpoint network auth ⟨envelope, expectResponse⟩ keyPin)
    fun stream => ?_
  cases expectResponse with
  | false => simp
  | true => exact only_bind (only_read_frame fun _ => trivial) fun _ => by simp

theorem only_iroh_peer_endpoint (envelope : Envelope) (peer : SisterId) :
    Only (SendOp envelope) (irohPeerEndpoint platform node peer) := by
  unfold irohPeerEndpoint
  split
  · simp
  · refine only_perform_bind trivial fun row => ?_
    split
    · simp
    · exact only_perform_bind trivial fun _ => by simp

theorem only_tcp_open_and_write (addr : SocketAddr) (envelope : Envelope) :
    Only (SendOp envelope) (tcpOpenAndWrite addr envelope) := by
  refine only_perform_bind trivial fun _ => ?_
  refine only_bind (by simp) fun stream => ?_
  refine only_perform_bind rfl fun _ => ?_
  exact only_bind (by simp) fun _ => by simp

theorem only_read_envelope (stream : TcpStream) :
    Only (fun op => ∃ count, op = RuntimeOp.tcpRead stream count)
      (readEnvelope platform stream) := by
  refine only_bind ((only_perform _).mpr ⟨4, rfl⟩) fun _ => ?_
  refine only_bind (by simp) fun header => ?_
  refine only_bind (by simp) fun _ => ?_
  refine only_bind ((only_perform _).mpr ⟨_, rfl⟩) fun _ => ?_
  refine only_bind (by simp) fun buffer => ?_
  refine only_bind (by simp) fun decrypted => ?_
  refine only_bind (by simp) fun envelope => ?_
  exact only_bind (by simp) fun _ => by simp

theorem only_send_fire_to_peer (peer : SisterId) (envelope : Envelope) :
    Only (SendOp envelope) (sendFireToPeer platform node peer envelope) := by
  refine only_bind (only_iroh_peer_endpoint envelope peer) fun endpoint => ?_
  cases endpoint with
  | some endpoint =>
    exact only_bind (only_map_error (only_send endpoint _ _ envelope false none)) fun _ => by simp
  | none =>
    refine only_perform_bind trivial fun row => ?_
    refine only_bind (by simp) fun addr => ?_
    exact only_bind (only_tcp_open_and_write addr envelope) fun _ => by simp
end Vocabulary

/-! The sample deployment as a member of its Network, and a request it gets through. -/

def sampleMember : NodeConfig := { sampleNode with authenticatedSession := some sampleSession }

variable (endpoints : List String)

def sampleRow : PeerState where
  networkId := sampleNetwork
  id := 2
  nickname := "sister"
  hostname := "host"
  platform := "linux"
  version := "0.1.0"
  streamEndpoints := endpoints
  streamCertificate := none
  addr := "127.0.0.1:7778"
  cpuUsage := 0
  memoryTotal := 0
  memoryUsed := 0
  runningJobs := 0
  queuedJobs := 0
  uptimeSecs := 0
  capabilities := []

def peeredState : NodeState :=
  { sampleState with peers := ⟨Finmap.singleton 2 (sampleRow endpoints), ∅⟩ }

theorem peered_row :
    (peeredState endpoints).peers.get 2 = some (sampleRow endpoints) :=
  Finmap.lookup_singleton_eq

def requestTrace (id : SisterId) (key : PublicKey) (state : NodeState) (endpoint : EndpointAddr)
    (request : ControlRequest) : NodeTrace :=
  [⟨state, .write sampleStream (.control request), .ok (), state⟩,
    ⟨state, .write sampleStream .controlMagic, .ok (), state⟩,
    ⟨state, .readExact sampleStream 5, .ok (utf8 "world"), state⟩] ++
  handshakeTrace id key state ++
  [⟨state, .openStream ⟨0⟩, .ok sampleStream, state⟩,
    ⟨state, .connectSession endpoint sampleNetwork, .ok ⟨0⟩, state⟩]

theorem sample_request_runs {platform : Platform} {id : SisterId} {key : PublicKey}
    (responds : Responds platform id key) (state : NodeState) (trace : NodeTrace)
    (listed : (state.directories "data").revocations = .absent) (endpoint : EndpointAddr)
    {request : ControlRequest} {keyPin : Option PublicKey}
    (pinned : (recipientPin request.envelope).all (id == ·) = true)
    (keyPinned : keyPin.all (key == ·) = true)
    (fits : request.encode.length ≤ MAX_CONTROL_FRAME_LENGTH) :
    Reaches (traceStep (NodeStep platform))
      (sendRequest platform endpoint sampleNetwork (some sampleSession) request keyPin) trace
      (.done sampleStream) (requestTrace id key state endpoint request ++ trace) := by
  have connect : NodeStep platform state (.connectSession endpoint sampleNetwork) (.ok ⟨0⟩)
      state := rfl
  have opening : NodeStep platform state (.openStream ⟨0⟩) (.ok sampleStream) state := rfl
  have greeting : NodeStep platform state (.readExact sampleStream 5) (.ok (utf8 "world")) state :=
    rfl
  have magic : NodeStep platform state (.write sampleStream .controlMagic) (.ok ()) state := rfl
  have opened : Reaches (traceStep (NodeStep platform))
      (openControlStream platform (some sampleSession) endpoint sampleNetwork
        (recipientPin request.envelope) keyPin) trace (.done sampleStream)
      (handshakeTrace id key state ++ ⟨state, .openStream ⟨0⟩, .ok sampleStream, state⟩ ::
        ⟨state, .connectSession endpoint sampleNetwork, .ok ⟨0⟩, state⟩ :: trace) := by
    refine reaches_perform connect ?_
    refine reaches_perform opening ?_
    exact sample_handshake responds state _ listed pinned keyPinned
  refine reaches_bind opened ?_
  refine reaches_perform greeting ?_
  refine reaches_perform magic ?_
  simp only [or_error_ok, done_bind, requestTrace, List.append_assoc]
  exact reaches_bind (write_frame_runs state _ fits) (.here _ _)
end Misaka.ControlChannel
