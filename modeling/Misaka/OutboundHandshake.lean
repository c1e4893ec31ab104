import Misaka.ControlDelivery
import Misaka.Dispatch

/-!
Connecting to an Iroh peer by explicit endpoint, by a Gateway's peer record or
by an mDNS announcement. All three exchange a Hello over an authenticated stream
and write a row for the identity that the reply, or the announcement, names.
Neither is compared with the identity the session authenticated.
-/

namespace Misaka.OutboundHandshake
open Bincode Identity Protocol PeerKnowledge EffectTask NodeRuntime AuthenticatedSession
open ControlChannel ControlDelivery Dispatch

/-- What `instance_to_peer` makes of an mDNS instance. -/
structure DiscoveredPeer where
  networkId : NetworkId
  id : SisterId
  nickname : String
  controlAddr : SocketAddr
  streamEndpoint : Option NetworkEndpoint

/-- The TXT attributes the discovery loop reads itself: absent, without a value,
or with one. -/
structure TxtAttributes where
  nick : Option (Option String)
  host : Option (Option String)
  platform : Option (Option String)

section Code
variable (platform : Platform) (node : NodeConfig)

def helloEnvelopeTo (recipient : SisterId) : Envelope :=
  Envelope.new node.networkId .hello node.identity.id recipient (ownHello node).encode

def recordHelloReply (reply : Envelope) : RuntimeTask MisakaError Unit := do
  ensure (reply.msgType == .hello)
    (.protocol ("expected Hello response, got " ++ reply.msgType.display))
  let hello ← orError .serde (platform.helloData reply.data)
  ensure (hello.networkId == node.networkId) (foreignNetwork node "peer" hello.networkId)
  rememberPeer node hello

def irohAddr : NetworkEndpoint → Option EndpointAddr
  | .iroh addr => some addr
  | .tcp _ => none

def exchangeHello (addr : EndpointAddr) (recipient : SisterId) (keyPin : Option PublicKey)
    (silence : String) : RuntimeTask MisakaError Envelope := do
  let reply ← mapError (fun error => .network error.display)
    (send platform addr node.networkId node.authenticatedSession (helloEnvelopeTo node recipient)
      true keyPin)
  orFail reply (.network silence)

variable (endpoint : NetworkEndpoint)

def connectIroh (expectedSisterId : Option SisterId) (expectedSisterPublicKey : Option PublicKey) :
    RuntimeTask MisakaError Unit := do
  let addr ← orFail (irohAddr endpoint) (.other "Iroh bootstrap requires an iroh:// endpoint")
  ensure (node.streamBackend == .iroh) (.other "Iroh bootstrap requires the Iroh stream backend")
  let reply ← exchangeHello platform node addr (expectedSisterId.getD 0) expectedSisterPublicKey
    "Iroh Hello returned no response"
  recordHelloReply platform node reply

def addKnownIrohPeer : RuntimeTask MisakaError Unit :=
  connectIroh platform node endpoint none none

def endpointMatches (record : PeerRecord) : Bool :=
  (irohAddr endpoint).any (·.id == record.transportBinding.irohEndpointId)

def bootstrapPeerRecord (record : PeerRecord) : RuntimeTask MisakaError Unit := do
  ensure (record.networkId == node.networkId && record.verify platform.verifies)
    (.other "rejecting invalid or foreign PeerRecord")
  let endpoint ← orError (fun error => .other ("invalid PeerRecord endpoint: " ++ error))
    (parseEndpoint platform record.endpointAddr)
  ensure (endpointMatches endpoint record)
    (.other "PeerRecord endpoint disagrees with its TransportBinding")
  connectIroh platform node endpoint (some record.sisterId) (some record.sisterPublicKey)
  rememberPeerRecord platform node record

variable (peer : DiscoveredPeer)

def greetDiscovered : RuntimeTask MisakaError Envelope :=
  match node.streamBackend, peer.streamEndpoint with
  | .iroh, some (.iroh addr) =>
    exchangeHello platform node addr 0 none "Iroh Hello control channel returned no response"
  | _, _ => sendTo platform peer.controlAddr (helloEnvelopeTo node 0)

def addKnownDiscoveredPeer : RuntimeTask MisakaError Unit := do
  let reply ← greetDiscovered platform node peer
  recordHelloReply platform node reply

def announcedRow (nick : Option String) (txt : TxtAttributes) :
    PeerState where
  networkId := peer.networkId
  id := peer.id
  nickname := nick.getD ("misaka-" ++ toString peer.id.toNat)
  hostname := txt.host.join.getD ""
  platform := txt.platform.join.getD ""
  version := ""
  streamEndpoints := (peer.streamEndpoint.map (·.display platform)).toList
  streamCertificate := none
  addr := peer.controlAddr.text
  cpuUsage := 0
  memoryTotal := 0
  memoryUsed := 0
  runningJobs := 0
  queuedJobs := 0
  uptimeSecs := 0
  capabilities := []

def endpointKnown (known : Option PeerState) (peer : DiscoveredPeer) : Bool :=
  known.any (·.streamEndpoints == (peer.streamEndpoint.map (·.display platform)).toList)

def greetAnnounced (peer : DiscoveredPeer) (txt : TxtAttributes) (nick : Option String) :
    RuntimeTask MisakaError Unit := do
  match ← attempt (addKnownDiscoveredPeer platform node peer) with
  | .error _ => pure ()
  | .ok _ => upsertPeer node (announcedRow platform peer nick txt)

/-- One turn of `mdns_loop`. -/
def discoverPeer (peer : DiscoveredPeer) (txt : TxtAttributes) : RuntimeTask MisakaError Unit :=
  if peer.id = node.identity.id then pure ()
  else if peer.networkId ≠ node.networkId then pure ()
  else do
    let known ← perform (RuntimeOp.peerGet peer.id)
    let row ← perform (RuntimeOp.peerGet peer.id)
    if addrOf platform row == some peer.controlAddr && endpointKnown platform known peer then
      pure ()
    else
      match txt.nick with
      | none => pure ()
      | some nick => greetAnnounced platform node peer txt nick
end Code

/-- The three ways to connect to an Iroh peer. -/
inductive Outbound where
  | explicit (endpoint : NetworkEndpoint)
  | record (found : PeerRecord)
  | discovered (peer : DiscoveredPeer) (txt : TxtAttributes)
      (dialable : ∃ addr, peer.streamEndpoint = some (.iroh addr))

def Outbound.task (platform : Platform) (node : NodeConfig) :
    Outbound → RuntimeTask MisakaError Unit
  | .explicit endpoint => addKnownIrohPeer platform node endpoint
  | .record found => bootstrapPeerRecord platform node found
  | .discovered peer txt _ => discoverPeer platform node peer txt

def Outbound.announced : Outbound → Option SisterId
  | .discovered peer _ _ => some peer.id
  | _ => none

/-! Every row an outbound handshake writes is written after the dial, for an id
that the reply on the dialled stream or the announcement names. -/
section Rows
variable (platform : Platform) (node : NodeConfig) (auth : AuthenticatedSessionConfig)

def Named (announced : Option SisterId) (stream : NetworkStream) (trace : NodeTrace)
    (id : SisterId) : Prop :=
  (∃ reply hello, ReadFrom platform.envelope stream trace reply ∧ reply.msgType = .hello ∧
    platform.helloData reply.data = .ok hello ∧ hello.networkId = node.networkId ∧
    hello.identity.id = id) ∨ announced = some id

-- The session of this connection authenticated its responder with the hello.
def Responder (hello : AuthenticatedServerHello) (stream : NetworkStream) (trace : NodeTrace) :
    Prop :=
  ∃ endpoint pin keyPin,
    Dialled platform auth endpoint node.networkId pin keyPin hello stream trace

def RowGuard (announced : Option SisterId) (trace : NodeTrace) : RuntimeOp → Prop
  | .peerUpsert state => ∃ hello stream, Responder platform node auth hello stream trace ∧
      Named platform node announced stream trace state.id
  | _ => True

variable {platform node auth}

variable {hello : AuthenticatedServerHello} {stream : NetworkStream}

theorem responder_suffix {trace longer : NodeTrace} (kept : trace <:+ longer)
    (responder : Responder platform node auth hello stream trace) :
    Responder platform node auth hello stream longer := by
  obtain ⟨endpoint, pin, keyPin, dialled⟩ := responder
  exact ⟨endpoint, pin, keyPin, dialled_suffix kept dialled⟩

variable {trace : NodeTrace} {announced : Option SisterId}

theorem send_op_writes_no_row {envelope : Envelope} (op : RuntimeOp) (sends : SendOp envelope op) :
    RowGuard platform node auth announced trace op := by
  unfold RowGuard
  split
  · exact absurd sends id
  · trivial

theorem exchange_hello_spec (session : node.authenticatedSession = some auth)
    (announced : Option SisterId) (addr : EndpointAddr) (recipient : SisterId)
    (keyPin : Option PublicKey) (silence : String) :
    Holds (traceStep (NodeStep platform)) (RowGuard platform node auth announced)
      (exchangeHello platform node addr recipient keyPin silence)
      (fun longer reply => ∃ hello stream,
        Dialled platform auth addr node.networkId
          (recipientPin (helloEnvelopeTo node recipient)) keyPin hello stream longer ∧
        ReadFrom platform.envelope stream longer reply)
      (fun _ _ => True) trace := by
  simp only [exchangeHello, session, holds_bind, holds_map_error, holds_or_fail, implies_true,
    and_true]
  refine holds_mono (holds_guarded (holds_guard_mono (send_spec _ true) fun _ _ _ => trivial)
    (only_send addr _ _ (helloEnvelopeTo node recipient) true keyPin)
    (fun _ op _ sends => send_op_writes_no_row op sends)) ?_ (fun _ _ _ => trivial)
  rintro longer response ⟨⟨stream, hello, dialled, received⟩, _⟩ reply answered
  exact ⟨hello, stream, dialled, received reply answered⟩

theorem record_hello_reply_spec {reply : Envelope}
    (responder : Responder platform node auth hello stream trace)
    (received : ReadFrom platform.envelope stream trace reply) :
    Holds (traceStep (NodeStep platform)) (RowGuard platform node auth announced)
      (recordHelloReply platform node reply) (fun longer _ => trace <:+ longer)
      (fun _ _ => True) trace := by
  simp only [recordHelloReply, holds_bind, holds_ensure, holds_or_error, implies_true, and_true,
    beq_iff_eq]
  intro isHello data decoded network
  unfold rememberPeer upsertPeer
  split
  · simp
  · split
    · simp
    · refine (holds_trace_perform _).mpr ⟨⟨hello, stream, responder, Or.inl ?_⟩, ?_⟩
      · exact ⟨reply, data, received, isHello, decoded, network, rfl⟩
      · exact fun _ _ _ _ => List.suffix_cons _ _

theorem connect_iroh_spec (session : node.authenticatedSession = some auth)
    (announced : Option SisterId) (endpoint : NetworkEndpoint) (expectedSisterId : Option SisterId)
    (keyPin : Option PublicKey) :
    Holds (traceStep (NodeStep platform)) (RowGuard platform node auth announced)
      (connectIroh platform node endpoint expectedSisterId keyPin)
      (fun longer _ => ∃ addr hello stream, irohAddr endpoint = some addr ∧
        Dialled platform auth addr node.networkId
          (recipientPin (helloEnvelopeTo node (expectedSisterId.getD 0))) keyPin hello stream
          longer)
      (fun _ _ => True) trace := by
  simp only [connectIroh, holds_bind, holds_or_fail, holds_ensure, implies_true, and_true]
  intro addr isIroh _
  refine holds_mono (exchange_hello_spec session announced addr _ keyPin _) ?_
    (fun _ _ _ => trivial)
  rintro answered reply ⟨hello, stream, dialled, received⟩
  refine holds_mono (record_hello_reply_spec ⟨addr, _, keyPin, dialled⟩ received) ?_
    (fun _ _ _ => trivial)
  intro longer _ kept
  exact ⟨addr, hello, stream, isIroh, dialled_suffix kept dialled⟩

theorem only_remember_upserts (record : PeerRecord) :
    Only (fun op => op = RuntimeOp.recordUpsert node.networkId record)
      (rememberPeerRecord platform node record) := by
  unfold rememberPeerRecord
  split
  · simp
  · split
    · simp
    · exact only_perform_bind rfl fun _ => by simp

/-- What a finished bootstrap has checked and whom it reached. -/
theorem bootstrap_peer_record_spec (session : node.authenticatedSession = some auth)
    (announced : Option SisterId) (record : PeerRecord) :
    Holds (traceStep (NodeStep platform)) (RowGuard platform node auth announced)
      (bootstrapPeerRecord platform node record)
      (fun longer _ => ∃ addr hello stream,
        parseEndpoint platform record.endpointAddr = .ok (.iroh addr) ∧
        addr.id = record.transportBinding.irohEndpointId ∧
        Dialled platform auth addr node.networkId
          (recipientPin (helloEnvelopeTo node record.sisterId)) (some record.sisterPublicKey) hello
          stream longer)
      (fun _ _ => True) trace := by
  simp only [bootstrapPeerRecord, holds_bind, holds_or_error, holds_ensure, implies_true, and_true]
  intro _ endpoint parsed bound
  refine holds_mono (connect_iroh_spec session announced endpoint (some record.sisterId)
    (some record.sisterPublicKey)) ?_ (fun _ _ _ => trivial)
  rintro connected _ ⟨addr, hello, stream, isIroh, dialled⟩
  refine holds_mono (holds_of_only (only_remember_upserts record) ?_) ?_ (fun _ _ _ => trivial)
  · rintro _ _ _ rfl
    trivial
  · intro longer _ extended
    cases endpoint with
    | tcp _ => cases isIroh
    | iroh found =>
      obtain rfl : found = addr := Option.some.inj isIroh
      refine ⟨found, hello, stream, parsed, ?_, dialled_suffix (extends_suffix extended) dialled⟩
      simpa [endpointMatches, irohAddr] using bound

variable (iroh : node.streamBackend = .iroh)
include iroh

theorem greet_announced_spec (session : node.authenticatedSession = some auth)
    (peer : DiscoveredPeer) (txt : TxtAttributes) (nick : Option String) {addr : EndpointAddr}
    (dialable : peer.streamEndpoint = some (.iroh addr)) :
    Holds (traceStep (NodeStep platform)) (RowGuard platform node auth (some peer.id))
      (greetAnnounced platform node peer txt nick) (fun _ _ => True) (fun _ _ => True) trace := by
  simp only [greetAnnounced, addKnownDiscoveredPeer, greetDiscovered, iroh, dialable, holds_bind,
    holds_attempt]
  refine holds_mono (exchange_hello_spec session (some peer.id) addr 0 none _) ?_ ?_
  · rintro answered reply ⟨hello, stream, dialled, received⟩
    refine holds_mono (record_hello_reply_spec ⟨addr, _, none, dialled⟩ received) ?_ ?_
    · intro longer _ kept
      unfold upsertPeer
      split
      · simp
      · refine (holds_trace_perform _).mpr ⟨⟨hello, stream, ?_, Or.inr rfl⟩, fun _ _ _ _ => trivial⟩
        exact responder_suffix kept ⟨addr, _, none, dialled⟩
    · intro _ _ _
      simp
  · intro _ _ _
    simp

theorem discover_peer_spec (session : node.authenticatedSession = some auth) (peer : DiscoveredPeer)
    (txt : TxtAttributes) (dialable : ∃ addr, peer.streamEndpoint = some (.iroh addr)) :
    Holds (traceStep (NodeStep platform)) (RowGuard platform node auth (some peer.id))
      (discoverPeer platform node peer txt) (fun _ _ => True) (fun _ _ => True) [] := by
  obtain ⟨addr, dialable⟩ := dialable
  unfold discoverPeer
  split
  · simp
  · split
    · simp
    · simp only [holds_bind, holds_trace_perform]
      refine ⟨trivial, ?_⟩
      intro known s₁ s₂ _
      refine ⟨trivial, ?_⟩
      intro row s₃ s₄ _
      split
      · simp
      · split
        · simp
        · exact greet_announced_spec iroh session peer txt _ dialable

theorem outbound_guarded (session : node.authenticatedSession = some auth) (way : Outbound) :
    Holds (traceStep (NodeStep platform)) (RowGuard platform node auth way.announced)
      (way.task platform node) (fun _ _ => True) (fun _ _ => True) [] := by
  cases way with
  | explicit endpoint =>
    exact holds_mono (connect_iroh_spec session none endpoint none none) (fun _ _ _ => trivial)
      (fun _ _ _ => trivial)
  | record found =>
    exact holds_mono (bootstrap_peer_record_spec session none found) (fun _ _ _ => trivial)
      (fun _ _ _ => trivial)
  | discovered peer txt dialable => exact discover_peer_spec iroh session peer txt dialable

omit iroh

-- Writing a row leaves all others alone only if it is the row of that id.
theorem upsert_keeps_rows_iff (state : PeerState) (id : SisterId) :
    (∀ before after, NodeStep platform before (.peerUpsert state) () after →
      SameRowsBut id before.peers after.peers) ↔ state.id = id := by
  constructor
  · intro keeps
    by_contra other
    have same := keeps sampleState _ ⟨0, rfl⟩ state.id other
    rw [upsert_own_row] at same
    cases same.1
  · rintro rfl before _ ⟨instant, rfl⟩
    exact upsert_same_rows_but before.peers state instant

/-- At every step of an outbound handshake the peer table stays as it is, or one
row is written after the handshake; that row is the authenticated Sister's
exactly when the reply or announcement it is written for names that Sister. -/
theorem outbound_row_iff (iroh : node.streamBackend = .iroh)
    (session : node.authenticatedSession = some auth) (way : Outbound) {trace : NodeTrace}
    {final : RuntimeTask MisakaError Unit}
    (run : Traces (NodeStep platform) (way.task platform node) trace final)
    {later earlier : NodeTrace} {event : Event RuntimeOp RuntimeOp.Result NodeState}
    (split : trace = later ++ event :: earlier) :
    event.after.peers = event.before.peers ∨
      ∃ hello stream named, Responder platform node auth hello stream earlier ∧
        Named platform node way.announced stream earlier named ∧
        ((∀ before after, NodeStep platform before event.op event.result after →
          SameRowsBut hello.sisterId before.peers after.peers) ↔ named = hello.sisterId) := by
  obtain ⟨owed, taken⟩ := traced_event_guarded (outbound_guarded iroh session way) run split
  obtain ⟨before, op, result, after⟩ := event
  rcases node_step_cases taken with same | ⟨_, _, _, _, same⟩ | ⟨state, instant, rfl, _⟩ |
    ⟨_, _, _, _, _, _, same⟩ | ⟨_, _, same⟩
  · exact Or.inl (same ▸ rfl)
  · exact Or.inl (same ▸ rfl)
  · obtain ⟨hello, stream, responder, named⟩ := owed
    exact Or.inr ⟨hello, stream, state.id, responder, named, upsert_keeps_rows_iff state _⟩
  · exact Or.inl (same ▸ rfl)
  · exact Or.inl (same ▸ rfl)
end Rows

/-! A connection of the sample member that succeeds, and what it records. -/
section Deployment
variable {platform : Platform} {id : SisterId} {key : PublicKey}

def replyEnvelope (data : HelloData) : Envelope :=
  Envelope.new sampleNetwork .hello 3 1 data.encode

-- The responder answers the Hello with a reply that decodes to `data`.
structure Replies (platform : Platform) (data : HelloData) : Prop where
  reply : platform.envelope (replyEnvelope data).encode = .ok (replyEnvelope data)
  small : (replyEnvelope data).encode.length ≤ MAX_CONTROL_FRAME_LENGTH
  decoded : platform.helloData data.encode = .ok data
  network : data.networkId = sampleNetwork

def replyRow (data : HelloData) : PeerState :=
  helloRow data.identity data.networkId data.listenAddr data.streamAddr data.streamCertificate

def replyTrace (state : NodeState) (data : HelloData) : NodeTrace :=
  [⟨state, .readExact sampleStream (ofBigEndian (frameHeader (replyEnvelope data).encode)),
      .ok (replyEnvelope data).encode, state⟩,
    ⟨state, .readExact sampleStream 4, .ok (frameHeader (replyEnvelope data).encode), state⟩]

def connectTrace (id : SisterId) (key : PublicKey) (state : NodeState) (addr : EndpointAddr)
    (recipient : SisterId) (data : HelloData) : NodeTrace :=
  ⟨state, .peerUpsert (replyRow data), (),
    { state with peers := state.peers.upsert (replyRow data) 0 }⟩ ::
  replyTrace state data ++
  requestTrace id key state addr ⟨helloEnvelopeTo sampleMember recipient, true⟩

variable {data : HelloData}

theorem sample_reply_recorded (replies : Replies platform data) (state : NodeState)
    (trace : NodeTrace) :
    Reaches (traceStep (NodeStep platform))
      (recordHelloReply platform sampleMember (replyEnvelope data)) trace (.done ())
      (⟨state, .peerUpsert (replyRow data), (),
        { state with peers := state.peers.upsert (replyRow data) 0 }⟩ :: trace) := by
  have write : NodeStep platform state (.peerUpsert (replyRow data)) ()
      { state with peers := state.peers.upsert (replyRow data) 0 } := ⟨0, rfl⟩
  have own : (data.networkId == sampleMember.networkId) = true := beq_iff_eq.mpr replies.network
  have kept : rememberPeer sampleMember data =
      perform (RuntimeOp.peerUpsert (replyRow data)) := by
    have same : data.networkId = sampleMember.networkId := replies.network
    simp [rememberPeer, upsertPeer, helloRow, replyRow, same]
  simp only [recordHelloReply, replyEnvelope, Envelope.new, beq_self_eq_true, ensure_true,
    done_bind, replies.decoded, or_error_ok, own, kept]
  exact .next ⟨_, _, write, rfl⟩ (.here _ _)

theorem sample_connect_runs (responds : Responds platform id key) (replies : Replies platform data)
    (state : NodeState) (trace : NodeTrace)
    (listed : (state.directories "data").revocations = .absent) (addr : EndpointAddr)
    (expected : Option SisterId) (keyPin : Option PublicKey)
    (pinned : (recipientPin (helloEnvelopeTo sampleMember (expected.getD 0))).all (id == ·) = true)
    (keyPinned : keyPin.all (key == ·) = true)
    (fits : (ControlRequest.mk (helloEnvelopeTo sampleMember (expected.getD 0)) true).encode.length
      ≤ MAX_CONTROL_FRAME_LENGTH) :
    Reaches (traceStep (NodeStep platform))
      (connectIroh platform sampleMember (.iroh addr) expected keyPin) trace (.done ())
      (connectTrace id key state addr (expected.getD 0) data ++ trace) := by
  have small : ofBigEndian (frameHeader (replyEnvelope data).encode) ≤ MAX_CONTROL_FRAME_LENGTH :=
    frame_header_le replies.small (by decide)
  have sent : Reaches (traceStep (NodeStep platform))
      (send platform addr sampleNetwork (some sampleSession)
        (helloEnvelopeTo sampleMember (expected.getD 0)) true keyPin) trace
      (.done (some (replyEnvelope data))) (replyTrace state data ++
        (requestTrace id key state addr ⟨helloEnvelopeTo sampleMember (expected.getD 0), true⟩ ++
          trace)) := by
    refine reaches_bind (sample_request_runs responds state trace listed addr pinned keyPinned fits)
      ?_
    exact reaches_bind (read_frame_runs state _ small replies.reply) (.here _ _)
  have iroh : (sampleMember.streamBackend == .iroh) = true := rfl
  simp only [connectIroh, irohAddr, or_fail_some, done_bind, iroh, ensure_true]
  exact reaches_bind (reaches_bind (reaches_map_error sent) (.here _ _))
    (sample_reply_recorded replies state _)

variable (named : SisterId)

def sampleReply : HelloData where
  networkId := sampleNetwork
  identity := ⟨named, "sister", "host", "linux", "0.1.0", 7778⟩
  listenAddr := "127.0.0.1:7778"
  streamAddr := none
  streamCertificate := none

-- The responder authenticates as Sister 3 and replies as the named Sister.
def replyPlatform : Platform :=
  { thirdPlatform with
    envelope := recognise Envelope.encode [replyEnvelope (sampleReply named)]
    helloData := recognise HelloData.encode [sampleReply named] }

theorem sample_responds :
    Responds (replyPlatform named) 3 (Bytes.fill 32 11) where
  trusting := rfl
  hello := by simp only [replyPlatform, third_responds.hello]
  small := third_responds.small
  bound := by simp only [replyPlatform, third_responds.bound]

theorem sample_replies {named : SisterId}
    (small : (replyEnvelope (sampleReply named)).encode.length ≤ MAX_CONTROL_FRAME_LENGTH) :
    Replies (replyPlatform named) (sampleReply named) where
  reply := by simp only [replyPlatform, recognise_first]
  small := small
  decoded := by simp only [replyPlatform, recognise_first]
  network := rfl

-- Every run of the sample deployment below reaches the same responder.
abbrev thirdTrace (recipient named : SisterId) : NodeTrace :=
  connectTrace 3 (Bytes.fill 32 11) sampleState sampleAddr recipient (sampleReply named)

theorem sample_explicit_runs {named : SisterId}
    (small : (replyEnvelope (sampleReply named)).encode.length ≤ MAX_CONTROL_FRAME_LENGTH) :
    Traces (NodeStep (replyPlatform named))
      (addKnownIrohPeer (replyPlatform named) sampleMember (.iroh sampleAddr))
      (thirdTrace 0 named) (.done ()) := by
  have fits : (ControlRequest.mk (helloEnvelopeTo sampleMember 0) true).encode.length ≤
      MAX_CONTROL_FRAME_LENGTH := by decide +kernel
  have run := sample_connect_runs (sample_responds named) (sample_replies small) sampleState [] rfl
    sampleAddr none none rfl rfl fits
  rwa [List.append_nil] at run

theorem sample_upsert_adds_row (named : SisterId) :
    (sampleState.peers.upsert (replyRow (sampleReply named)) 0).get named =
      some (replyRow (sampleReply named)) := by
  have own := upsert_own_row sampleState.peers (replyRow (sampleReply named)) 0
  exact own

theorem sample_row_written_after_dial :
    ∃ hello stream, Responder (replyPlatform 3) sampleMember sampleSession hello stream
      (thirdTrace 0 3).tail := by
  have small : (replyEnvelope (sampleReply 3)).encode.length ≤ MAX_CONTROL_FRAME_LENGTH := by
    decide +kernel
  rcases outbound_row_iff rfl rfl (.explicit (.iroh sampleAddr)) (sample_explicit_runs small)
    (List.nil_append _).symm with same | ⟨hello, stream, named, responder, _⟩
  · have added := sample_upsert_adds_row 3
    rw [show sampleState.peers.upsert (replyRow (sampleReply 3)) 0 = sampleState.peers from same]
      at added
    cases added
  · exact ⟨hello, stream, responder⟩

/-- A responder that authenticated as Sister 3 writes the row of Sister 2. -/
theorem sample_reply_writes_foreign_row :
    Traces (NodeStep (replyPlatform 2))
      (addKnownIrohPeer (replyPlatform 2) sampleMember (.iroh sampleAddr))
      (thirdTrace 0 2) (.done ()) ∧
    (∀ hello, ReadFrom (replyPlatform 2).serverHello sampleStream (thirdTrace 0 2) hello →
      hello.sisterId = 3) ∧
    ∃ event ∈ thirdTrace 0 2, ¬ SameRowsBut 3 event.before.peers event.after.peers := by
  refine ⟨sample_explicit_runs (by decide +kernel), ?_, _, List.mem_cons_self, ?_⟩
  · rintro hello ⟨_, _, _, decoded⟩
    exact third_hello_read decoded
  · intro same
    have kept := (same 2 (by decide)).1
    cases kept
end Deployment

/-! A bootstrap from a peer record. -/
section Bootstrap
variable {platform : Platform} {node : NodeConfig} {auth : AuthenticatedSessionConfig}
variable {signed : PublicKey → List UInt8 → Prop}

/-- The membership a responder presented: for its id and key, signed by the
authority. -/
structure SignedMember (signed : PublicKey → List UInt8 → Prop) (auth : AuthenticatedSessionConfig)
    (hello : AuthenticatedServerHello) : Prop where
  id : hello.membershipCertificate.sisterId = hello.sisterId
  key : hello.membershipCertificate.sisterPublicKey = hello.sisterPublicKey
  certified : signed auth.authority.authorityPublicKey hello.membershipCertificate.signingBytes
  presented : signed hello.sisterPublicKey hello.signingBytes

theorem dialled_signed_member (unforgeable : Unforgeable platform.verifies signed)
    {hello : AuthenticatedServerHello} {stream : NetworkStream} {trace : NodeTrace}
    (accepted : HelloAccepted platform auth stream (serverClaims hello) trace) :
    SignedMember signed auth hello := by
  obtain ⟨signature, membership, key, id, _⟩ := hello_key_signed accepted.consistent
  have certified : platform.verifies auth.authority.authorityPublicKey
      hello.membershipCertificate.signingBytes
      hello.membershipCertificate.authoritySignature = true := by
    simp only [MembershipCertificate.verify, Bool.and_eq_true] at membership
    exact membership.2
  exact ⟨id.symm, key.symm, unforgeable _ _ _ certified, unforgeable _ _ _ signature⟩

/-- A bootstrap that returns has dialled the record's own endpoint and reached
the holder of the record's key under an authority-signed membership. The id is
the record's unless the record's id is zero, which pins none. -/
theorem bootstrap_identity_iff (unforgeable : Unforgeable platform.verifies signed)
    (session : node.authenticatedSession = some auth) {record : PeerRecord} {trace : NodeTrace}
    (run : Traces (NodeStep platform) (bootstrapPeerRecord platform node record) trace (.done ())) :
    ∃ addr hello stream, parseEndpoint platform record.endpointAddr = .ok (.iroh addr) ∧
      addr.id = record.transportBinding.irohEndpointId ∧
      Dialled platform auth addr node.networkId
        (recipientPin (helloEnvelopeTo node record.sisterId)) (some record.sisterPublicKey) hello
        stream trace ∧
      hello.sisterPublicKey = record.sisterPublicKey ∧ SignedMember signed auth hello ∧
      (hello.sisterId = record.sisterId ↔ record.sisterId ≠ 0 ∨ hello.sisterId = 0) := by
  obtain ⟨addr, hello, stream, parsed, bound, dialled⟩ :=
    reaches_done (bootstrap_peer_record_spec session none record) run
  refine ⟨addr, hello, stream, parsed, bound, dialled, dialled.responder.pinnedKey _ rfl,
    dialled_signed_member unforgeable dialled.responder.accepted, ?_⟩
  by_cases zero : record.sisterId = 0
  · simp [zero]
  · have named : hello.sisterId = record.sisterId :=
      dialled.responder.pinnedId _ (by simp [recipientPin, helloEnvelopeTo, Envelope.new, zero])
    simp [zero, named]

variable (id : SisterId)

def sampleRecord : PeerRecord where
  networkId := sampleNetwork
  sisterId := id
  sisterPublicKey := Bytes.fill 32 11
  endpointAddr := "iroh://" ++ endpointAddrJson sampleAddr
  transportBinding := sampleBinding id (Bytes.fill 32 11)
  sequence := 1
  updatedAt := 0
  sisterSignature := Bytes.fill 64 0

theorem sample_record_parses :
    parseEndpoint (replyPlatform 3) (sampleRecord id).endpointAddr = .ok (.iroh sampleAddr) :=
  sample_endpoint_parses rfl

def bootstrapTrace : NodeTrace :=
  ⟨sampleState, .recordUpsert sampleNetwork (sampleRecord id),
    (upsertPeerRecord (replyPlatform 3).verifies sampleNetwork ∅ (sampleRecord id)).1,
    { sampleState with
      records := (upsertPeerRecord (replyPlatform 3).verifies sampleNetwork ∅
        (sampleRecord id)).2 }⟩ ::
    thirdTrace id 3

theorem sample_bootstrap_runs
    (pinned : (recipientPin (helloEnvelopeTo sampleMember id)).all (3 == ·) = true)
    (fits : (ControlRequest.mk (helloEnvelopeTo sampleMember id) true).encode.length
      ≤ MAX_CONTROL_FRAME_LENGTH) :
    Traces (NodeStep (replyPlatform 3))
      (bootstrapPeerRecord (replyPlatform 3) sampleMember (sampleRecord id)) (bootstrapTrace id)
      (.done ()) := by
  have verified : ((sampleRecord id).networkId == sampleMember.networkId &&
      (sampleRecord id).verify (replyPlatform 3).verifies) = true := by
    simp [sampleRecord, sampleMember, sampleNode, PeerRecord.verify, TransportBinding.verify,
      sampleBinding, replyPlatform, thirdPlatform, samplePlatform]
  have parsed := sample_record_parses id
  have remembered : rememberPeerRecord (replyPlatform 3) sampleMember (sampleRecord id) =
      perform (RuntimeOp.recordUpsert sampleNetwork (sampleRecord id)) >>= fun _ => .done () := by
    have usable := Bool.and_eq_true_iff.mp verified
    have bound : recordEndpointMatches (replyPlatform 3) (sampleRecord id) = true := by
      rw [recordEndpointMatches, parsed]
      exact beq_self_eq_true sampleEndpointId
    simp [rememberPeerRecord, beq_iff_eq.mp usable.1, usable.2, bound, sampleMember, sampleNode]
  have store : NodeStep (replyPlatform 3) sampleState
      (.recordUpsert sampleNetwork (sampleRecord id))
      (upsertPeerRecord (replyPlatform 3).verifies sampleNetwork ∅ (sampleRecord id)).1
      { sampleState with
        records := (upsertPeerRecord (replyPlatform 3).verifies sampleNetwork ∅
          (sampleRecord id)).2 } := ⟨_, rfl, rfl⟩
  have matched : endpointMatches (.iroh sampleAddr) (sampleRecord id) = true :=
    beq_self_eq_true sampleEndpointId
  have connected := sample_connect_runs (sample_responds 3) (sample_replies (by decide +kernel))
    sampleState [] rfl sampleAddr (some id) (some (Bytes.fill 32 11)) pinned rfl fits
  simp only [Traces, bootstrapPeerRecord, verified, ensure_true, done_bind, parsed, or_error_ok,
    matched, remembered]
  exact reaches_bind connected (reaches_perform store (.here _ _))

theorem sample_bootstrap_pinned :
    ∃ hello stream, Dialled (replyPlatform 3) sampleSession sampleAddr sampleNetwork (some 3)
        (some (Bytes.fill 32 11)) hello stream (bootstrapTrace 3) ∧
      (hello.sisterId = 3 ↔ (3 : SisterId) ≠ 0 ∨ hello.sisterId = 0) := by
  have unforgeable : Unforgeable (replyPlatform 3).verifies fun _ _ => True :=
    fun _ _ _ _ => trivial
  obtain ⟨addr, hello, stream, parsed, _, dialled, _, _, pinned⟩ :=
    bootstrap_identity_iff unforgeable rfl (sample_bootstrap_runs 3 rfl (by decide +kernel))
  have same : addr = sampleAddr :=
    NetworkEndpoint.iroh.inj (Except.ok.inj (parsed.symm.trans (sample_record_parses 3)))
  exact ⟨hello, stream, same ▸ dialled, pinned⟩

/-- A record for Sister 0 is accepted from a responder that is Sister 3. -/
theorem sample_zero_record_unpinned :
    Traces (NodeStep (replyPlatform 3))
      (bootstrapPeerRecord (replyPlatform 3) sampleMember (sampleRecord 0)) (bootstrapTrace 0)
      (.done ()) ∧
    (sampleRecord 0).sisterId = 0 ∧
    ∀ hello, ReadFrom (replyPlatform 3).serverHello sampleStream (bootstrapTrace 0) hello →
      hello.sisterId = 3 := by
  refine ⟨sample_bootstrap_runs 0 rfl (by decide +kernel), rfl, ?_⟩
  rintro hello ⟨_, _, _, decoded⟩
  exact third_hello_read decoded
end Bootstrap
end Misaka.OutboundHandshake
