import Misaka.Dispatch

/-!
The two ways a control message comes in. The legacy TCP plane decrypts one frame,
checks the envelope's protocol version and dispatches for nobody; the Iroh
control channel reads one request from an authenticated stream and dispatches it
for that stream's peer. The version is checked where the TCP frame is read, so
the Iroh channel never looks at it.
-/

namespace Misaka.InboundTransport
open Bincode Identity Protocol EffectTask NodeRuntime AuthenticatedSession ControlChannel Dispatch

section Code
variable (platform : Platform) (node : NodeConfig)

/-- `SisterNode::handle_inbound`, with `handler::dispatch`. -/
def handleInbound (stream : TcpStream) : RuntimeTask MisakaError Unit := do
  let envelope ← readEnvelope platform stream
  let response ← dispatchEnvelope platform node envelope none
  match response with
  | some reply => do
      let written ← perform (.tcpWrite stream reply)
      orError id written
  | none => pure ()

-- The timer around a frame shows up as a timed-out answer of one of its operations.
def deadline (doing : String) (error : IoError) : NetworkError :=
  if error.kind = .timedOut then .authentication ("control frame " ++ doing ++ " timed out")
  else .io error

def answer (stream : NetworkStream) (expectResponse : Bool) :
    Option Envelope → RuntimeTask NetworkError Unit
  | some response =>
    if expectResponse then
      writeFrame MAX_CONTROL_FRAME_LENGTH (.authentication "control frame is too large")
        (deadline "write") response.encode stream (.response response)
    else pure ()
  | none => pure ()

/-- `control_channel::serve`, after the greeting and the magic. -/
def serve (stream : NetworkStream) (peer : Option AuthenticatedPeer) :
    RuntimeTask NetworkError Unit := do
  let request ← readFrame MAX_CONTROL_FRAME_LENGTH (.authentication "control frame is too large")
    (deadline "read") .authentication platform.controlRequest stream
  let response ← mapError (fun error => .authentication error.display)
    (dispatchEnvelope platform node request.envelope peer)
  answer stream request.expectResponse response
end Code

/-! An envelope is received when the first frame of the stream decodes to it. -/
section Received
variable (platform : Platform)

def TcpReceived (stream : TcpStream) (envelope : Envelope) (trace : NodeTrace) : Prop :=
  ∃ rest header payload plain, ∃ s₁ s₂ s₃ s₄ : NodeState,
    trace = rest ++ [⟨s₃, .tcpRead stream (ofBigEndian header), .ok payload, s₄⟩,
      ⟨s₁, .tcpRead stream 4, .ok header, s₂⟩] ∧
    platform.decrypt payload = .ok plain ∧ platform.envelope plain = .ok envelope

def IrohReceived (stream : NetworkStream) (request : ControlRequest) (trace : NodeTrace) : Prop :=
  FirstFrame platform.controlRequest stream request trace

variable {platform} {stream : TcpStream} {envelope other : Envelope} {trace longer : NodeTrace}

theorem tcp_received_suffix (kept : trace <:+ longer)
    (received : TcpReceived platform stream envelope trace) :
    TcpReceived platform stream envelope longer := by
  obtain ⟨later, rfl⟩ := kept
  obtain ⟨rest, header, payload, plain, s₁, s₂, s₃, s₄, rfl, decoded⟩ := received
  exact ⟨later ++ rest, header, payload, plain, s₁, s₂, s₃, s₄, by simp, decoded⟩

theorem tcp_received_unique (received : TcpReceived platform stream envelope trace)
    (again : TcpReceived platform stream other trace) : envelope = other := by
  obtain ⟨rest, header, payload, plain, s₁, s₂, s₃, s₄, rfl, decrypted, decoded⟩ := received
  obtain ⟨rest', header', payload', plain', t₁, t₂, t₃, t₄, same, decrypted', decoded'⟩ := again
  obtain ⟨_, frames⟩ := List.append_inj' same rfl
  have payloads : payload = payload' := by
    simp only [List.cons.injEq, Event.mk.injEq, RuntimeOp.tcpRead.injEq, true_and] at frames
    obtain ⟨⟨_, lengths, results, _⟩, _, rfl, _⟩ := frames
    cases results
    rfl
  subst payloads
  obtain rfl : plain = plain' := Except.ok.inj (decrypted.symm.trans decrypted')
  exact Except.ok.inj (decoded.symm.trans decoded')

/-- Reading an envelope performs reads only and ends with the current version. -/
theorem read_envelope_spec :
    Holds (traceStep (NodeStep platform)) (fun _ op => ∃ count, op = .tcpRead stream count)
      (readEnvelope platform stream)
      (fun longer envelope => TcpReceived platform stream envelope longer ∧
        envelope.protocolVersion = PROTOCOL_VERSION) (fun _ _ => True) [] := by
  simp only [readEnvelope, holds_bind, holds_trace_perform, holds_or_error, holds_ensure,
    holds_pure, implies_true, and_true, beq_iff_eq]
  refine ⟨⟨4, rfl⟩, ?_⟩
  intro _ s₁ s₂ _ header delivered _
  refine ⟨⟨_, rfl⟩, ?_⟩
  intro _ s₃ s₄ _ payload arrived plain decrypted envelope decoded current
  subst delivered arrived
  exact ⟨⟨[], header, payload, plain, s₁, s₂, s₃, s₄, rfl, decrypted, decoded⟩, current⟩
end Received

section Gate
variable (platform : Platform) (node : NodeConfig)

inductive Transport where
  | tcp (stream : TcpStream)
  | iroh (stream : NetworkStream) (peer : Option AuthenticatedPeer)

def Transport.isTcp : Transport → Bool
  | .tcp _ => true
  | .iroh _ _ => false

-- An operation that changes the node or answers the sender.
def Acts (transport : Transport) (event : Event RuntimeOp RuntimeOp.Result NodeState) : Prop :=
  event.after ≠ event.before ∨
    match transport with
    | .tcp stream => ∃ reply, event.op = .tcpWrite stream reply
    | .iroh stream _ => ∃ reply, event.op = .write stream (.response reply)

/-- Some run receives the envelope on the transport and acts. -/
def ActedOn (envelope : Envelope) (transport : Transport) : Prop :=
  ∃ trace, (∃ event ∈ trace, Acts transport event) ∧
    match transport with
    | .tcp stream => TcpReceived platform stream envelope trace ∧
        ∃ final, Traces (NodeStep platform) (handleInbound platform node stream) trace final
    | .iroh stream peer =>
      (∃ request, IrohReceived platform stream request trace ∧ request.envelope = envelope) ∧
      ∃ final, Traces (NodeStep platform) (serve platform node stream peer) trace final

variable {platform node}

def TcpGuard (platform : Platform) (stream : TcpStream) (trace : NodeTrace) (op : RuntimeOp) :
    Prop :=
  (∃ count, op = .tcpRead stream count) ∨
    ∃ envelope, TcpReceived platform stream envelope trace ∧
      envelope.protocolVersion = PROTOCOL_VERSION

theorem handle_inbound_guarded (stream : TcpStream) :
    Holds (traceStep (NodeStep platform)) (TcpGuard platform stream)
      (handleInbound platform node stream) (fun _ _ => True) (fun _ _ => True) [] := by
  rw [handleInbound, holds_bind]
  refine holds_mono (holds_guard_mono read_envelope_spec fun _ _ reads => Or.inl reads) ?_
    (fun _ _ _ => trivial)
  rintro received envelope ⟨arrived, current⟩
  refine holds_mono (holds_guard_mono (holds_trace_grows _) ?_) (fun _ _ _ => trivial)
    (fun _ _ _ => trivial)
  intro longer _ kept
  exact Or.inr ⟨envelope, tcp_received_suffix kept arrived, current⟩

theorem tcp_gate_holds {stream : TcpStream} {envelope : Envelope}
    (stale : envelope.protocolVersion ≠ PROTOCOL_VERSION) :
    ¬ ActedOn platform node envelope (.tcp stream) := by
  rintro ⟨trace, ⟨event, member, acts⟩, received, final, run⟩
  obtain ⟨later, earlier, rfl⟩ := List.append_of_mem member
  obtain ⟨owed, taken⟩ := traced_event_guarded (handle_inbound_guarded stream) run rfl
  rcases owed with ⟨count, reads⟩ | ⟨found, arrived, current⟩
  · rw [Acts, reads] at acts
    rcases acts with changes | ⟨reply, impossible⟩
    · obtain ⟨before, op, result, after⟩ := event
      cases reads
      exact changes taken
    · cases impossible
  · have kept : earlier <:+ later ++ event :: earlier :=
      (List.suffix_cons event earlier).trans (List.suffix_append later _)
    exact stale (tcp_received_unique (tcp_received_suffix kept arrived) received ▸ current)

-- The Sister a channel speaks for; the legacy plane accepts any sender.
def Transport.speaker : Transport → SisterId
  | .tcp _ => 0
  | .iroh _ peer => peer.elim 0 (·.sisterId)

def pingAt (node : NodeConfig) (version : UInt16) (sender : SisterId) : Envelope where
  networkId := node.networkId
  protocolVersion := version
  msgType := .ping
  sender := sender
  recipient := node.identity.id
  data := []

def pongTo (node : NodeConfig) (sender : SisterId) : Envelope :=
  Envelope.new node.networkId .pong node.identity.id sender []

theorem pong_fits (sender : SisterId) :
    (pongTo node sender).encode.length ≤ MAX_CONTROL_FRAME_LENGTH := by
  have network := network_encode_length_le node.networkId
  simp only [Envelope.encode, pongTo, Envelope.new, byteString, length64, u16, u64, variant,
    List.length_append, little_endian_length, List.length_nil, MAX_CONTROL_FRAME_LENGTH]
  omega

variable {peer : Option AuthenticatedPeer}

theorem ping_is_answered (version : UInt16) (sender : SisterId)
    (speaks : senderMatchesPeer peer sender = true) :
    dispatchEnvelope platform node (pingAt node version sender) peer =
      .done (some (pongTo node sender)) := by
  simp [dispatchEnvelope, pingAt, speaks, dispatchMessage, pongTo]

/-- A ping of any version is served on the Iroh channel: two reads and a pong. -/
theorem iroh_answers_ping {stream : NetworkStream} {version : UInt16} {sender : SisterId}
    {bytes : List UInt8} (speaks : senderMatchesPeer peer sender = true)
    (fits : bytes.length ≤ MAX_CONTROL_FRAME_LENGTH)
    (decoded : platform.controlRequest bytes = .ok ⟨pingAt node version sender, true⟩)
    (state : NodeState) :
    ActedOn platform node (pingAt node version sender) (.iroh stream peer) := by
  let header := frameHeader bytes
  have within : ofBigEndian header ≤ MAX_CONTROL_FRAME_LENGTH :=
    frame_header_le fits (by decide)
  let trace : NodeTrace :=
    [⟨state, .write stream (.response (pongTo node sender)), .ok (), state⟩,
      ⟨state, .readExact stream (ofBigEndian header), .ok bytes, state⟩,
      ⟨state, .readExact stream 4, .ok header, state⟩]
  have received : IrohReceived platform stream ⟨pingAt node version sender, true⟩ trace :=
    ⟨[_], header, bytes, state, state, state, state, rfl, decoded⟩
  have run : Traces (NodeStep platform) (serve platform node stream peer) trace (.done ()) := by
    refine reaches_bind (read_frame_runs state [] within decoded) ?_
    simp only [ping_is_answered version sender speaks, map_error_done, done_bind, answer, if_true]
    exact write_frame_runs state _ (pong_fits sender)
  exact ⟨trace, ⟨_, List.mem_cons_self, Or.inr ⟨_, rfl⟩⟩, ⟨_, received, rfl⟩, _, run⟩

/-- Of the two transports, only the TCP plane keeps envelopes of a stale version
from having an effect or a reply. -/
theorem version_gate_iff {version : UInt16} (stale : version ≠ PROTOCOL_VERSION)
    (transport : Transport)
    (expressible : ∃ bytes, bytes.length ≤ MAX_CONTROL_FRAME_LENGTH ∧
      platform.controlRequest bytes = .ok ⟨pingAt node version transport.speaker, true⟩) :
    (∀ envelope, envelope.protocolVersion = version → ¬ ActedOn platform node envelope transport) ↔
      transport.isTcp = true := by
  cases transport with
  | tcp stream =>
    refine ⟨fun _ => rfl, ?_⟩
    rintro _ envelope rfl
    exact tcp_gate_holds stale
  | iroh stream peer =>
    refine ⟨?_, nofun⟩
    intro gated
    obtain ⟨bytes, fits, decoded⟩ := expressible
    have speaks : senderMatchesPeer peer (Transport.iroh stream peer).speaker = true := by
      cases peer <;> simp [senderMatchesPeer, Transport.speaker]
    exact absurd (iroh_answers_ping speaks fits decoded sampleState) (gated _ rfl)

def stalePing (sender : SisterId) : ControlRequest := ⟨pingAt sampleNode 2 sender, true⟩

def pingPlatform (sender : SisterId) : Platform :=
  { samplePlatform with controlRequest := recognise ControlRequest.encode [stalePing sender] }

theorem tcp_sample_gated :
    (∀ envelope, envelope.protocolVersion = 2 →
      ¬ ActedOn (pingPlatform 0) sampleNode envelope (.tcp ⟨0⟩)) ↔ true = true :=
  version_gate_iff (by decide) (.tcp ⟨0⟩) ⟨_, by decide +kernel, recognise_first _ (stalePing 0) _⟩

/-- A ping of version 2 on the Iroh channel of a version 3 node gets its pong. -/
theorem iroh_sample_answers_stale_ping :
    (pingAt sampleNode 2 2).protocolVersion ≠ PROTOCOL_VERSION ∧
      ActedOn (pingPlatform 2) sampleNode (pingAt sampleNode 2 2)
        (.iroh ⟨0, none⟩ (some ⟨2, Bytes.fill 32 6, 1⟩)) :=
  ⟨by decide, iroh_answers_ping rfl (by decide +kernel) (recognise_first _ (stalePing 2) _)
    sampleState⟩
end Gate
end Misaka.InboundTransport
