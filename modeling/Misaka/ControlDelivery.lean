import Misaka.ControlChannel

/-!
Where control messages end up on a node with the Iroh backend and an
authenticated session. A message towards a peer leaves either on a stream that
was dialled at an Iroh endpoint of the peer's row or record and whose responder
authenticated, as the envelope's recipient if it names one, or over legacy TCP
when neither the row nor the record gives an Iroh endpoint.
-/

namespace Misaka.ControlDelivery
open Bincode Identity Protocol PeerKnowledge EffectTask NodeRuntime AuthenticatedSession
open ControlChannel

section Dialling
variable {State : Type} {step : State → (op : RuntimeOp) → op.Result → State → Prop}
variable {trace longer : List (Event RuntimeOp RuntimeOp.Result State)}

/-- The stream comes from a session dialled at the endpoint, and its responder
presented the hello that this handshake accepted. -/
structure Dialled (platform : Platform) (auth : AuthenticatedSessionConfig)
    (endpoint : EndpointAddr) (network : NetworkId) (pin : Option SisterId)
    (keyPin : Option PublicKey) (hello : AuthenticatedServerHello) (stream : NetworkStream)
    (trace : List (Event RuntimeOp RuntimeOp.Result State)) : Prop where
  opened : ∃ session, Answered trace (.connectSession endpoint network) (.ok session) ∧
    Answered trace (.openStream session) (.ok stream)
  responder : ServerAccepted platform auth stream pin keyPin hello trace

variable {platform : Platform} {auth : AuthenticatedSessionConfig} {endpoint : EndpointAddr}
variable {network : NetworkId} {pin : Option SisterId} {keyPin : Option PublicKey}
variable {hello : AuthenticatedServerHello} {stream : NetworkStream}

theorem dialled_suffix (kept : trace <:+ longer)
    (dialled : Dialled platform auth endpoint network pin keyPin hello stream trace) :
    Dialled platform auth endpoint network pin keyPin hello stream longer := by
  obtain ⟨session, connected, opened⟩ := dialled.opened
  exact ⟨⟨session, answered_suffix kept connected, answered_suffix kept opened⟩,
    server_accepted_suffix kept dialled.responder⟩

theorem open_control_stream_spec :
    Holds (traceStep step) (fun _ _ => True)
      (openControlStream platform (some auth) endpoint network pin keyPin)
      (fun longer stream => ∃ hello,
        Dialled platform auth endpoint network pin keyPin hello stream longer)
      (fun _ _ => True) trace := by
  simp only [openControlStream, holds_bind, holds_trace_perform, holds_or_error, true_and,
    implies_true, and_true]
  intro _ s₁ s₂ _ session connected _ s₃ s₄ _ stream opened
  subst connected opened
  refine holds_mono (holds_keeping_trace (authenticate_client_spec platform auth stream pin keyPin))
    ?_ (fun _ _ _ => trivial)
  rintro longer _ ⟨⟨rfl, hello, accepted⟩, kept⟩
  have connected := answered_suffix ((List.suffix_cons _ _).trans kept) answered_head
  exact ⟨hello, ⟨session, connected, answered_suffix kept answered_head⟩, accepted⟩

-- The request itself is the only message, and it goes to the dialled responder.
def RequestGuard (platform : Platform) (auth : AuthenticatedSessionConfig)
    (endpoint : EndpointAddr) (network : NetworkId) (keyPin : Option PublicKey)
    (envelope : Envelope) (trace : List (Event RuntimeOp RuntimeOp.Result State)) :
    RuntimeOp → Prop
  | .write stream (.control request) => request.envelope = envelope ∧ ∃ hello,
      Dialled platform auth endpoint network (recipientPin envelope) keyPin hello stream trace
  | .tcpWrite _ _ => False
  | _ => True

theorem dial_op_meets_request_guard {envelope : Envelope} (op : RuntimeOp) (dials : DialOp op) :
    RequestGuard platform auth endpoint network keyPin envelope trace op := by
  unfold DialOp at dials
  split at dials <;> trivial

/-- A request is written after the handshake, and the stream that carried it is
the one the responder was authenticated on. -/
theorem send_request_spec (request : ControlRequest) :
    Holds (traceStep step)
      (RequestGuard platform auth endpoint network keyPin request.envelope)
      (sendRequest platform endpoint network (some auth) request keyPin)
      (fun longer stream => ∃ hello, Dialled platform auth endpoint network
        (recipientPin request.envelope) keyPin hello stream longer)
      (fun _ _ => True) trace := by
  simp only [sendRequest, writeControlFrame, writeFrame, holds_bind, holds_trace_perform,
    holds_or_error, holds_ensure, holds_pure, implies_true, and_true]
  refine holds_mono (holds_guarded open_control_stream_spec
    (only_open_control_stream (some auth) endpoint network _ keyPin)
    (fun _ op _ dials => dial_op_meets_request_guard op dials)) ?_ (fun _ _ _ => trivial)
  rintro opened stream ⟨⟨hello, dialled⟩, _⟩
  refine ⟨trivial, ?_⟩
  intro _ s₁ s₂ _ greeting _ _
  refine ⟨trivial, ?_⟩
  intro _ s₃ s₄ _ _ _ _
  refine ⟨⟨rfl, hello, dialled_suffix ?_ dialled⟩, ?_⟩
  · exact (List.suffix_cons _ _).trans (List.suffix_cons _ _)
  · intro _ s₅ s₆ _ _ _
    refine ⟨hello, dialled_suffix ?_ dialled⟩
    exact ((List.suffix_cons _ _).trans (List.suffix_cons _ _)).trans (List.suffix_cons _ _)

theorem send_spec (envelope : Envelope) (expectResponse : Bool) :
    Holds (traceStep step) (RequestGuard platform auth endpoint network keyPin envelope)
      (send platform endpoint network (some auth) envelope expectResponse keyPin)
      (fun longer response => ∃ stream hello,
        Dialled platform auth endpoint network (recipientPin envelope) keyPin hello stream longer ∧
        ∀ reply ∈ response, ReadFrom platform.envelope stream longer reply)
      (fun _ _ => True) trace := by
  rw [send, holds_bind]
  refine holds_mono (send_request_spec ⟨envelope, expectResponse⟩) ?_ (fun _ _ _ => trivial)
  rintro sent stream ⟨hello, dialled⟩
  cases expectResponse with
  | false => simpa using ⟨stream, hello, dialled⟩
  | true =>
    simp only [if_true, holds_bind, holds_pure]
    have reads : Only (fun op => ∃ count, op = RuntimeOp.readExact stream count)
        (readControlFrame platform.envelope stream) := only_read_frame fun count => ⟨count, rfl⟩
    refine holds_mono (holds_guarded (read_frame_spec _ _ _ _ platform.envelope stream) reads
      ?_) ?_ (fun _ _ _ => trivial)
    · rintro _ _ _ ⟨count, rfl⟩
      trivial
    · rintro read reply ⟨received, extended⟩
      refine ⟨stream, hello, dialled_suffix (extends_suffix extended) dialled, ?_⟩
      rintro _ ⟨⟩
      exact received
end Dialling

/-! Where the messages towards one peer go. -/
section Towards
variable (platform : Platform) (node : NodeConfig) (auth : AuthenticatedSessionConfig)

-- The lookup of `iroh_peer_endpoint` on the tables of one state each.
def Located (peer : SisterId) (endpoint : EndpointAddr) (trace : NodeTrace) : Prop :=
  Met trace (fun state => rowEndpoint platform (state.peers.get peer) = some endpoint) ∨
    Met trace (fun state => rowEndpoint platform (state.peers.get peer) = none) ∧
    Met trace (fun state => recordEndpoint platform (state.records.lookup peer) = some endpoint)

def Unlocated (peer : SisterId) (trace : NodeTrace) : Prop :=
  Met trace (fun state => rowEndpoint platform (state.peers.get peer) = none) ∧
    Met trace (fun state => recordEndpoint platform (state.records.lookup peer) = none)

-- The responder of the stream proved to be a current member bound to its
-- endpoint, and the one the envelope names if it names one.
def Addressed (endpoint : EndpointAddr) (envelope : Envelope) (stream : NetworkStream)
    (trace : NodeTrace) : Prop :=
  ∃ hello, Dialled platform auth endpoint node.networkId (recipientPin envelope) none hello stream
      trace ∧
    (envelope.recipient ≠ 0 → hello.sisterId = envelope.recipient)

/-- The two ways a message towards a peer may be written. -/
def DeliveredTowards (peer : SisterId) (envelope : Envelope) (trace : NodeTrace) : RuntimeOp → Prop
  | .write stream (.control request) => request.envelope = envelope ∧ ∃ endpoint,
      Located platform peer endpoint trace ∧ Addressed platform node auth endpoint envelope stream
        trace
  | .tcpWrite stream sent => sent = envelope ∧ Unlocated platform peer trace ∧
      ∃ addr, Met trace (fun state => addrOf platform (state.peers.get peer) = some addr) ∧
        Answered trace (.tcpConnect addr) (.ok stream)
  | _ => True

variable {platform node auth}

variable {peer : SisterId} {endpoint : EndpointAddr}

theorem located_suffix {trace longer : NodeTrace} (kept : trace <:+ longer)
    (located : Located platform peer endpoint trace) :
    Located platform peer endpoint longer := by
  rcases located with row | ⟨row, record⟩
  · exact Or.inl (met_suffix kept row)
  · exact Or.inr ⟨met_suffix kept row, met_suffix kept record⟩

variable {envelope : Envelope} {trace : NodeTrace}

theorem addressed_of_dialled {hello : AuthenticatedServerHello} {stream : NetworkStream}
    (dialled : Dialled platform auth endpoint node.networkId (recipientPin envelope) none hello
      stream trace) :
    Addressed platform node auth endpoint envelope stream trace := by
  refine ⟨hello, dialled, ?_⟩
  intro named
  exact dialled.responder.pinnedId _ (by simp [recipientPin, named])

theorem iroh_peer_endpoint_spec (iroh : node.streamBackend = .iroh) (peer : SisterId)
    (envelope : Envelope) :
    Holds (traceStep (NodeStep platform)) (DeliveredTowards platform node auth peer envelope)
      (irohPeerEndpoint platform node peer)
      (fun longer found =>
        (∀ endpoint ∈ found, Located platform peer endpoint longer) ∧
        (found = none → Unlocated platform peer longer))
      (fun _ _ => True) trace := by
  simp only [irohPeerEndpoint, iroh, holds_bind, holds_trace_perform]
  refine ⟨trivial, ?_⟩
  rintro _ s₁ s₂ ⟨rfl, _⟩
  cases row : rowEndpoint platform (s₁.peers.get peer) with
  | some endpoint =>
    simp only [holds_pure]
    refine ⟨?_, by simp⟩
    rintro _ ⟨⟩
    exact Or.inl (met_head row)
  | none =>
    simp only [holds_bind, holds_trace_perform, holds_pure]
    refine ⟨trivial, ?_⟩
    rintro _ s₃ s₄ ⟨rfl, _⟩
    constructor
    · intro endpoint found
      exact Or.inr ⟨met_suffix (List.suffix_cons _ _) (met_head row), met_head found⟩
    · intro missing
      exact ⟨met_suffix (List.suffix_cons _ _) (met_head row), met_head missing⟩

/-- Sending on the Iroh side of the choice. -/
theorem send_towards_spec (session : node.authenticatedSession = some auth) (peer : SisterId)
    (endpoint : EndpointAddr) (envelope : Envelope) (expectResponse : Bool)
    (located : Located platform peer endpoint trace) :
    Holds (traceStep (NodeStep platform)) (DeliveredTowards platform node auth peer envelope)
      (send platform endpoint node.networkId node.authenticatedSession envelope expectResponse none)
      (fun _ _ => True) (fun _ _ => True) trace := by
  rw [session]
  refine holds_mono (holds_guard_mono (holds_growing (send_spec envelope expectResponse)) ?_)
    (fun _ _ _ => trivial) (fun _ _ _ => trivial)
  rintro longer op ⟨owed, kept⟩
  unfold DeliveredTowards
  split
  · obtain ⟨same, hello, dialled⟩ := owed
    exact ⟨same, endpoint, located_suffix kept located, addressed_of_dialled dialled⟩
  · exact absurd owed id
  · trivial

theorem tcp_towards_spec {addr : SocketAddr} (unlocated : Unlocated platform peer trace)
    (routed : Met trace fun state => addrOf platform (state.peers.get peer) = some addr) :
    Holds (traceStep (NodeStep platform)) (DeliveredTowards platform node auth peer envelope)
      (tcpOpenAndWrite addr envelope) (fun _ _ => True) (fun _ _ => True) trace := by
  simp only [tcpOpenAndWrite, holds_bind, holds_trace_perform, holds_or_error, holds_pure,
    implies_true, and_true]
  refine ⟨trivial, ?_⟩
  intro _ s₁ s₂ _ stream connected
  subst connected
  have kept := List.suffix_cons
    (⟨s₁, .tcpConnect addr, .ok stream, s₂⟩ : Event RuntimeOp RuntimeOp.Result NodeState) trace
  exact ⟨rfl, ⟨met_suffix kept unlocated.1, met_suffix kept unlocated.2⟩, addr,
    met_suffix kept routed, answered_head⟩

-- The fallback branch up to the address; `rest` is the one-way or the answered send.
theorem fallback_towards_spec {Val : Type} {error : MisakaError}
    {rest : SocketAddr → RuntimeTask MisakaError Val} (unlocated : Unlocated platform peer trace)
    (sends : ∀ addr longer, Unlocated platform peer longer →
      Met longer (fun state => addrOf platform (state.peers.get peer) = some addr) →
      Holds (traceStep (NodeStep platform)) (DeliveredTowards platform node auth peer envelope)
      (rest addr) (fun _ _ => True) (fun _ _ => True) longer) :
    Holds (traceStep (NodeStep platform)) (DeliveredTowards platform node auth peer envelope)
      (perform (.peerGet peer) >>= fun row => orFail (addrOf platform row) error >>= rest)
      (fun _ _ => True) (fun _ _ => True) trace := by
  simp only [holds_bind, holds_trace_perform, holds_or_fail, implies_true, and_true]
  refine ⟨trivial, ?_⟩
  rintro _ s₁ s₂ ⟨rfl, _⟩ addr routed
  have kept := List.suffix_cons
    (⟨s₁, .peerGet peer, s₁.peers.get peer, s₂⟩ : Event RuntimeOp RuntimeOp.Result NodeState) trace
  exact sends addr _ ⟨met_suffix kept unlocated.1, met_suffix kept unlocated.2⟩ (met_head routed)

theorem send_to_peer_delivered (iroh : node.streamBackend = .iroh)
    (session : node.authenticatedSession = some auth) (peer : SisterId) (envelope : Envelope)
    (trace : NodeTrace) :
    Holds (traceStep (NodeStep platform)) (DeliveredTowards platform node auth peer envelope)
      (sendToPeer platform node peer envelope) (fun _ _ => True) (fun _ _ => True) trace := by
  rw [sendToPeer, holds_bind]
  refine holds_mono (iroh_peer_endpoint_spec iroh peer envelope) ?_ (fun _ _ _ => trivial)
  rintro looked found ⟨located, unlocated⟩
  cases found with
  | some endpoint =>
    simp only [holds_bind, holds_map_error, holds_or_fail, implies_true, and_true]
    exact send_towards_spec session peer endpoint envelope true (located endpoint rfl)
  | none =>
    refine fallback_towards_spec (unlocated rfl) ?_
    intro addr longer missing routed
    rw [sendTo, holds_bind]
    refine holds_mono (tcp_towards_spec missing routed) ?_ (fun _ _ _ => trivial)
    intro written stream _
    have reads : Only (fun op => ∃ count, op = RuntimeOp.tcpRead stream count)
        (readEnvelope platform stream) := only_read_envelope stream
    refine holds_mono (holds_of_only reads ?_) (fun _ _ _ => trivial) (fun _ _ _ => trivial)
    rintro _ _ _ ⟨count, rfl⟩
    trivial

theorem send_fire_to_peer_delivered (iroh : node.streamBackend = .iroh)
    (session : node.authenticatedSession = some auth) (peer : SisterId) (envelope : Envelope)
    (trace : NodeTrace) :
    Holds (traceStep (NodeStep platform)) (DeliveredTowards platform node auth peer envelope)
      (sendFireToPeer platform node peer envelope) (fun _ _ => True) (fun _ _ => True) trace := by
  rw [sendFireToPeer, holds_bind]
  refine holds_mono (iroh_peer_endpoint_spec iroh peer envelope) ?_ (fun _ _ _ => trivial)
  rintro looked found ⟨located, unlocated⟩
  cases found with
  | some endpoint =>
    simp only [holds_bind, holds_map_error, holds_pure]
    exact send_towards_spec session peer endpoint envelope false (located endpoint rfl)
  | none =>
    refine fallback_towards_spec (unlocated rfl) ?_
    intro addr longer missing routed
    simp only [sendFire, holds_bind, holds_pure]
    exact tcp_towards_spec missing routed

-- A broadcast turn writes one State message towards a row of the table at a time.
def Broadcast (platform : Platform) (node : NodeConfig) (auth : AuthenticatedSessionConfig)
    (trace : NodeTrace) (op : RuntimeOp) : Prop :=
  ∀ sent, WritesEnvelope op sent → ∃ peer snapshot,
    Met trace (fun state => ∃ id row, state.peers.get id = some row ∧ row.id = peer) ∧
    sent = stateEnvelope node snapshot ∧
    DeliveredTowards platform node auth peer (stateEnvelope node snapshot) trace op

theorem delivered_envelope {sent : Envelope} {op : RuntimeOp}
    (delivered : DeliveredTowards platform node auth peer envelope trace op)
    (written : WritesEnvelope op sent) : sent = envelope := by
  unfold WritesEnvelope at written
  split at written
  · exact written ▸ delivered.1
  · exact written ▸ delivered.1
  · exact absurd written id

theorem broadcast_state_delivered (iroh : node.streamBackend = .iroh)
    (session : node.authenticatedSession = some auth) :
    Holds (traceStep (NodeStep platform)) (Broadcast platform node auth)
      (broadcastState platform node) (fun _ _ => True) (fun _ _ => True) [] := by
  simp only [broadcastState, holds_bind, holds_trace_perform]
  refine ⟨by rintro _ ⟨⟩, ?_⟩
  intro snapshot s₁ s₂ _
  refine ⟨by rintro _ ⟨⟩, ?_⟩
  rintro rows s₃ s₄ ⟨listed, _⟩
  -- Every pass keeps the rows that were read in the trace.
  refine holds_mono (holds_for_each _ _ (fun longer => _ <:+ longer) (List.suffix_refl _) ?_)
    (fun _ _ _ => trivial) (fun _ _ (_ : True) => trivial)
  intro peer member longer kept
  obtain ⟨row, present, rfl⟩ := List.mem_map.mp member
  simp only [holds_bind, holds_attempt, holds_pure]
  refine holds_mono (holds_guard_mono (holds_growing
    (send_fire_to_peer_delivered iroh session row.id (stateEnvelope node snapshot) longer)) ?_)
    (fun _ _ grown => kept.trans grown.2) (fun _ _ grown => kept.trans grown.2)
  rintro current op ⟨delivered, grown⟩ sent written
  have known : Met current fun state => ∃ id found, state.peers.get id = some found ∧
      found.id = row.id := by
    refine met_suffix (kept.trans grown) (met_head ?_)
    obtain ⟨id, stored⟩ := (listed row).mp present
    exact ⟨id, row, stored, rfl⟩
  exact ⟨row.id, snapshot, known, delivered_envelope delivered written, delivered⟩
end Towards

/-! Both exceptions happen: a peer with no Iroh endpoint is written to over TCP,
and a State message towards Sister 2 is taken by whichever member answers. -/

def sampleAck : Envelope := Envelope.new sampleNetwork .ack 1 2 []

def fallbackTrace : NodeTrace :=
  [⟨peeredState [], .tcpWrite ⟨0⟩ sampleAck, .ok (), peeredState []⟩,
    ⟨peeredState [], .tcpConnect ⟨"127.0.0.1:7778"⟩, .ok ⟨0⟩, peeredState []⟩,
    ⟨peeredState [], .peerGet 2, some (sampleRow []), peeredState []⟩,
    ⟨peeredState [], .recordGet 2, none, peeredState []⟩,
    ⟨peeredState [], .peerGet 2, some (sampleRow []), peeredState []⟩]

theorem sample_fallback_runs :
    Traces (NodeStep samplePlatform) (sendFireToPeer samplePlatform sampleMember 2 sampleAck)
      fallbackTrace (.done ()) := by
  have row : NodeStep samplePlatform (peeredState []) (.peerGet 2) (some (sampleRow []))
      (peeredState []) := ⟨(peered_row []).symm, rfl⟩
  have record : NodeStep samplePlatform (peeredState []) (.recordGet 2) none (peeredState []) :=
    ⟨rfl, rfl⟩
  have connect : NodeStep samplePlatform (peeredState []) (.tcpConnect ⟨"127.0.0.1:7778"⟩)
      (.ok ⟨0⟩) (peeredState []) := rfl
  have write : NodeStep samplePlatform (peeredState []) (.tcpWrite ⟨0⟩ sampleAck) (.ok ())
      (peeredState []) := rfl
  exact reaches_perform row (reaches_perform record (reaches_perform row
    (reaches_perform connect (reaches_perform write (.here _ _)))))

def sampleSnapshot : ResourceSnapshot := ⟨0, 0, 0, 0, 0, 0, []⟩

def sampleBroadcast : ControlRequest := ⟨stateEnvelope sampleMember sampleSnapshot, false⟩

-- Sister 2 is known with an Iroh endpoint that Sister 3 answers at.
def movedRow : PeerState := sampleRow ["iroh://" ++ endpointAddrJson sampleAddr]

def movedState : NodeState := peeredState ["iroh://" ++ endpointAddrJson sampleAddr]

def broadcastTrace : NodeTrace :=
  requestTrace 3 (Bytes.fill 32 11) movedState sampleAddr sampleBroadcast ++
    [⟨movedState, .peerGet 2, some movedRow, movedState⟩,
      ⟨movedState, .peerAll, [movedRow], movedState⟩,
      ⟨movedState, .localState, sampleSnapshot, movedState⟩]

theorem sample_broadcast_runs :
    Traces (NodeStep thirdPlatform) (broadcastState thirdPlatform sampleMember) broadcastTrace
      (.done ()) := by
  have snapshot : NodeStep thirdPlatform movedState .localState sampleSnapshot movedState := rfl
  have rows : NodeStep thirdPlatform movedState .peerAll [movedRow] movedState := by
    refine ⟨?_, rfl⟩
    intro row
    rw [List.mem_singleton]
    constructor
    · rintro rfl
      exact ⟨2, peered_row _⟩
    · rintro ⟨id, stored⟩
      by_cases same : id = 2
      · subst same
        exact Option.some.inj (stored.symm.trans (peered_row _))
      · rw [PeerStateTable.get, movedState, peeredState, Finmap.lookup_eq_none.mpr] at stored
        · cases stored
        · simpa using same
  have row : NodeStep thirdPlatform movedState (.peerGet 2) (some movedRow) movedState :=
    ⟨(peered_row _).symm, rfl⟩
  have fits : sampleBroadcast.encode.length ≤ MAX_CONTROL_FRAME_LENGTH := by decide +kernel
  have endpoint : rowEndpoint thirdPlatform (some movedRow) = some sampleAddr := by
    have parsed : parseEndpoint thirdPlatform ("iroh://" ++ endpointAddrJson sampleAddr) =
        .ok (.iroh sampleAddr) := sample_endpoint_parses rfl
    simp [rowEndpoint, movedRow, sampleRow, irohEndpointOf, parsed]
  have sending : ∀ trace : NodeTrace, Reaches (traceStep (NodeStep thirdPlatform))
      (sendFireToPeer thirdPlatform sampleMember 2 (stateEnvelope sampleMember sampleSnapshot))
      trace (.done ()) (requestTrace 3 (Bytes.fill 32 11) movedState sampleAddr sampleBroadcast ++
        ⟨movedState, .peerGet 2, some movedRow, movedState⟩ :: trace) := by
    intro trace
    simp only [sendFireToPeer, irohPeerEndpoint, sampleMember, sampleNode, bind_assoc]
    refine reaches_perform row ?_
    simp only [endpoint, pure_is_done, done_bind]
    refine reaches_bind (reaches_map_error (reaches_bind (sample_request_runs third_responds
      movedState _ rfl _ rfl rfl fits) (.here _ _))) (.here _ _)
  refine reaches_perform snapshot (reaches_perform rows ?_)
  exact reaches_bind (reaches_bind (reaches_attempt (sending _)) (.here _ _)) (.here _ _)
end Misaka.ControlDelivery
