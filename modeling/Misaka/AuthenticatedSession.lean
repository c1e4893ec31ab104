import Misaka.NodeRuntime

/-!
The ClientHello/ServerHello exchange on a fresh Iroh stream. Both sides present
a membership, a binding of their key to the Iroh endpoint and a nonce, signed
with the Sister key. The two validators make the same checks on what they
received; the client also requires the echo of its nonce and its optional pins.
-/

namespace Misaka.AuthenticatedSession
open Bincode Identity Protocol AuthorizationStores EffectTask NodeRuntime

def MAX_AUTH_FRAME_LENGTH : Nat := 1024 * 1024

def rejected (reason : String) : NetworkError := .authentication reason

def codecRejected (error : String) : NetworkError :=
  rejected ("invalid authenticated session payload: " ++ error)

/-- What either hello says about its sender. -/
structure HelloClaims where
  protocolVersion : UInt16
  networkId : NetworkId
  sisterId : SisterId
  sisterPublicKey : PublicKey
  membershipCertificate : MembershipCertificate
  transportBinding : TransportBinding
  signingBytes : List UInt8
  signature : Signature

def clientClaims (hello : AuthenticatedClientHello) : HelloClaims where
  protocolVersion := hello.protocolVersion
  networkId := hello.networkId
  sisterId := hello.sisterId
  sisterPublicKey := hello.sisterPublicKey
  membershipCertificate := hello.membershipCertificate
  transportBinding := hello.transportBinding
  signingBytes := hello.signingBytes
  signature := hello.signature

def serverClaims (hello : AuthenticatedServerHello) : HelloClaims where
  protocolVersion := hello.protocolVersion
  networkId := hello.networkId
  sisterId := hello.sisterId
  sisterPublicKey := hello.sisterPublicKey
  membershipCertificate := hello.membershipCertificate
  transportBinding := hello.transportBinding
  signingBytes := hello.signingBytes
  signature := hello.signature

section Code
variable (platform : Platform) (node : AuthenticatedSessionConfig)

def membershipIsRevoked (kind : MembershipKind) (serial : UInt64) :
    RuntimeTask NetworkError Bool :=
  match node.revocationDirectory with
  | none => pure false
  | some directory =>
    isRevokedIn platform
      (fun error => rejected ("cannot load local revocation state: " ++ error.display))
      directory node.authority node.networkId kind serial

def endpointMatchesBinding (stream : NetworkStream) (binding : IrohEndpointId) : Bool :=
  match stream.remoteEndpoint with
  | none => false
  | some remote =>
    match stripLeading "iroh://" remote with
    | none => false
    | some remoteId =>
      match platform.parseEndpointId remoteId with
      | .error _ => false
      | .ok parsed => parsed == binding

def localIsConsistent : Bool :=
  node.networkId == node.authority.networkId &&
    node.membershipCertificate.networkId == node.networkId &&
    node.membershipCertificate.sisterId == node.sisterId &&
    node.membershipCertificate.sisterPublicKey == node.sisterKey &&
    node.transportBinding.networkId == node.networkId &&
    node.transportBinding.sisterId == node.sisterId &&
    node.transportBinding.sisterPublicKey == node.sisterKey &&
    node.membershipCertificate.verify platform.verifies node.authority

-- The order follows the source's short-circuit: the clock is read only when the
-- contracts agree, the revocations only when the membership is in its window.
def validateLocal : RuntimeTask NetworkError Unit := do
  let inconsistent := rejected "local authentication material is inconsistent"
  ensure (localIsConsistent platform node) inconsistent
  let now ← perform .nowSecs
  ensure (node.membershipCertificate.isValidAt now &&
    node.transportBinding.verify platform.verifies) inconsistent
  let revoked ← membershipIsRevoked platform node .sister node.membershipCertificate.serial
  ensure (!revoked) inconsistent

def helloIsConsistent (hello : HelloClaims) : Bool :=
  hello.protocolVersion == AUTH_SESSION_PROTOCOL_VERSION &&
    hello.networkId == node.networkId &&
    hello.sisterPublicKey == hello.membershipCertificate.sisterPublicKey &&
    hello.sisterId == hello.membershipCertificate.sisterId &&
    hello.membershipCertificate.networkId == node.networkId &&
    hello.transportBinding.networkId == node.networkId &&
    hello.transportBinding.sisterId == hello.sisterId &&
    hello.transportBinding.sisterPublicKey == hello.sisterPublicKey &&
    platform.verifies hello.sisterPublicKey hello.signingBytes hello.signature &&
    hello.membershipCertificate.verify platform.verifies node.authority

def validateHello (invalid : NetworkError) (stream : NetworkStream) (hello : HelloClaims) :
    RuntimeTask NetworkError Unit := do
  ensure (helloIsConsistent platform node hello) invalid
  let now ← perform .nowSecs
  ensure (hello.membershipCertificate.isValidAt now &&
    hello.transportBinding.verify platform.verifies) invalid
  let revoked ← membershipIsRevoked platform node .sister hello.membershipCertificate.serial
  ensure (!revoked && endpointMatchesBinding platform stream hello.transportBinding.irohEndpointId)
    invalid

variable (client : AuthenticatedClientHello)

def validateClient (stream : NetworkStream) :
    RuntimeTask NetworkError Unit :=
  validateHello platform node
    (rejected "ClientHello identity, membership, or endpoint binding is invalid") stream
    (clientClaims client)

def validateServer (server : AuthenticatedServerHello) (expectedSisterId : Option SisterId)
    (expectedSisterPublicKey : Option PublicKey) (stream : NetworkStream) :
    RuntimeTask NetworkError Unit := do
  let invalid := rejected "ServerHello identity, membership, or endpoint binding is invalid"
  ensure (server.clientNonce == client.nonce && expectedSisterId.all (server.sisterId == ·) &&
    expectedSisterPublicKey.all (server.sisterPublicKey == ·)) invalid
  validateHello platform node invalid stream (serverClaims server)

def readAuthFrame {Value : Type} (decode : Decoder Value) (stream : NetworkStream) :
    RuntimeTask NetworkError Value :=
  readFrame MAX_AUTH_FRAME_LENGTH (rejected "authenticated session frame is too large") .io
    codecRejected decode stream

def writeAuthFrame (payload : List UInt8) (stream : NetworkStream) (frame : StreamFrame) :
    RuntimeTask NetworkError Unit :=
  writeFrame MAX_AUTH_FRAME_LENGTH (rejected "authenticated session frame is too large") .io
    payload stream frame

def unsignedClientHello (nonce : Bytes 32) : AuthenticatedClientHello where
  protocolVersion := AUTH_SESSION_PROTOCOL_VERSION
  networkId := node.networkId
  sisterId := node.sisterId
  sisterPublicKey := node.sisterKey
  membershipCertificate := node.membershipCertificate
  transportBinding := node.transportBinding
  nonce := nonce
  signature := Bytes.fill 64 0

def unsignedServerHello (clientNonce nonce : Bytes 32) : AuthenticatedServerHello where
  protocolVersion := AUTH_SESSION_PROTOCOL_VERSION
  networkId := node.networkId
  sisterId := node.sisterId
  sisterPublicKey := node.sisterKey
  membershipCertificate := node.membershipCertificate
  transportBinding := node.transportBinding
  clientNonce := clientNonce
  nonce := nonce
  signature := Bytes.fill 64 0

def authenticateClient (stream : NetworkStream) (expectedSisterId : Option SisterId)
    (expectedSisterPublicKey : Option PublicKey) : RuntimeTask NetworkError NetworkStream := do
  validateLocal platform node
  let nonce ← perform .random32
  let unsigned := unsignedClientHello node nonce
  let signature ← perform (.sign node.sisterKey unsigned.signingBytes)
  let client : AuthenticatedClientHello := { unsigned with signature := signature }
  writeAuthFrame client.encode stream (.clientHello client)
  let server ← readAuthFrame platform.serverHello stream
  validateServer platform node client server expectedSisterId expectedSisterPublicKey stream
  pure stream

structure AuthenticatedPeer where
  sisterId : SisterId
  sisterPublicKey : PublicKey
  membershipSerial : UInt64
deriving DecidableEq

def authenticateServer (stream : NetworkStream) :
    RuntimeTask NetworkError (NetworkStream × AuthenticatedPeer) := do
  validateLocal platform node
  let client ← readAuthFrame platform.clientHello stream
  validateClient platform node client stream
  let peer : AuthenticatedPeer :=
    ⟨client.sisterId, client.sisterPublicKey, client.membershipCertificate.serial⟩
  let nonce ← perform .random32
  let unsigned := unsignedServerHello node client.nonce nonce
  let signature ← perform (.sign node.sisterKey unsigned.signingBytes)
  let server : AuthenticatedServerHello := { unsigned with signature := signature }
  writeAuthFrame server.encode stream (.serverHello server)
  pure (stream, peer)
end Code

/-! What a finished handshake has checked, read off the trace of the session. -/
section Checks
variable {State : Type} {step : State → (op : RuntimeOp) → op.Result → State → Prop}
variable {trace longer : List (Event RuntimeOp RuntimeOp.Result State)}

/-- The received hello passed every check of the validators, at a clock reading
and on a revocation list that this session itself took. -/
structure HelloAccepted (platform : Platform) (node : AuthenticatedSessionConfig)
    (stream : NetworkStream) (hello : HelloClaims)
    (trace : List (Event RuntimeOp RuntimeOp.Result State)) : Prop where
  consistent : helloIsConsistent platform node hello = true
  window : ∃ now, Answered trace .nowSecs now ∧
    hello.membershipCertificate.isValidAt now = true
  bindingSigned : hello.transportBinding.verify platform.verifies = true
  unrevoked : ∀ directory ∈ node.revocationDirectory,
    FoundUnrevoked platform node.authority directory node.networkId .sister
      hello.membershipCertificate.serial trace
  endpoint : endpointMatchesBinding platform stream hello.transportBinding.irohEndpointId = true

variable {platform : Platform} {node : AuthenticatedSessionConfig} {stream : NetworkStream}
variable {hello : HelloClaims}

theorem hello_accepted_suffix (kept : trace <:+ longer)
    (accepted : HelloAccepted platform node stream hello trace) :
    HelloAccepted platform node stream hello longer := by
  obtain ⟨now, read, valid⟩ := accepted.window
  exact ⟨accepted.consistent, ⟨now, answered_suffix kept read, valid⟩, accepted.bindingSigned,
    fun directory configured =>
      found_unrevoked_suffix kept (accepted.unrevoked directory configured),
    accepted.endpoint⟩

theorem membership_is_revoked_spec (platform : Platform) (node : AuthenticatedSessionConfig)
    (kind : MembershipKind) (serial : UInt64) :
    Holds (traceStep step) (fun _ _ => True) (membershipIsRevoked platform node kind serial)
      (fun longer revoked => revoked = false → ∀ directory ∈ node.revocationDirectory,
        FoundUnrevoked platform node.authority directory node.networkId kind serial longer)
      (fun _ _ => True) trace := by
  unfold membershipIsRevoked
  split
  · rename_i unset
    simp [unset]
  · rename_i directory set
    refine holds_mono (is_revoked_in_spec platform _ directory node.authority node.networkId kind
      serial) ?_ (fun _ _ _ => trivial)
    intro longer revoked found unrevoked other configured
    rw [set, Option.mem_some_iff] at configured
    subst configured
    exact found unrevoked

theorem validate_hello_spec (platform : Platform) (node : AuthenticatedSessionConfig)
    (invalid : NetworkError) (stream : NetworkStream) (hello : HelloClaims) :
    Holds (traceStep step) (fun _ _ => True) (validateHello platform node invalid stream hello)
      (fun longer _ => HelloAccepted platform node stream hello longer) (fun _ _ => True)
      trace := by
  simp only [validateHello, holds_bind, holds_ensure, holds_trace_perform, implies_true, and_true,
    true_and, Bool.and_eq_true]
  intro consistent now before after _ checked
  refine holds_mono (holds_keeping_trace (membership_is_revoked_spec platform node .sister
    hello.membershipCertificate.serial)) ?_ (fun _ _ _ => trivial)
  rintro longer revoked ⟨found, kept⟩ last
  have unrevoked : revoked = false := by simpa using last.1
  exact ⟨consistent, ⟨now, answered_suffix kept answered_head, checked.1⟩, checked.2,
    found unrevoked, last.2⟩

theorem hello_key_signed (consistent : helloIsConsistent platform node hello = true) :
    platform.verifies hello.sisterPublicKey hello.signingBytes hello.signature = true ∧
      hello.membershipCertificate.verify platform.verifies node.authority = true ∧
      hello.sisterPublicKey = hello.membershipCertificate.sisterPublicKey ∧
      hello.sisterId = hello.membershipCertificate.sisterId ∧
      hello.transportBinding.sisterPublicKey = hello.sisterPublicKey ∧
      hello.transportBinding.sisterId = hello.sisterId ∧
      hello.membershipCertificate.networkId = node.networkId ∧
      hello.transportBinding.networkId = node.networkId := by
  simp only [helloIsConsistent, Bool.and_eq_true, beq_iff_eq] at consistent
  obtain ⟨⟨⟨⟨⟨⟨⟨⟨⟨_, _⟩, key⟩, id⟩, memberNetwork⟩, boundNetwork⟩, boundId⟩, boundKey⟩, signature⟩,
    membership⟩ := consistent
  exact ⟨signature, membership, key, id, boundKey, boundId, memberNetwork, boundNetwork⟩

/-- The ServerHello a client session accepted, with the nonce it had drawn. -/
structure ServerAccepted (platform : Platform) (node : AuthenticatedSessionConfig)
    (stream : NetworkStream) (expectedSisterId : Option SisterId)
    (expectedSisterPublicKey : Option PublicKey) (hello : AuthenticatedServerHello)
    (trace : List (Event RuntimeOp RuntimeOp.Result State)) : Prop where
  received : ReadFrom platform.serverHello stream trace hello
  nonceEchoed : Answered trace .random32 hello.clientNonce
  pinnedId : ∀ id ∈ expectedSisterId, hello.sisterId = id
  pinnedKey : ∀ key ∈ expectedSisterPublicKey, hello.sisterPublicKey = key
  accepted : HelloAccepted platform node stream (serverClaims hello) trace

theorem server_accepted_suffix {expectedSisterId : Option SisterId}
    {expectedSisterPublicKey : Option PublicKey} {hello : AuthenticatedServerHello}
    (kept : trace <:+ longer)
    (accepted : ServerAccepted platform node stream expectedSisterId expectedSisterPublicKey hello
      trace) :
    ServerAccepted platform node stream expectedSisterId expectedSisterPublicKey hello longer :=
  ⟨read_from_suffix kept accepted.received, answered_suffix kept accepted.nonceEchoed,
    accepted.pinnedId, accepted.pinnedKey, hello_accepted_suffix kept accepted.accepted⟩

theorem validate_server_spec (platform : Platform) (node : AuthenticatedSessionConfig)
    (client : AuthenticatedClientHello) (server : AuthenticatedServerHello)
    (expectedSisterId : Option SisterId) (expectedSisterPublicKey : Option PublicKey)
    (stream : NetworkStream) :
    Holds (traceStep step) (fun _ _ => True)
      (validateServer platform node client server expectedSisterId expectedSisterPublicKey stream)
      (fun longer _ => server.clientNonce = client.nonce ∧
        (∀ id ∈ expectedSisterId, server.sisterId = id) ∧
        (∀ key ∈ expectedSisterPublicKey, server.sisterPublicKey = key) ∧
        HelloAccepted platform node stream (serverClaims server) longer)
      (fun _ _ => True) trace := by
  simp only [validateServer, holds_bind, holds_ensure, implies_true, and_true, Bool.and_eq_true,
    beq_iff_eq, Option.all_eq_true]
  rintro ⟨⟨echoed, pinnedId⟩, pinnedKey⟩
  refine holds_mono (validate_hello_spec platform node _ stream (serverClaims server)) ?_
    (fun _ _ _ => trivial)
  intro longer _ accepted
  exact ⟨echoed, pinnedId, pinnedKey, accepted⟩

theorem read_auth_frame_spec {Value : Type} (decode : Decoder Value) (stream : NetworkStream) :
    Holds (traceStep step) (fun _ _ => True) (readAuthFrame decode stream)
      (fun longer value => ReadFrom decode stream longer value) (fun _ _ => True) trace :=
  read_frame_spec _ _ _ _ decode stream

theorem authenticate_client_spec (platform : Platform) (node : AuthenticatedSessionConfig)
    (stream : NetworkStream) (expectedSisterId : Option SisterId)
    (expectedSisterPublicKey : Option PublicKey) :
    Holds (traceStep step) (fun _ _ => True)
      (authenticateClient platform node stream expectedSisterId expectedSisterPublicKey)
      (fun longer opened => opened = stream ∧ ∃ hello,
        ServerAccepted platform node stream expectedSisterId expectedSisterPublicKey hello longer)
      (fun _ _ => True) trace := by
  simp only [authenticateClient, holds_bind, holds_trace_perform, holds_pure, true_and]
  refine holds_mono (holds_trivial _) ?_ (fun _ _ _ => trivial)
  intro started _ _ nonce before after _ signature before' after' _
  refine holds_mono (holds_keeping_trace (holds_trivial _)) ?_ (fun _ _ _ => trivial)
  rintro sent _ ⟨_, keptSent⟩
  refine holds_mono (holds_keeping_trace (read_auth_frame_spec platform.serverHello stream)) ?_
    (fun _ _ _ => trivial)
  rintro read server ⟨received, keptRead⟩
  refine holds_mono (holds_keeping_trace (validate_server_spec platform node _ server
    expectedSisterId expectedSisterPublicKey stream)) ?_ (fun _ _ _ => trivial)
  rintro checked _ ⟨⟨echoed, pinnedId, pinnedKey, accepted⟩, keptChecked⟩
  have drawn : Answered checked .random32 nonce := by
    refine answered_suffix (keptSent.trans (keptRead.trans keptChecked)) ?_
    exact answered_suffix (List.suffix_cons _ _) answered_head
  exact ⟨server, read_from_suffix keptChecked received, echoed ▸ drawn, pinnedId,
    pinnedKey, accepted⟩

/-- The ClientHello a server session accepted, and the peer it reported. -/
structure ClientAccepted (platform : Platform) (node : AuthenticatedSessionConfig)
    (stream : NetworkStream) (hello : AuthenticatedClientHello) (peer : AuthenticatedPeer)
    (trace : List (Event RuntimeOp RuntimeOp.Result State)) : Prop where
  received : ReadFrom platform.clientHello stream trace hello
  peerId : peer.sisterId = hello.sisterId
  peerKey : peer.sisterPublicKey = hello.sisterPublicKey
  peerSerial : peer.membershipSerial = hello.membershipCertificate.serial
  accepted : HelloAccepted platform node stream (clientClaims hello) trace

theorem authenticate_server_spec (platform : Platform) (node : AuthenticatedSessionConfig)
    (stream : NetworkStream) :
    Holds (traceStep step) (fun _ _ => True) (authenticateServer platform node stream)
      (fun longer opened => opened.1 = stream ∧ ∃ hello,
        ClientAccepted platform node stream hello opened.2 longer)
      (fun _ _ => True) trace := by
  simp only [authenticateServer, holds_bind, holds_trace_perform, holds_pure, true_and]
  refine holds_mono (holds_trivial _) ?_ (fun _ _ _ => trivial)
  intro started _ _
  refine holds_mono (holds_keeping_trace (read_auth_frame_spec platform.clientHello stream)) ?_
    (fun _ _ _ => trivial)
  rintro read client ⟨received, _⟩
  refine holds_mono (holds_keeping_trace (validate_hello_spec platform node _ stream
    (clientClaims client))) ?_ (fun _ _ _ => trivial)
  rintro checked _ ⟨accepted, keptChecked⟩ nonce before after _ signature before' after' _
  refine holds_mono (holds_keeping_trace (holds_trivial _)) ?_ (fun _ _ _ => trivial)
  rintro sent _ ⟨_, keptSent⟩
  have keptAll : checked <:+ sent :=
    (List.suffix_cons _ _).trans ((List.suffix_cons _ _).trans keptSent)
  exact ⟨client, read_from_suffix (keptChecked.trans keptAll) received, rfl, rfl, rfl,
    hello_accepted_suffix keptAll accepted⟩

/-- The operations of a handshake: nothing but hellos is written, and only on
the stream that is being authenticated. -/
def HandshakeOp (stream : NetworkStream) : RuntimeOp → Prop
  | .nowSecs | .random32 | .sign _ _ | .loadRevocations _ => True
  | .readExact other _ => other = stream
  | .write other (.clientHello _) => other = stream
  | .write other (.serverHello _) => other = stream
  | _ => False

variable (platform : Platform)

theorem only_membership_is_revoked (node : AuthenticatedSessionConfig) (stream : NetworkStream)
    (kind : MembershipKind) (serial : UInt64) :
    Only (HandshakeOp stream) (membershipIsRevoked platform node kind serial) := by
  unfold membershipIsRevoked
  split
  · simp
  · exact only_is_revoked_in trivial

theorem only_validate_local (node : AuthenticatedSessionConfig) (stream : NetworkStream) :
    Only (HandshakeOp stream) (validateLocal platform node) := by
  refine only_bind (by simp) fun _ => ?_
  refine only_perform_bind trivial fun now => ?_
  refine only_bind (by simp) fun _ => ?_
  exact only_bind (only_membership_is_revoked platform node stream _ _) fun _ => by simp

theorem only_validate_hello (node : AuthenticatedSessionConfig) (invalid : NetworkError)
    (stream : NetworkStream) (hello : HelloClaims) :
    Only (HandshakeOp stream) (validateHello platform node invalid stream hello) := by
  refine only_bind (by simp) fun _ => ?_
  refine only_perform_bind trivial fun now => ?_
  refine only_bind (by simp) fun _ => ?_
  exact only_bind (only_membership_is_revoked platform node stream _ _) fun _ => by simp

theorem only_authenticate_client (node : AuthenticatedSessionConfig) (stream : NetworkStream)
    (expectedSisterId : Option SisterId) (expectedSisterPublicKey : Option PublicKey) :
    Only (HandshakeOp stream)
      (authenticateClient platform node stream expectedSisterId expectedSisterPublicKey) := by
  refine only_bind (only_validate_local platform node stream) fun _ => ?_
  refine only_perform_bind trivial fun nonce => ?_
  refine only_perform_bind trivial fun signature => ?_
  refine only_bind (only_write_frame rfl) fun _ => ?_
  refine only_bind (only_read_frame fun _ => rfl) fun server => ?_
  refine only_bind ?_ fun _ => by simp
  exact only_bind (by simp) fun _ => only_validate_hello platform node _ stream _
end Checks

/-! A hello has a bounded size, so the frame limit never stops a node's own. -/

theorem option_u64_length_le (value : Option UInt64) : (option u64 value).length ≤ 9 := by
  cases value <;> simp [option, u64, little_endian_length]

theorem certificate_length_le (certificate : MembershipCertificate) :
    certificate.encode.length ≤ 289 := by
  have network := network_encode_length_le certificate.networkId
  have expiry := option_u64_length_le certificate.expiresAt
  simp only [MembershipCertificate.encode, MembershipCertificate.signingBytes, encodeSignature,
    byteString, length64, u64, List.length_append, little_endian_length,
    certificate.sisterPublicKey.size_eq, certificate.authoritySignature.size_eq] at expiry ⊢
  omega

theorem binding_length_le (binding : TransportBinding) : binding.encode.length ≤ 304 := by
  have network := network_encode_length_le binding.networkId
  simp only [TransportBinding.encode, TransportBinding.signingBytes, encodeSignature, byteString,
    length64, u64, List.length_append, little_endian_length, binding.sisterPublicKey.size_eq,
    binding.irohEndpointId.size_eq, binding.signatureBySisterKey.size_eq]
  omega

theorem client_hello_fits (hello : AuthenticatedClientHello) :
    hello.encode.length ≤ MAX_AUTH_FRAME_LENGTH := by
  have network := network_encode_length_le hello.networkId
  have certificate := certificate_length_le hello.membershipCertificate
  have binding := binding_length_le hello.transportBinding
  simp only [AuthenticatedClientHello.encode, AuthenticatedClientHello.signingBytes,
    encodeSignature, byteString, length64, u16, u64, List.length_append, little_endian_length,
    hello.sisterPublicKey.size_eq, hello.nonce.size_eq, hello.signature.size_eq,
    MAX_AUTH_FRAME_LENGTH]
  omega

/-! A handshake that goes through: the responder is Sister `id` with key `key`,
reached at the endpoint its binding names. -/
section Deployment
variable (id : SisterId) (key : PublicKey)

def sampleCertificate : MembershipCertificate :=
  ⟨sampleNetwork, key, id, 0, none, 2, Bytes.fill 64 0⟩

def sampleBinding : TransportBinding :=
  ⟨sampleNetwork, id, key, sampleEndpointId, 1, Bytes.fill 64 0⟩

def sampleSession : AuthenticatedSessionConfig where
  networkId := sampleNetwork
  sisterId := 1
  sisterKey := Bytes.fill 32 8
  authority := sampleAuthority
  membershipCertificate := sampleCertificate 1 (Bytes.fill 32 8)
  transportBinding := sampleBinding 1 (Bytes.fill 32 8)
  revocationDirectory := some "data"

def sampleNonce : Bytes 32 := Bytes.fill 32 9

def sampleServerHello : AuthenticatedServerHello where
  protocolVersion := AUTH_SESSION_PROTOCOL_VERSION
  networkId := sampleNetwork
  sisterId := id
  sisterPublicKey := key
  membershipCertificate := sampleCertificate id key
  transportBinding := sampleBinding id key
  clientNonce := sampleNonce
  nonce := Bytes.fill 32 10
  signature := Bytes.fill 64 0

def sampleStream : NetworkStream := ⟨0, some ("iroh://" ++ sampleEndpointText)⟩

def sampleClientHello : AuthenticatedClientHello := unsignedClientHello sampleSession sampleNonce

def handshakeTrace (state : NodeState) : NodeTrace :=
  [⟨state, .loadRevocations "data", .ok none, state⟩,
    ⟨state, .nowSecs, state.clock, state⟩,
    ⟨state, .readExact sampleStream (ofBigEndian (frameHeader (sampleServerHello id key).encode)),
      .ok (sampleServerHello id key).encode, state⟩,
    ⟨state, .readExact sampleStream 4, .ok (frameHeader (sampleServerHello id key).encode), state⟩,
    ⟨state, .write sampleStream (.clientHello sampleClientHello), .ok (), state⟩,
    ⟨state, .sign sampleSession.sisterKey sampleClientHello.signingBytes, Bytes.fill 64 0, state⟩,
    ⟨state, .random32, sampleNonce, state⟩,
    ⟨state, .loadRevocations "data", .ok none, state⟩,
    ⟨state, .nowSecs, state.clock, state⟩]

variable {id key} {platform : Platform}

-- What the sample handshake needs of a platform.
structure Responds (platform : Platform) (id : SisterId) (key : PublicKey) : Prop where
  trusting : platform.verifies = fun _ _ _ => true
  hello : platform.serverHello (sampleServerHello id key).encode = .ok (sampleServerHello id key)
  small : (sampleServerHello id key).encode.length ≤ MAX_AUTH_FRAME_LENGTH
  bound : platform.parseEndpointId sampleEndpointText = .ok sampleEndpointId

-- A responder that answers as Sister 3.
def thirdPlatform : Platform :=
  { samplePlatform with
    serverHello :=
      recognise AuthenticatedServerHello.encode [sampleServerHello 3 (Bytes.fill 32 11)] }

theorem third_responds : Responds thirdPlatform 3 (Bytes.fill 32 11) where
  trusting := rfl
  hello := by simp only [thirdPlatform, recognise_first]
  small := by decide +kernel
  bound := by simp only [thirdPlatform, samplePlatform, if_true]

theorem third_hello_read {bytes : List UInt8} {hello : AuthenticatedServerHello}
    (decoded : thirdPlatform.serverHello bytes = .ok hello) : hello.sisterId = 3 := by
  rw [List.mem_singleton.mp (recognise_known decoded)]
  rfl

variable (responds : Responds platform id key)
include responds

theorem sample_local_valid :
    localIsConsistent platform sampleSession = true := by
  simp only [localIsConsistent, MembershipCertificate.verify, responds.trusting]
  decide

theorem sample_hello_consistent :
    helloIsConsistent platform sampleSession (serverClaims (sampleServerHello id key)) = true := by
  simp [helloIsConsistent, MembershipCertificate.verify, responds.trusting, serverClaims,
    sampleServerHello, sampleCertificate, sampleBinding, sampleSession, sampleAuthority]

theorem sample_endpoint_matches :
    endpointMatchesBinding platform sampleStream (sampleBinding id key).irohEndpointId = true := by
  have stripped : stripLeading "iroh://" ("iroh://" ++ sampleEndpointText) =
      some sampleEndpointText := strip_leading_some.mpr rfl
  simp [endpointMatchesBinding, sampleStream, stripped, responds.bound, sampleBinding]

omit responds

theorem sample_certificate_valid (id : SisterId) (key : PublicKey) (now : UInt64) :
    (sampleCertificate id key).isValidAt now = true := by
  simp [MembershipCertificate.isValidAt, sampleCertificate]

variable (responds : Responds platform id key)
include responds

theorem sample_binding_verifies (other : SisterId) (otherKey : PublicKey) :
    (sampleBinding other otherKey).verify platform.verifies = true := by
  simp [TransportBinding.verify, responds.trusting]

variable (state : NodeState) (trace : NodeTrace)

theorem sample_local_runs (listed : (state.directories "data").revocations = .absent) :
    Reaches (traceStep (NodeStep platform)) (validateLocal platform sampleSession) trace
      (.done ()) (⟨state, .loadRevocations "data", .ok none, state⟩ ::
        ⟨state, .nowSecs, state.clock, state⟩ :: trace) := by
  have clock : NodeStep platform state .nowSecs state.clock state := ⟨rfl, rfl⟩
  simp only [validateLocal, sample_local_valid responds, ensure_true, done_bind]
  refine reaches_perform clock ?_
  simp only [sampleSession, sample_certificate_valid, sample_binding_verifies responds,
    Bool.and_self, ensure_true, done_bind]
  exact reaches_bind (is_revoked_in_runs state _ listed) (.here _ _)

variable {pin : Option SisterId} {keyPin : Option PublicKey}

theorem sample_server_runs (listed : (state.directories "data").revocations = .absent)
    (pinned : pin.all (id == ·) = true) (keyPinned : keyPin.all (key == ·) = true) :
    Reaches (traceStep (NodeStep platform))
      (validateServer platform sampleSession sampleClientHello (sampleServerHello id key) pin keyPin
        sampleStream)
      trace (.done ()) (⟨state, .loadRevocations "data", .ok none, state⟩ ::
        ⟨state, .nowSecs, state.clock, state⟩ :: trace) := by
  have clock : NodeStep platform state .nowSecs state.clock state := ⟨rfl, rfl⟩
  have echoed : ((sampleServerHello id key).clientNonce == sampleClientHello.nonce) = true :=
    beq_self_eq_true sampleNonce
  have pins : (pin.all ((sampleServerHello id key).sisterId == ·) &&
      keyPin.all ((sampleServerHello id key).sisterPublicKey == ·)) = true := by
    rw [Bool.and_eq_true]
    exact ⟨pinned, keyPinned⟩
  rw [validateServer, echoed, Bool.true_and, pins]
  simp only [ensure_true, done_bind, validateHello, sample_hello_consistent responds]
  refine reaches_perform clock ?_
  have valid : ((serverClaims (sampleServerHello id key)).membershipCertificate.isValidAt
      state.clock && (serverClaims (sampleServerHello id key)).transportBinding.verify
        platform.verifies) = true := by
    rw [Bool.and_eq_true]
    exact ⟨sample_certificate_valid id key state.clock, sample_binding_verifies responds id key⟩
  rw [valid, ensure_true, done_bind]
  refine reaches_bind (is_revoked_in_runs state _ listed) ?_
  have endpoint : endpointMatchesBinding platform sampleStream
      (serverClaims (sampleServerHello id key)).transportBinding.irohEndpointId = true :=
    sample_endpoint_matches responds
  rw [endpoint]
  exact .here _ _

theorem sample_handshake (listed : (state.directories "data").revocations = .absent)
    (pinned : pin.all (id == ·) = true) (keyPinned : keyPin.all (key == ·) = true) :
    Reaches (traceStep (NodeStep platform))
      (authenticateClient platform sampleSession sampleStream pin keyPin) trace
      (.done sampleStream) (handshakeTrace id key state ++ trace) := by
  have draw : NodeStep platform state .random32 sampleNonce state := rfl
  have sign : NodeStep platform state
      (.sign sampleSession.sisterKey sampleClientHello.signingBytes) (Bytes.fill 64 0) state := rfl
  have small : ofBigEndian (frameHeader (sampleServerHello id key).encode) ≤
      MAX_AUTH_FRAME_LENGTH := frame_header_le responds.small (by decide)
  refine reaches_bind (sample_local_runs responds state trace listed) ?_
  refine reaches_perform draw ?_
  refine reaches_perform sign ?_
  refine reaches_bind (write_frame_runs state _ (client_hello_fits _)) ?_
  refine reaches_bind (read_frame_runs state _ small responds.hello) ?_
  exact reaches_bind (sample_server_runs responds state _ listed pinned keyPinned) (.here _ _)
end Deployment
end Misaka.AuthenticatedSession
