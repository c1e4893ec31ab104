import Misaka.AuthenticatedSession
import Misaka.TaskPool

/-!
Sessions under an active attacker. Any number of client and server sessions run
on any hosts; whatever arrives on a stream is up to the attacker, who may also
hold keys and sign with them at any time. The world keeps every message that a
key has signed. A signature that verifies was made before it arrived, and a drawn
nonce is not yet in any signed ServerHello; from this follows what an accepted
handshake says about the other side.
-/

namespace Misaka.SessionSoundness
open Bincode Identity Protocol AuthorizationStores EffectTask NodeRuntime AuthenticatedSession
open TaskPool

structure World (Host : Type) where
  nodes : Host → NodeState
  signed : Set (PublicKey × List UInt8)

section Sessions
variable {Host : Type}

inductive Session (Host : Type) where
  | client (host : Host) (config : AuthenticatedSessionConfig) (stream : NetworkStream)
      (expectedSisterId : Option SisterId) (expectedSisterPublicKey : Option PublicKey)
  | server (host : Host) (config : AuthenticatedSessionConfig) (stream : NetworkStream)

abbrev Session.Val : Session Host → Type
  | .client .. => NetworkStream
  | .server .. => NetworkStream × AuthenticatedPeer

def Session.host : Session Host → Host
  | .client host .. => host
  | .server host .. => host

def Session.authenticate (platform : Platform) :
    (session : Session Host) → RuntimeTask NetworkError session.Val
  | .client _ config stream expectedSisterId expectedSisterPublicKey =>
    authenticateClient platform config stream expectedSisterId expectedSisterPublicKey
  | .server _ config stream => authenticateServer platform config stream

/-! The assumptions on signatures and nonces, at the step that uses them. -/

/-- Nothing in the hello that verifies under some key is a forgery. -/
structure Authentic (platform : Platform) (signed : Set (PublicKey × List UInt8))
    (hello : HelloClaims) : Prop where
  claims : ∀ key, platform.verifies key hello.signingBytes hello.signature = true →
    (key, hello.signingBytes) ∈ signed
  membership : ∀ key, platform.verifies key hello.membershipCertificate.signingBytes
      hello.membershipCertificate.authoritySignature = true →
    (key, hello.membershipCertificate.signingBytes) ∈ signed
  binding : ∀ key, platform.verifies key hello.transportBinding.signingBytes
      hello.transportBinding.signatureBySisterKey = true →
    (key, hello.transportBinding.signingBytes) ∈ signed

variable {platform : Platform}

theorem authentic_mono {signed more : Set (PublicKey × List UInt8)} {hello : HelloClaims}
    (grows : signed ⊆ more) (authentic : Authentic platform signed hello) :
    Authentic platform more hello where
  claims key verified := grows (authentic.claims key verified)
  membership key verified := grows (authentic.membership key verified)
  binding key verified := grows (authentic.binding key verified)

def Genuine (platform : Platform) (signed : Set (PublicKey × List UInt8))
    (bytes : List UInt8) : Prop :=
  (∀ hello, platform.clientHello bytes = .ok hello →
    Authentic platform signed (clientClaims hello)) ∧
  (∀ hello, platform.serverHello bytes = .ok hello →
    Authentic platform signed (serverClaims hello))

-- Nobody has answered this nonce yet.
def Fresh (signed : Set (PublicKey × List UInt8)) (nonce : Bytes 32) : Prop :=
  ∀ key (hello : AuthenticatedServerHello), hello.clientNonce = nonce →
    (key, hello.signingBytes) ∉ signed

def Assumed (platform : Platform) (signed : Set (PublicKey × List UInt8)) (op : RuntimeOp)
    (result : op.Result) : Prop :=
  match op, result with
  | .random32, nonce => Fresh signed nonce
  | .readExact _ _, .ok bytes => Genuine platform signed bytes
  | _, _ => True

def signs : RuntimeOp → Set (PublicKey × List UInt8)
  | .sign key message => {(key, message)}
  | _ => ∅

structure SessionStep (platform : Platform) (session : Session Host) (before : World Host)
    (op : RuntimeOp) (result : op.Result) (after : World Host) : Prop where
  node : NodeStep platform (before.nodes session.host) op result (after.nodes session.host)
  others : ∀ other, other ≠ session.host → after.nodes other = before.nodes other
  ledger : after.signed = before.signed ∪ signs op
  assumed : Assumed platform before.signed op result

/-- Between the steps of the sessions hosts may change in any way and anybody may
sign with the keys they hold. -/
def Grows (before after : World Host) : Prop := before.signed ⊆ after.signed

theorem signed_ascends {Index : Type} {sessions : Index → Session Host} :
    Ascends (fun i => SessionStep platform (sessions i)) Grows Grows where
  refl world := Set.Subset.refl world.signed
  trans early late := Set.Subset.trans early late
  stepped taken := by
    rw [Grows, taken.ledger]
    exact Set.subset_union_left
  moved grows := grows

/-- The nonce of a client is part of what a ServerHello signs. -/
theorem server_hello_signs_nonce {hello other : AuthenticatedServerHello}
    (same : hello.signingBytes = other.signingBytes) : hello.clientNonce = other.clientNonce := by
  have nonces : hello.nonce.toList.length = other.nonce.toList.length := by
    rw [hello.nonce.size_eq, other.nonce.size_eq]
  have echoed : hello.clientNonce.toList.length = other.clientNonce.toList.length := by
    rw [hello.clientNonce.size_eq, other.clientNonce.size_eq]
  have front := (List.append_inj' same nonces).1
  exact Bytes.ext (List.append_inj' front echoed).2
end Sessions

section Soundness
variable {Host : Type} {platform : Platform}

abbrev WorldTrace (Host : Type) := List (Event RuntimeOp RuntimeOp.Result (World Host))

-- The connection's remote endpoint is the one the binding names.
def BoundTo (platform : Platform) (stream : NetworkStream) (endpoint : IrohEndpointId) : Prop :=
  ∃ id, stream.remoteEndpoint = some ("iroh://" ++ id) ∧
    platform.parseEndpointId id = .ok endpoint

/-- What an accepted hello establishes about its sender. -/
structure Vouched (platform : Platform) (host : Host) (config : AuthenticatedSessionConfig)
    (stream : NetworkStream) (hello : HelloClaims) (trace : WorldTrace Host)
    (signed : Set (PublicKey × List UInt8)) : Prop where
  helloSigned : (hello.sisterPublicKey, hello.signingBytes) ∈ signed
  bindingSigned : (hello.sisterPublicKey, hello.transportBinding.signingBytes) ∈ signed
  bindingSubject : hello.transportBinding.sisterId = hello.sisterId ∧
    hello.transportBinding.sisterPublicKey = hello.sisterPublicKey ∧
    hello.transportBinding.networkId = config.networkId
  endpoint : BoundTo platform stream hello.transportBinding.irohEndpointId
  memberSubject : hello.membershipCertificate.sisterId = hello.sisterId ∧
    hello.membershipCertificate.sisterPublicKey = hello.sisterPublicKey ∧
    hello.membershipCertificate.networkId = config.networkId
  memberSigned : (config.authority.authorityPublicKey,
    hello.membershipCertificate.signingBytes) ∈ signed
  current : Met trace fun world =>
    hello.membershipCertificate.isValidAt (world.nodes host).clock = true
  unrevoked : ∀ directory ∈ config.revocationDirectory, Met trace fun world =>
    ∃ records, ((world.nodes host).directories directory).revocations.read = .ok records ∧
      NotRevoked (records.getD []) config.networkId .sister hello.membershipCertificate.serial

/-- What a finished session may rely on. The client also knows that its peer
signed after the client had drawn the nonce, and that no other nonce fits what
was signed. -/
def Session.Sound (platform : Platform) (trace : WorldTrace Host)
    (signed : Set (PublicKey × List UInt8)) : (session : Session Host) → session.Val → Prop
  | .client host config stream expectedSisterId expectedSisterPublicKey, opened =>
    opened = stream ∧ ∃ hello : AuthenticatedServerHello,
      (∃ before after, (⟨before, .random32, hello.clientNonce, after⟩ :
          Event RuntimeOp RuntimeOp.Result (World Host)) ∈ trace ∧
        (hello.sisterPublicKey, hello.signingBytes) ∉ before.signed) ∧
      (∀ other : AuthenticatedServerHello, other.signingBytes = hello.signingBytes →
        other.clientNonce = hello.clientNonce) ∧
      (∀ id ∈ expectedSisterId, hello.sisterId = id) ∧
      (∀ key ∈ expectedSisterPublicKey, hello.sisterPublicKey = key) ∧
      Vouched platform host config stream (serverClaims hello) trace signed
  | .server host config stream, opened =>
    opened.1 = stream ∧ ∃ hello : AuthenticatedClientHello,
      opened.2 = ⟨hello.sisterId, hello.sisterPublicKey, hello.membershipCertificate.serial⟩ ∧
      Vouched platform host config stream (clientClaims hello) trace signed

variable {stream : NetworkStream}

theorem endpoint_matches_bound {binding : IrohEndpointId}
    (matched : endpointMatchesBinding platform stream binding = true) :
    BoundTo platform stream binding := by
  unfold endpointMatchesBinding at matched
  split at matched
  · cases matched
  · rename_i remote reported
    split at matched
    · cases matched
    · rename_i id stripped
      split at matched
      · cases matched
      · rename_i parsed read
        obtain rfl := beq_iff_eq.mp matched
        exact ⟨id, strip_leading_some.mp stripped ▸ reported, read⟩

variable {session : Session Host} {trace : WorldTrace Host}
variable (steps : ∀ event ∈ trace, SessionStep platform session event.before event.op event.result event.after)
include steps

variable {world : World Host} {hello : HelloClaims}

-- The signatures of a hello that arrived in the session were made before.
theorem received_authentic (grown : ∀ event ∈ trace, Grows event.after world)
    (arrived : ∃ stream count payload, Answered trace (.readExact stream count) (.ok payload) ∧
      ∀ signed, Genuine platform signed payload → Authentic platform signed hello) :
    Authentic platform world.signed hello := by
  obtain ⟨stream, count, payload, ⟨before, after, read⟩, genuine⟩ := arrived
  have taken := steps _ read
  have authentic := genuine before.signed taken.assumed
  have kept : before.signed ⊆ world.signed := by
    have later := grown _ read
    rw [Grows, taken.ledger] at later
    exact Set.Subset.trans Set.subset_union_left later
  exact authentic_mono kept authentic

variable {signed : Set (PublicKey × List UInt8)}

theorem accepted_vouched {config : AuthenticatedSessionConfig}
    (accepted : HelloAccepted platform config stream hello trace)
    (authentic : Authentic platform signed hello) :
    Vouched platform session.host config stream hello trace signed := by
  obtain ⟨verified, member, key, id, boundKey, boundId, memberNetwork, boundNetwork⟩ :=
    hello_key_signed accepted.consistent
  have memberVerified : platform.verifies config.authority.authorityPublicKey
      hello.membershipCertificate.signingBytes
      hello.membershipCertificate.authoritySignature = true := by
    rw [MembershipCertificate.verify, Bool.and_eq_true] at member
    exact member.2
  have bindingVerified : platform.verifies hello.sisterPublicKey
      hello.transportBinding.signingBytes
      hello.transportBinding.signatureBySisterKey = true := by
    rw [← boundKey]
    exact accepted.bindingSigned
  obtain ⟨now, ⟨before, after, reading⟩, valid⟩ := accepted.window
  have clock : now = (before.nodes session.host).clock := (steps _ reading).node.1
  constructor
  · exact authentic.claims _ verified
  · exact authentic.binding _ bindingVerified
  · exact ⟨boundId, boundKey, boundNetwork⟩
  · exact endpoint_matches_bound accepted.endpoint
  · exact ⟨id.symm, key.symm, memberNetwork⟩
  · exact authentic.membership _ memberVerified
  · exact ⟨_, reading, clock ▸ valid⟩
  · intro directory configured
    obtain ⟨loaded, ⟨listing, listed, load⟩, clean⟩ := accepted.unrevoked directory configured
    exact ⟨_, load, loaded, reads_ok (steps _ load).node.1, is_revoked_false_sound _ _ clean⟩

omit steps

/-- One session, over whatever the rest of the world did in between. -/
theorem session_sound {opened : session.Val}
    (alone : Traces (SessionStep platform session) (session.authenticate platform) trace (.done
      opened)) (grown : ∀ event ∈ trace, Grows event.after world) :
    session.Sound platform trace world.signed opened := by
  have steps : ∀ event ∈ trace,
      SessionStep platform session event.before event.op event.result event.after :=
    fun event member => traced_event_step alone member
  cases session with
  | client host config stream expectedSisterId expectedSisterPublicKey =>
    obtain ⟨same, hello, accepted⟩ :=
      reaches_done (authenticate_client_spec platform config stream expectedSisterId
        expectedSisterPublicKey) alone
    obtain ⟨count, payload, read, decoded⟩ := accepted.received
    obtain ⟨before, after, drawn⟩ := accepted.nonceEchoed
    have authentic : Authentic platform world.signed (serverClaims hello) :=
      received_authentic steps grown
        ⟨_, count, payload, read, fun _ genuine => genuine.2 hello decoded⟩
    have unanswered : Fresh before.signed hello.clientNonce := (steps _ drawn).assumed
    exact ⟨same, hello, ⟨before, after, drawn, unanswered _ hello rfl⟩,
      fun _ bytes => server_hello_signs_nonce bytes, accepted.pinnedId, accepted.pinnedKey,
      accepted_vouched steps accepted.accepted authentic⟩
  | server host config stream =>
    obtain ⟨same, hello, accepted⟩ :=
      reaches_done (authenticate_server_spec platform config stream) alone
    obtain ⟨count, payload, read, decoded⟩ := accepted.received
    have authentic : Authentic platform world.signed (clientClaims hello) :=
      received_authentic steps grown
        ⟨_, count, payload, read, fun _ genuine => genuine.1 hello decoded⟩
    have reported : opened.2 =
        ⟨hello.sisterId, hello.sisterPublicKey, hello.membershipCertificate.serial⟩ := by
      rw [← accepted.peerId, ← accepted.peerKey, ← accepted.peerSerial]
    exact ⟨same, hello, reported, accepted_vouched steps accepted.accepted authentic⟩

/-! A client that reaches Sister 3, with the attacker's key material left open. -/

def pinnedSession (_ : Unit) : Session Unit :=
  .client () sampleSession sampleStream (some 3) (some (Bytes.fill 32 11))

def worldWith (signed : Set (PublicKey × List UInt8)) : World Unit := ⟨fun _ => sampleState, signed⟩

def greeted : Set (PublicKey × List UInt8) :=
  {(sampleSession.sisterKey, sampleClientHello.signingBytes)}

def offeredTrace : WorldTrace Unit :=
  [⟨worldWith greeted, .write sampleStream (.clientHello sampleClientHello), .ok (),
      worldWith greeted⟩,
    ⟨worldWith ∅, .sign sampleSession.sisterKey sampleClientHello.signingBytes, Bytes.fill 64 0,
      worldWith greeted⟩,
    ⟨worldWith ∅, .random32, sampleNonce, worldWith ∅⟩,
    ⟨worldWith ∅, .loadRevocations "data", .ok none, worldWith ∅⟩,
    ⟨worldWith ∅, .nowSecs, 5, worldWith ∅⟩]

abbrev thirdReply : List UInt8 := (sampleServerHello 3 (Bytes.fill 32 11)).encode

def answeredTrace : WorldTrace Unit :=
  [⟨worldWith .univ, .loadRevocations "data", .ok none, worldWith .univ⟩,
    ⟨worldWith .univ, .nowSecs, 5, worldWith .univ⟩,
    ⟨worldWith .univ, .readExact sampleStream (ofBigEndian (frameHeader thirdReply)),
      .ok thirdReply, worldWith .univ⟩,
    ⟨worldWith .univ, .readExact sampleStream 4, .ok (frameHeader thirdReply), worldWith .univ⟩]

theorem still_step {op : RuntimeOp} {result : op.Result}
    (node : NodeStep thirdPlatform sampleState op result sampleState) (silent : signs op = ∅)
    (assumed : Assumed thirdPlatform signed op result) :
    SessionStep thirdPlatform (pinnedSession ()) (worldWith signed) op result
      (worldWith signed) :=
  ⟨node, fun _ _ => rfl, by rw [silent, Set.union_empty], assumed⟩

theorem sample_session_steps : ∀ event ∈ answeredTrace ++ offeredTrace,
    SessionStep thirdPlatform (pinnedSession ()) event.before event.op event.result
      event.after := by
  have everything : ∀ hello, Authentic thirdPlatform .univ hello :=
    fun _ => ⟨fun _ _ => trivial, fun _ _ => trivial, fun _ _ => trivial⟩
  have genuine : ∀ bytes, Genuine thirdPlatform .univ bytes :=
    fun _ => ⟨fun _ _ => everything _, fun _ _ => everything _⟩
  have unused : Fresh ∅ sampleNonce := fun _ _ _ member => member
  have signing : SessionStep thirdPlatform (pinnedSession ()) (worldWith ∅)
      (.sign sampleSession.sisterKey sampleClientHello.signingBytes) (Bytes.fill 64 0)
      (worldWith greeted) :=
    ⟨rfl, fun _ _ => rfl, (Set.empty_union _).symm, trivial⟩
  simp only [answeredTrace, offeredTrace, List.cons_append, List.nil_append, List.forall_mem_cons,
    List.not_mem_nil, false_implies, implies_true, and_true]
  exact ⟨still_step ⟨Or.inr rfl, rfl⟩ rfl trivial, still_step ⟨rfl, rfl⟩ rfl trivial,
    still_step rfl rfl (genuine _), still_step rfl rfl (genuine _), still_step rfl rfl trivial,
    signing, still_step rfl rfl unused, still_step ⟨Or.inr rfl, rfl⟩ rfl trivial,
    still_step ⟨rfl, rfl⟩ rfl trivial⟩

/-- The session offers its hello, the attacker collects signatures, the session
accepts the answer. -/
theorem sample_session_run : ∃ pool,
    Run (fun i => SessionStep thirdPlatform (pinnedSession i)) Grows
      (Pool.start (worldWith ∅) fun i => (pinnedSession i).authenticate thirdPlatform) pool ∧
    pool.task () = .done sampleStream := by
  let start : Pool Unit RuntimeOp RuntimeOp.Result (fun _ => NetworkError)
      (fun i => (pinnedSession i).Val) (World Unit) :=
    Pool.start (worldWith ∅) fun i => (pinnedSession i).authenticate thirdPlatform
  have whole : Reaches (traceStep (SessionStep thirdPlatform (pinnedSession ())))
      (start.task ()) [] (.done sampleStream) (answeredTrace ++ offeredTrace ++ []) :=
    reaches_relabel (sample_handshake third_responds sampleState [] rfl rfl rfl) rfl
      sample_session_steps
  rw [List.append_nil] at whole
  obtain ⟨waiting, offers, answers⟩ := reaches_split whole List.nil_suffix
  have offering : Chained (worldWith ∅) offeredTrace (worldWith greeted) :=
    ⟨rfl, rfl, rfl, rfl, rfl, rfl⟩
  have answering : Chained (worldWith .univ) answeredTrace (worldWith .univ) :=
    ⟨rfl, rfl, rfl, rfl, rfl⟩
  let offered := start.advance () waiting offeredTrace (worldWith greeted)
  let collected : Pool Unit RuntimeOp RuntimeOp.Result (fun _ => NetworkError)
      (fun i => (pinnedSession i).Val) (World Unit) := { offered with shared := worldWith .univ }
  have toOffered : Run (fun i => SessionStep thirdPlatform (pinnedSession i)) Grows start offered :=
    schedule () offers offering rfl rfl rfl
  have collects : Grows offered.shared (worldWith .univ) := Set.subset_univ _
  have toAccepted : Run (fun i => SessionStep thirdPlatform (pinnedSession i)) Grows collected
      (collected.advance () (.done sampleStream) (answeredTrace ++ offeredTrace)
        (worldWith .univ)) :=
    schedule () answers answering rfl rfl rfl
  exact ⟨_, (toOffered.tail (.environment _ collects)).trans toAccepted, rfl⟩

/-- Whenever a session of any interleaved run accepts, the other side is who the
session says it is. -/
theorem authenticated_session_sound {Index : Type} [DecidableEq Index]
    {sessions : Index → Session Host} {world : World Host}
    {pool : Pool Index RuntimeOp RuntimeOp.Result (fun _ => NetworkError)
      (fun i => (sessions i).Val) (World Host)}
    (run : Run (fun i => SessionStep platform (sessions i)) Grows
      (Pool.start world fun i => (sessions i).authenticate platform) pool)
    {i : Index} {opened : (sessions i).Val} (accepts : pool.task i = .done opened) :
    (sessions i).Sound platform (pool.trace i) pool.shared.signed opened := by
  have alone := thread_traces run i
  rw [accepts] at alone
  exact session_sound alone fun event member => events_precede signed_ascends run member

theorem sample_session_sound : ∃ pool : Pool Unit RuntimeOp RuntimeOp.Result
      (fun _ => NetworkError) (fun i => (pinnedSession i).Val) (World Unit),
    pool.task () = .done sampleStream ∧
    (pinnedSession ()).Sound thirdPlatform (pool.trace ()) pool.shared.signed sampleStream := by
  obtain ⟨pool, run, accepts⟩ := sample_session_run
  exact ⟨pool, accepts, authenticated_session_sound run accepts⟩
end Soundness
end Misaka.SessionSoundness
