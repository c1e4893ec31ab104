import Misaka.StreamServices

/-!
Under which authorization a stream service acts. Once a transfer has been let
through, everything it does to the file system concerns the destination that its
authorization names; a tunnel connects to the socket that its authorization
names. The transfers ask for their own permission, the tunnel for whichever
stream permission the authorization happens to carry.
-/

namespace Misaka.StreamPermission
open Bincode Identity Protocol AuthorizationStores EffectTask NodeRuntime HumanAuthorization
open TransferFiles StreamServices
variable {platform : Platform} {node : NodeConfig}

/-! The verdict of the shared helper. -/
section Verdict
variable {State : Type} {step : State → (op : RuntimeOp) → op.Result → State → Prop}
variable {trace longer : List (Event RuntimeOp RuntimeOp.Result State)}

/-- Everything `authorizeStreamOperation` looked at before it let a request pass. -/
structure Cleared (platform : Platform) (node : NodeConfig) (authorization : CommandAuthorization)
    (permission : Permission) (constraints : List String) (authority : NetworkAuthority)
    (now : UInt64) (trace : List (Event RuntimeOp RuntimeOp.Result State)) : Prop
    extends Vetted platform node node.identity.id authorization authority now trace where
  permitted : authorization.permission = permission
  streaming : streamPermission permission = true
  constrained : authorization.constraints = constraints

variable {authorization : CommandAuthorization} {permission : Permission}
variable {constraints : List String}

theorem cleared_suffix {authority : NetworkAuthority} {now : UInt64} (kept : trace <:+ longer)
    (cleared : Cleared platform node authorization permission constraints authority now trace) :
    Cleared platform node authorization permission constraints authority now longer :=
  ⟨vetted_suffix kept cleared.toVetted, cleared.permitted, cleared.streaming, cleared.constrained⟩

theorem only_verify_stream_authorization {recordNonce : Bool} :
    Only VerdictOp (verifyStreamAuthorization platform node authorization permission constraints
      recordNonce) := by
  apply only_bind
  · simp [VerdictOp, JudgeOp]
  intro loaded
  apply only_bind
  · simp
  intro installed
  apply only_bind
  · simp
  intro authority
  apply only_ensure_bind
  intro _
  apply only_bind
  · simp [VerdictOp, JudgeOp]
  intro now
  apply only_ensure_bind
  intro _
  apply only_bind (only_is_revoked_in (Or.inl trivial))
  intro revoked
  apply only_ensure_bind
  intro _
  split
  · apply only_bind
    · simp [VerdictOp, RecordsNonce]
    · simp
  · simp

theorem verify_stream_authorization_spec (authorization : CommandAuthorization)
    (permission : Permission) (constraints : List String) (recordNonce : Bool) :
    Holds (traceStep step) (fun _ _ => True)
      (verifyStreamAuthorization platform node authorization permission constraints recordNonce)
      (fun longer _ =>
        (∃ authority now,
          Cleared platform node authorization permission constraints authority now longer) ∧
        (recordNonce = true → Answered longer (.recordNonce node.dataDir authorization) (.ok ())))
      (fun _ _ => True) trace := by
  simp only [verifyStreamAuthorization, holds_bind, holds_trace_perform, holds_or_error,
    holds_or_fail, holds_ensure, authorizationBoundToLocal, implies_true, and_true, true_and,
    Bool.and_eq_true, beq_iff_eq]
  rintro _ before after _ _ loaded authority installed ⟨⟨⟨permitted, streaming⟩, targeted⟩, network⟩
  subst loaded installed
  rintro now before' after' _ ⟨verified, constrained⟩
  apply holds_mono (holds_keeping_trace (is_revoked_in_spec platform _ node.dataDir authority
    authorization.networkId .human authorization.membership.serial)) _ (fun _ _ _ => trivial)
  rintro longer revoked ⟨found, kept⟩ unrevoked
  have clean : revoked = false := by simpa using unrevoked
  have cleared : Cleared platform node authorization permission constraints authority now
      longer := by
    refine ⟨⟨?_, ?_, verified, network, targeted, found clean⟩, permitted, permitted ▸ streaming,
      constrained⟩
    · exact answered_suffix kept (answered_suffix (List.suffix_cons _ _) answered_head)
    · exact answered_suffix kept answered_head
  cases recordNonce with
  | false => simpa using ⟨authority, now, cleared⟩
  | true =>
    simp only [if_true, holds_bind, holds_trace_perform, holds_or_error, implies_true, and_true,
      true_and, forall_const]
    intro answer before'' after'' _ _ recorded
    subst recorded
    exact ⟨⟨authority, now, cleared_suffix (List.suffix_cons _ _) cleared⟩, answered_head⟩
end Verdict

section Services

inductive StreamService where
  | transfer
  | transferV1
  | transferV2 (storeRoot : Option String)
  | tunnel

variable (platform : Platform)

def StreamService.receive (context : Option NodeConfig) (stream : NetworkStream) :
    StreamService → RuntimeTask IoError Unit
  | .transfer => receiveTransfer platform context stream
  | .transferV1 => receiveTransferV1 platform context stream
  | .transferV2 storeRoot => receiveTransferV2 platform storeRoot context stream
  | .tunnel => receiveTunnel platform context stream

/-- The first frame on the stream asks the service for the resource, a
destination or a remote socket, and carries the authorization. -/
def StreamService.Asks (stream : NetworkStream) (authorization : CommandAuthorization)
    (resource : String) (trace : NodeTrace) :
    StreamService → Prop
  | .transfer => ∃ request, FirstFrame platform.transferRequest stream request trace ∧
      request.authorization = some authorization ∧ request.destination = resource
  | .transferV1 => ∃ request, FirstFrame platform.transferV1Request stream request trace ∧
      request.authorization = some authorization ∧ request.destination = resource
  | .transferV2 _ => ∃ request, FirstFrame platform.transferV2Request stream request trace ∧
      request.authorization = some authorization ∧ request.destination = resource
  | .tunnel => ∃ request, FirstFrame platform.tunnelRequest stream request trace ∧
      request.authorization = some authorization ∧ request.remote = resource

-- Where the content store of a transfer is; only version 2 has one.
def StreamService.root (destination : String) : StreamService → String
  | .transferV2 storeRoot =>
    contentStoreRoot platform storeRoot (transferV2Paths destination).1
  | _ => destination

variable (platform : Platform) (node : NodeConfig) (stream : NetworkStream)

/-- What is owed before a service touches a file or opens a connection. -/
def ServiceGuard (service : StreamService) (trace : NodeTrace) : RuntimeOp → Prop
  | .file op => ∃ authorization authority now destination,
      service.Asks platform stream authorization destination trace ∧
      Cleared platform node authorization .fileSend ["destination=" ++ destination] authority now
        trace ∧
      ∀ path ∈ op.paths, TransferPath platform (service.root platform destination) destination path
  | .tcpConnect addr => ∃ authorization authority now remote,
      service.Asks platform stream authorization remote trace ∧
      Cleared platform node authorization authorization.permission ["remote=" ++ remote] authority
        now trace ∧
      platform.parseSocketAddr remote = .ok addr
  | _ => True

variable {platform node stream} {service : StreamService} {resource : String}

theorem asks_suffix {authorization : CommandAuthorization} {trace longer : NodeTrace}
    (kept : trace <:+ longer) (asks : service.Asks platform stream authorization resource trace) :
    service.Asks platform stream authorization resource longer := by
  cases service with
  | transfer | transferV1 | transferV2 _ | tunnel =>
    obtain ⟨request, first, carried, named⟩ := asks
    exact ⟨request, first_frame_suffix kept first, carried, named⟩

theorem verdict_op_meets_guard (trace : NodeTrace) (op : RuntimeOp) (deciding : VerdictOp op) :
    ServiceGuard platform node stream service trace op := by
  unfold ServiceGuard
  split
  · rcases deciding with judging | records
    · exact absurd judging id
    · exact absurd records id
  · rcases deciding with judging | records
    · exact absurd judging id
    · exact absurd records id
  · trivial

/-- What is known of a request that passed the helper. -/
structure Passed (platform : Platform) (node : NodeConfig)
    (authorization : Option CommandAuthorization) (permission : Permission)
    (constraints : List String) (recordNonce : Bool) (trace : NodeTrace) : Prop where
  unauthorized : authorization = none → node.allowUnauthenticatedOperations = true
  cleared : ∀ carried, authorization = some carried → ∃ authority now,
    Cleared platform node carried permission constraints authority now trace
  recorded : ∀ carried, authorization = some carried → recordNonce = true →
    Answered trace (.recordNonce node.dataDir carried) (.ok ())

variable {guard : NodeTrace → RuntimeOp → Prop} {trace : NodeTrace}

theorem authorize_stream_operation_spec (meets : ∀ longer op, VerdictOp op → guard longer op)
    (authorization : Option CommandAuthorization) (permission : Permission)
    (constraints : List String) (recordNonce : Bool) :
    Holds (traceStep (NodeStep platform)) guard
      (authorizeStreamOperation platform (some node) authorization permission constraints
        recordNonce)
      (fun longer _ => trace <:+ longer ∧
        Passed platform node authorization permission constraints recordNonce longer)
      (fun _ _ => True) trace := by
  cases authorization with
  | none =>
    simp only [authorizeStreamOperation, requireStreamAuthorization, holds_bind, holds_ensure,
      holds_pure, implies_true, and_true]
    intro allowed
    refine ⟨List.suffix_refl _, fun _ => by simpa using allowed, ?_, ?_⟩
    · intro carried absent
      cases absent
    · intro carried absent
      cases absent
  | some carried =>
    apply holds_mono (holds_guarded (verify_stream_authorization_spec carried permission
      constraints recordNonce) only_verify_stream_authorization
      fun _ op _ deciding => meets _ op deciding) _ (fun _ _ _ => trivial)
    rintro longer _ ⟨⟨cleared, recorded⟩, extended⟩
    refine ⟨extends_suffix extended, by simp, ?_, ?_⟩
    · rintro _ ⟨⟩
      exact cleared
    · rintro _ ⟨⟩
      exact recorded

variable {permission : Permission}

-- On a closed node nothing passes without an authorization.
theorem Passed.authorization (closed : node.allowUnauthenticatedOperations = false)
    {authorization : Option CommandAuthorization} {constraints : List String} {recordNonce : Bool}
    (passed : Passed platform node authorization permission constraints recordNonce trace) :
    ∃ carried authority now, authorization = some carried ∧
      Cleared platform node carried permission constraints authority now trace := by
  cases authorization with
  | none => cases closed.symm.trans (passed.unauthorized rfl)
  | some carried =>
    obtain ⟨authority, now, cleared⟩ := passed.cleared carried rfl
    exact ⟨carried, authority, now, rfl, cleared⟩

variable {authority : NetworkAuthority} {now : UInt64}

-- After the verdict the vocabulary of the transfer meets the guard to the end.
theorem transfer_guarded {task : RuntimeTask IoError Unit} {authorization : CommandAuthorization}
    {destination : String}
    (vocabulary : Only (TransferOp platform (service.root platform destination) destination) task)
    (asks : service.Asks platform stream authorization destination trace)
    (cleared : Cleared platform node authorization .fileSend ["destination=" ++ destination]
      authority now trace) :
    Holds (traceStep (NodeStep platform)) (ServiceGuard platform node stream service) task
      (fun _ _ => True) (fun _ _ => True) trace := by
  apply holds_mono (holds_of_only vocabulary _) (fun _ _ _ => trivial) (fun _ _ _ => trivial)
  intro longer op extended performed
  have kept := extends_suffix extended
  unfold ServiceGuard
  split
  · exact ⟨authorization, authority, now, destination, asks_suffix kept asks,
      cleared_suffix kept cleared, performed⟩
  · exact absurd performed id
  · trivial

/-- Every service starts by reading its request and passing it to the helper. -/
theorem authorized_request_guarded {Value : Type} {limit : Nat} {tooLarge : String}
    {decode : Decoder Value} {authorization : Value → Option CommandAuthorization}
    {permission : Value → Permission} {constraints : Value → List String}
    {recordNonce : Value → Bool} {rest : Value → RuntimeTask IoError Unit}
    (reads : ∀ trace count, guard trace (.readExact stream count))
    (meets : ∀ trace op, VerdictOp op → guard trace op)
    (served : ∀ trace value, FirstFrame decode stream value trace →
      Passed platform node (authorization value) (permission value) (constraints value) (recordNonce
      value) trace → Holds (traceStep (NodeStep platform)) guard (rest value) (fun _ _ => True) (fun
      _ _ => True) trace) :
    Holds (traceStep (NodeStep platform)) guard (do
      let value ← readRequest limit tooLarge decode stream
      authorizeStreamOperation platform (some node) (authorization value) (permission value)
        (constraints value) (recordNonce value)
      rest value) (fun _ _ => True) (fun _ _ => True) [] := by
  rw [holds_bind]
  apply holds_mono (holds_guard_mono (read_first_frame_spec limit (invalidData tooLarge) id
    invalidData decode stream) _) _ (fun _ _ _ => trivial)
  · rintro trace op ⟨count, rfl⟩
    exact reads trace count
  intro trace value first
  rw [holds_bind]
  apply holds_mono (authorize_stream_operation_spec meets _ _ _ _) _ (fun _ _ _ => trivial)
  rintro longer _ ⟨kept, passed⟩
  exact served longer value (first_frame_suffix kept first) passed

theorem tunnel_guarded {request : TunnelRequest} {authorization : CommandAuthorization}
    (asks : StreamService.tunnel.Asks platform stream authorization request.remote trace)
    (cleared : Cleared platform node authorization authorization.permission ["remote=" ++
      request.remote] authority now trace) :
    Holds (traceStep (NodeStep platform)) (ServiceGuard platform node stream .tunnel) (do
      let addr ← orError invalidInput (platform.parseSocketAddr request.remote)
      let connected ← perform (RuntimeOp.tcpConnect addr)
      let remote ← orError connectDeadline connected
      let copied ← perform (RuntimeOp.copyBidirectional stream remote)
      orError id copied) (fun _ _ => True) (fun _ _ => True) trace := by
  simp only [holds_bind, holds_or_error, holds_trace_perform, implies_true, and_true]
  intro addr parsed
  constructor
  · exact ⟨authorization, authority, now, request.remote, asks, cleared, parsed⟩
  · intro _ _ _ _ _ _
    trivial

/-- Every operation of a service on a closed node meets the guard. -/
theorem service_guarded (closed : node.allowUnauthenticatedOperations = false)
    (service : StreamService) :
    Holds (traceStep (NodeStep platform)) (ServiceGuard platform node stream service)
      (service.receive platform (some node) stream) (fun _ _ => True) (fun _ _ => True) [] := by
  have reads : ∀ trace count,
      ServiceGuard platform node stream service trace (.readExact stream count) :=
    fun _ _ => trivial
  cases service with
  | transfer =>
    apply authorized_request_guarded reads verdict_op_meets_guard
    intro trace request first passed
    obtain ⟨carried, authority, now, attached, cleared⟩ := passed.authorization closed
    exact transfer_guarded only_store_payload ⟨request, first, attached, rfl⟩ cleared
  | transferV1 =>
    apply authorized_request_guarded reads verdict_op_meets_guard
    intro trace request first passed
    obtain ⟨carried, authority, now, attached, cleared⟩ := passed.authorization closed
    simp only [holds_bind, holds_ensure, implies_true, and_true]
    intro _
    exact transfer_guarded (only_resume_transfer_v1 (.beside _ (by simp)) (.beside _ (by simp)))
      ⟨request, first, attached, rfl⟩ cleared
  | transferV2 storeRoot =>
    apply authorized_request_guarded reads verdict_op_meets_guard
    intro trace request first passed
    obtain ⟨carried, authority, now, attached, cleared⟩ := passed.authorization closed
    simp only [holds_bind, holds_of_except, implies_true, and_true]
    intro _ _
    exact transfer_guarded only_serve_transfer_v2 ⟨request, first, attached, rfl⟩ cleared
  | tunnel =>
    apply authorized_request_guarded reads verdict_op_meets_guard
    intro trace request first passed
    obtain ⟨carried, authority, now, attached, cleared⟩ := passed.authorization closed
    have own : request.authorization.elim .tunnelOpen (·.permission) = carried.permission := by
      rw [attached, Option.elim_some]
    rw [own] at cleared
    exact tunnel_guarded ⟨request, first, attached, rfl⟩ cleared

theorem asks_unique {authorization other : CommandAuthorization} {named : String}
    (asks : service.Asks platform stream authorization resource trace)
    (again : service.Asks platform stream other named trace) : authorization = other := by
  cases service with
  | transfer | transferV1 | transferV2 _ | tunnel =>
    obtain ⟨request, first, carried, _⟩ := asks
    obtain ⟨request', first', carried', _⟩ := again
    obtain rfl := first_frame_unique first first'
    exact Option.some.inj (carried.symm.trans carried')

theorem stream_permission_cases (streaming : streamPermission permission = true) :
    (permission = .tunnelOpen ∨ permission = .shellOpen) ↔ permission ≠ .fileSend := by
  cases permission <;> simp_all [streamPermission]
end Services

section OwnPermission
variable {stream : NetworkStream}
variable {service : StreamService} {signed : PublicKey → List UInt8 → Prop}

/-- The request on the stream carries an authorization that this node verified,
for exactly the named resource. -/
structure Authorized (platform : Platform) (node : NodeConfig)
    (signed : PublicKey → List UInt8 → Prop) (service : StreamService) (stream : NetworkStream)
    (authorization : CommandAuthorization) (label resource : String) (trace : NodeTrace) :
    Prop where
  asks : service.Asks platform stream authorization resource trace
  constrained : authorization.constraints = [label ++ resource]
  established : ∃ authority,
    Established node signed node.identity.id authorization authority trace

/-- Files change for the destination of an authorization to send files. -/
def FileOwned (platform : Platform) (node : NodeConfig) (signed : PublicKey → List UInt8 → Prop)
    (service : StreamService) (stream : NetworkStream) (op : FileOp) (trace : NodeTrace) : Prop :=
  ∃ authorization destination,
    Authorized platform node signed service stream authorization "destination=" destination trace ∧
    authorization.permission = .fileSend ∧
    ∀ path ∈ op.paths, TransferPath platform (service.root platform destination) destination path

/-- A connection is opened to the socket of an authorization for tunnels or shells. -/
def ConnectOwned (platform : Platform) (node : NodeConfig)
    (signed : PublicKey → List UInt8 → Prop) (service : StreamService) (stream : NetworkStream)
    (addr : SocketAddr) (trace : NodeTrace) : Prop :=
  ∃ authorization remote,
    Authorized platform node signed service stream authorization "remote=" remote trace ∧
    (authorization.permission = .tunnelOpen ∨ authorization.permission = .shellOpen) ∧
    platform.parseSocketAddr remote = .ok addr

/-- What the verdict on a request that spends its nonce comes down to. -/
structure Admissible (platform : Platform) (node : NodeConfig)
    (authorization : CommandAuthorization) (constraints : List String)
    (authority : NetworkAuthority) (now : UInt64)
    (revocations : Option (List RevocationRecord)) : Prop where
  verified : authorization.verify platform.verifies authority now = true
  streaming : streamPermission authorization.permission = true
  network : authorization.networkId = node.networkId
  targeted : authorization.target = some (.sister node.identity.id)
  constrained : authorization.constraints = constraints
  unrevoked : isRevoked platform.verifies authority authorization.networkId .human
    authorization.membership.serial (revocations.getD []) = .ok false

theorem authorize_stream_operation_runs {authorization : CommandAuthorization}
    {constraints : List String} {authority : NetworkAuthority} {now : UInt64}
    {revocations : Option (List RevocationRecord)}
    (admissible : Admissible platform node authorization constraints authority now revocations)
    {loading loaded reading read listing listed spending spent : NodeState}
    (load : NodeStep platform loading (.loadAuthority node.dataDir) (.ok (some authority)) loaded)
    (clock : NodeStep platform reading .nowSecs now read)
    (list : NodeStep platform listing (.loadRevocations node.dataDir) (.ok revocations) listed)
    (spend : NodeStep platform spending (.recordNonce node.dataDir authorization) (.ok ()) spent)
    (trace : NodeTrace) :
    Reaches (traceStep (NodeStep platform))
      (authorizeStreamOperation platform (some node) (some authorization) authorization.permission
        constraints true) trace (.done ())
      (⟨spending, .recordNonce node.dataDir authorization, .ok (), spent⟩ ::
        ⟨listing, .loadRevocations node.dataDir, .ok revocations, listed⟩ ::
        ⟨reading, .nowSecs, now, read⟩ ::
        ⟨loading, .loadAuthority node.dataDir, .ok (some authority), loaded⟩ :: trace) := by
  simp only [authorizeStreamOperation, requireStreamAuthorization, Option.isSome_some, Bool.true_or,
    ensure_true, done_bind, or_fail_some, verifyStreamAuthorization, isRevokedIn, bind_assoc]
  apply reaches_perform load
  simp only [or_error_ok, or_fail_some, done_bind, beq_self_eq_true, admissible.streaming,
    authorizationBoundToLocal, admissible.targeted, admissible.network, Bool.and_self, ensure_true]
  apply reaches_perform clock
  simp only [admissible.verified, admissible.constrained, beq_self_eq_true, Bool.and_self,
    ensure_true, done_bind]
  apply reaches_perform list
  simp only [or_error_ok, done_bind, ← admissible.network, admissible.unrevoked, Bool.not_false,
    ensure_true, if_true]
  apply reaches_perform spend
  exact .here _ _

variable (permission : Permission)

def sampleTunnel : TunnelRequest :=
  ⟨"127.0.0.1:22", some (sampleAuthorization permission ["remote=127.0.0.1:22"])⟩

-- Every permission is encoded in four bytes, so one of them stands for all.
theorem sample_tunnel_fits :
    (sampleTunnel permission).encode.length ≤ 64 * 1024 := by
  have same : (sampleTunnel permission).encode.length =
      (sampleTunnel .tunnelOpen).encode.length := by
    simp [sampleTunnel, sampleAuthorization, TunnelRequest.encode, option, encodeAuthorization,
      CommandAuthorization.signingBytes, Permission.encode, variant, little_endian_length]
  rw [same]
  decide +kernel

def tunnelPlatform : Platform :=
  { samplePlatform with
    tunnelRequest := recognise TunnelRequest.encode [sampleTunnel permission] }

-- What happens before the connection is opened, newest first. The nonce may be
-- recorded in another state than the one the authorization was verified in.
def tunnelTrace (stream : NetworkStream) (spending spent : NodeState) :
    NodeTrace :=
  [⟨spending, .recordNonce "data" (sampleAuthorization permission ["remote=127.0.0.1:22"]),
      .ok (), spent⟩,
    ⟨sampleState, .loadRevocations "data", .ok none, sampleState⟩,
    ⟨sampleState, .nowSecs, 5, sampleState⟩,
    ⟨sampleState, .loadAuthority "data", .ok (some sampleAuthority), sampleState⟩,
    ⟨sampleState, .readExact stream (ofBigEndian (frameHeader (sampleTunnel permission).encode)),
      .ok (sampleTunnel permission).encode, sampleState⟩,
    ⟨sampleState, .readExact stream 4, .ok (frameHeader (sampleTunnel permission).encode),
      sampleState⟩]

def tunnelConnects (state : NodeState) : Event RuntimeOp RuntimeOp.Result NodeState :=
  ⟨state, .tcpConnect ⟨"127.0.0.1:22"⟩, .ok ⟨0⟩, state⟩

def tunnelCopies (stream : NetworkStream) (state : NodeState) :
    Event RuntimeOp RuntimeOp.Result NodeState :=
  ⟨state, .copyBidirectional stream ⟨0⟩, .ok (), state⟩

theorem tunnel_run {permission : Permission} (streaming : streamPermission permission = true)
    (stream : NetworkStream) {spending spent : NodeState}
    (spend : NodeStep (tunnelPlatform permission) spending
      (.recordNonce "data" (sampleAuthorization permission ["remote=127.0.0.1:22"])) (.ok ())
      spent) :
    Traces (NodeStep (tunnelPlatform permission))
      (StreamService.tunnel.receive (tunnelPlatform permission) (some sampleNode) stream)
      (tunnelCopies stream spent :: tunnelConnects spent ::
        tunnelTrace permission stream spending spent) (.done ()) := by
  have verified : (sampleAuthorization permission ["remote=127.0.0.1:22"]).verify
      (tunnelPlatform permission).verifies sampleAuthority 5 = true := by
    cases permission <;> first | rfl | cases streaming
  have admissible : Admissible (tunnelPlatform permission) sampleNode
      (sampleAuthorization permission ["remote=127.0.0.1:22"]) ["remote=127.0.0.1:22"]
      sampleAuthority 5 none :=
    ⟨verified, streaming, rfl, rfl, rfl, rfl⟩
  have load : NodeStep (tunnelPlatform permission) sampleState (.loadAuthority "data")
      (.ok (some sampleAuthority)) sampleState := ⟨Or.inr rfl, rfl⟩
  have clock : NodeStep (tunnelPlatform permission) sampleState .nowSecs (5 : UInt64)
      sampleState := ⟨rfl, rfl⟩
  have list : NodeStep (tunnelPlatform permission) sampleState (.loadRevocations "data")
      (.ok none) sampleState := ⟨Or.inr rfl, rfl⟩
  have connects : NodeStep (tunnelPlatform permission) spent (.tcpConnect ⟨"127.0.0.1:22"⟩)
      (.ok ⟨0⟩) spent := rfl
  have copies : NodeStep (tunnelPlatform permission) spent (.copyBidirectional stream ⟨0⟩)
      (.ok ()) spent := rfl
  have small := frame_header_le (sample_tunnel_fits permission) (by decide)
  have decoded : (tunnelPlatform permission).tunnelRequest (sampleTunnel permission).encode =
      .ok (sampleTunnel permission) := recognise_first _ _ _
  apply reaches_bind (read_frame_runs sampleState [] small decoded)
  apply reaches_bind (authorize_stream_operation_runs admissible load clock list spend _)
  apply reaches_perform connects
  apply reaches_perform copies
  exact .here _ _

variable (permission : Permission)

theorem tunnel_asks (stream : NetworkStream) (spending spent : NodeState) :
    StreamService.tunnel.Asks (tunnelPlatform permission) stream
      (sampleAuthorization permission ["remote=127.0.0.1:22"]) "127.0.0.1:22"
      (tunnelTrace permission stream spending spent) :=
  ⟨sampleTunnel permission, ⟨(tunnelTrace permission stream spending spent).take 4, _, _, _, _, _,
    _, rfl, recognise_first _ _ _⟩, rfl, rfl⟩

-- The nonce file of the sample node has no entry yet.
theorem sample_spend :
    NodeStep (tunnelPlatform permission) sampleState
      (.recordNonce "data" (sampleAuthorization permission ["remote=127.0.0.1:22"])) (.ok ())
      (sampleSpent (sampleAuthorization permission ["remote=127.0.0.1:22"])) :=
  ⟨_, .written rfl, rfl⟩

abbrev sampleTunnelTrace : NodeTrace :=
  tunnelTrace permission ⟨0, none⟩ sampleState
    (sampleSpent (sampleAuthorization permission ["remote=127.0.0.1:22"]))

/-- In every run of a stream service on a closed node, files are touched only
under an authorization to send files to that destination. A connection is opened
only under an authorization for that socket, which is one for tunnels or shells
exactly when the request did not bring an authorization to send files. -/
theorem service_permission_iff (unforgeable : Unforgeable platform.verifies signed)
    (closed : node.allowUnauthenticatedOperations = false)
    {trace later earlier : NodeTrace} {event : Event RuntimeOp RuntimeOp.Result NodeState}
    {final : RuntimeTask IoError Unit}
    (run : Traces (NodeStep platform) (service.receive platform (some node) stream) trace final)
    (reached : trace = later ++ event :: earlier) :
    (∀ op, event.op = .file op → FileOwned platform node signed service stream op earlier) ∧
    (∀ addr, event.op = .tcpConnect addr → ∃ authorization remote,
      Authorized platform node signed service stream authorization "remote=" remote earlier ∧
      platform.parseSocketAddr remote = .ok addr ∧
      (ConnectOwned platform node signed service stream addr earlier ↔
        authorization.permission ≠ .fileSend)) := by
  have owed := (traced_event_guarded (service_guarded closed service) run reached).1
  have steps : ∀ other ∈ earlier,
      NodeStep platform other.before other.op other.result other.after := by
    intro other present
    exact traced_event_step run (by simp [reached, present])
  constructor
  · intro op touches
    rw [touches] at owed
    obtain ⟨authorization, authority, now, destination, asks, cleared, inside⟩ := owed
    have established := vetted_established unforgeable steps cleared.toVetted
    exact ⟨authorization, destination, ⟨asks, cleared.constrained, authority, established⟩,
      cleared.permitted, inside⟩
  · intro addr connects
    rw [connects] at owed
    obtain ⟨authorization, authority, now, remote, asks, cleared, parsed⟩ := owed
    have authorized : Authorized platform node signed service stream authorization "remote="
        remote earlier :=
      ⟨asks, cleared.constrained, authority,
        vetted_established unforgeable steps cleared.toVetted⟩
    refine ⟨authorization, remote, authorized, parsed, ?_⟩
    rw [← stream_permission_cases cleared.streaming]
    constructor
    · rintro ⟨other, _, found, owned, _⟩
      exact asks_unique found.asks asks ▸ owned
    · intro owned
      exact ⟨authorization, remote, authorized, owned, parsed⟩

theorem sample_tunnel_permission :
    ∃ authorization remote,
      Authorized (tunnelPlatform .tunnelOpen) sampleNode (fun _ _ => True) .tunnel ⟨0, none⟩
        authorization "remote=" remote (sampleTunnelTrace .tunnelOpen) ∧
      (tunnelPlatform .tunnelOpen).parseSocketAddr remote = .ok ⟨"127.0.0.1:22"⟩ ∧
      (ConnectOwned (tunnelPlatform .tunnelOpen) sampleNode (fun _ _ => True) .tunnel ⟨0, none⟩
        ⟨"127.0.0.1:22"⟩ (sampleTunnelTrace .tunnelOpen) ↔
        authorization.permission ≠ .fileSend) := by
  have run := tunnel_run rfl ⟨0, none⟩ (sample_spend .tunnelOpen)
  exact (service_permission_iff (fun _ _ _ _ => trivial) rfl run
    (List.singleton_append (x := tunnelCopies _ _)).symm).2 _ rfl

/-- An authorization to send files, constrained to a socket, opens a tunnel. -/
theorem sample_tunnel_under_file_permission :
    ∃ later event, Traces (NodeStep (tunnelPlatform .fileSend))
      (StreamService.tunnel.receive (tunnelPlatform .fileSend) (some sampleNode) ⟨0, none⟩)
      (later ++ event :: sampleTunnelTrace .fileSend) (.done ()) ∧
    event.op = .tcpConnect ⟨"127.0.0.1:22"⟩ ∧
    ∀ signed, ¬ ConnectOwned (tunnelPlatform .fileSend) sampleNode signed .tunnel ⟨0, none⟩
      ⟨"127.0.0.1:22"⟩ (sampleTunnelTrace .fileSend) := by
  refine ⟨[tunnelCopies _ _], tunnelConnects _, tunnel_run rfl _ (sample_spend .fileSend), rfl, ?_⟩
  rintro signed ⟨authorization, remote, authorized, owned, _⟩
  obtain rfl := asks_unique authorized.asks (tunnel_asks .fileSend _ _ _)
  rcases owned with opens | opens
  · cases opens
  · cases opens
end OwnPermission
end Misaka.StreamPermission
