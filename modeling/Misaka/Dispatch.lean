import Misaka.ControlChannel
import Misaka.HumanAuthorization

/-!
The inbound message handler. An envelope is dispatched for the Sister that the
stream authenticated as, or for nobody on the legacy TCP control plane, after
its Network and its sender have been checked. A Job is judged before it is
queued or handed on; peer rows and peer records are only taken from the Sister
that speaks and from records that prove themselves.
-/

namespace Misaka.Dispatch
open Bincode Identity Protocol PeerKnowledge JobManager AuthorizationStores EffectTask NodeRuntime
open AuthenticatedSession ControlChannel HumanAuthorization

section Code
variable (platform : Platform) (node : NodeConfig)

def upsertPeer (state : PeerState) : RuntimeTask MisakaError Unit :=
  if state.networkId ≠ node.networkId then pure () else perform (RuntimeOp.peerUpsert state)

def helloRow (identity : SisterIdentity) (network : NetworkId) (listenAddr : String)
    (streamAddr : Option String) (streamCertificate : Option (List UInt8)) : PeerState where
  networkId := network
  id := identity.id
  nickname := identity.nickname
  hostname := identity.hostname
  platform := identity.platform
  version := identity.version
  streamEndpoints := streamAddr.toList
  streamCertificate := streamCertificate
  addr := listenAddr
  cpuUsage := 0
  memoryTotal := 0
  memoryUsed := 0
  runningJobs := 0
  queuedJobs := 0
  uptimeSecs := 0
  capabilities := []

def rememberPeer (hello : HelloData) : RuntimeTask MisakaError Unit :=
  if hello.networkId ≠ node.networkId then pure ()
  else upsertPeer node (helloRow hello.identity hello.networkId hello.listenAddr hello.streamAddr
    hello.streamCertificate)

-- The advertised endpoint is the one the record's own binding signs.
def recordEndpointMatches (record : PeerRecord) : Bool :=
  match parseEndpoint platform record.endpointAddr with
  | .ok (.iroh addr) => addr.id == record.transportBinding.irohEndpointId
  | _ => false

def rememberPeerRecord (record : PeerRecord) : RuntimeTask MisakaError Unit :=
  if record.networkId ≠ node.networkId || !record.verify platform.verifies then pure ()
  else if !recordEndpointMatches platform record then pure ()
  else do
    let _ ← perform (RuntimeOp.recordUpsert node.networkId record)

def requireSideEffectAuthorization (authorization : Option CommandAuthorization)
    (allowUnauthenticatedOperations : Bool) : RuntimeTask MisakaError Unit :=
  ensure (authorization.isSome || allowUnauthenticatedOperations)
    (.protocol "side-effecting operation requires Human Authorization")

def senderMatchesPeer (peer : Option AuthenticatedPeer) (claimed : SisterId) : Bool :=
  peer.all (·.sisterId == claimed)

def jobForwardEnvelope (network : NetworkId) (sender executor : SisterId) (data : List UInt8) :
    Envelope := Envelope.new network .job sender executor data

def foreignNetwork (subject : String) (found : NetworkId) : MisakaError :=
  .protocol (subject ++ " belongs to network " ++ found.display ++ " instead of " ++
    node.networkId.display)

def ownHello : HelloData where
  networkId := node.networkId
  identity := node.identity
  listenAddr := node.listenAddr
  streamAddr := node.streamEndpoint
  streamCertificate := node.streamCertificate

def dispatchHello (envelope : Envelope) (peer : Option AuthenticatedPeer) :
    RuntimeTask MisakaError (Option Envelope) := do
  let hello ← orError .serde (platform.helloData envelope.data)
  ensure (hello.networkId == node.networkId) (foreignNetwork node "peer" hello.networkId)
  ensure (senderMatchesPeer peer hello.identity.id)
    (.protocol "Hello identity does not match the authenticated peer")
  rememberPeer node hello
  perform (RuntimeOp.spawnPeerRecords envelope.sender)
  pure (some (Envelope.new node.networkId .hello node.identity.id envelope.sender
    (ownHello node).encode))

def stateRow (state : StateData) : PeerState where
  networkId := state.networkId
  id := state.identity.id
  nickname := state.identity.nickname
  hostname := state.identity.hostname
  platform := state.identity.platform
  version := state.identity.version
  streamEndpoints := state.streamAddr.toList
  streamCertificate := state.streamCertificate
  addr := state.listenAddr
  cpuUsage := state.cpuUsage
  memoryTotal := state.memoryTotal
  memoryUsed := state.memoryUsed
  runningJobs := state.runningJobs
  queuedJobs := state.queuedJobs
  uptimeSecs := state.uptimeSecs
  capabilities := state.capabilities

def dispatchState (envelope : Envelope) (peer : Option AuthenticatedPeer) :
    RuntimeTask MisakaError (Option Envelope) := do
  let state ← orError .serde (platform.stateData envelope.data)
  if state.networkId ≠ node.networkId then pure none
  else do
    ensure (senderMatchesPeer peer state.identity.id)
      (.protocol "State identity does not match the authenticated peer")
    upsertPeer node (stateRow state)
    pure none

-- Forward only when a specific other executor is named and it is known.
def willForward (job : JobData) : RuntimeTask MisakaError Bool :=
  if job.executor ≠ 0 && job.executor ≠ node.identity.id then do
    let row : Option PeerState ← perform (RuntimeOp.peerGet job.executor)
    pure row.isSome
  else pure false

def expectedTarget (job : JobData) (forward : Bool) : SisterId :=
  if forward then job.executor else node.identity.id

def constraintsOk (authorization : CommandAuthorization) (command : String) : Bool :=
  authorization.constraints.all fun constraint =>
    (stripLeading "command=" constraint).any (· == command)

def authorizeJob (job : JobData) (forward : Bool) (authorization : CommandAuthorization) :
    RuntimeTask MisakaError Unit := do
  let invalid := MisakaError.protocol "human job authorization is invalid for this Sister"
  let loaded ← perform (RuntimeOp.loadAuthority node.dataDir)
  let loaded ← orError (fun error => .protocol (authorityErrorDisplay error)) loaded
  let authority ← orFail loaded
    (.protocol "human-authorized job requires a local Network authority descriptor")
  ensure (authorization.permission == .jobSubmit && authorization.networkId == node.networkId)
    invalid
  let now ← perform RuntimeOp.nowSecs
  ensure (authorization.verify platform.verifies authority now &&
    authorization.target == some (.sister (expectedTarget node job forward)) &&
    constraintsOk authorization job.fullCommand) invalid
  let revoked ← isRevokedIn platform (fun error => .protocol error.display) node.dataDir authority
    authorization.networkId .human authorization.membership.serial
  ensure (!revoked) (.protocol "human job authorization membership has been revoked")
  -- Only the Sister that executes spends the nonce.
  if forward then pure ()
  else do
    let recorded ← perform (RuntimeOp.recordNonce node.dataDir authorization)
    orError (fun error => .protocol error.display) recorded

def localJob (job : JobData) : LocalJob :=
  { LocalJob.new job.id job.fullCommand with
    creator := job.creator
    creatorAddr := some job.creatorAddr
    authorization := job.authorization }

def judgeJob (job : JobData) (forward : Bool) : RuntimeTask MisakaError Unit :=
  match job.authorization with
  | some authorization => authorizeJob platform node job forward authorization
  | none => pure ()

variable (envelope : Envelope)

def placeJob (job : JobData) (forward : Bool) :
    RuntimeTask MisakaError Unit :=
  if forward then
    sendFireToPeer platform node job.executor
      (jobForwardEnvelope node.networkId node.identity.id job.executor envelope.data)
  else perform (RuntimeOp.enqueue (localJob job))

def dispatchJob : RuntimeTask MisakaError (Option Envelope) := do
  let job ← orError .serde (platform.jobData envelope.data)
  let forward ← willForward node job
  requireSideEffectAuthorization job.authorization node.allowUnauthenticatedOperations
  judgeJob platform node job forward
  placeJob platform node envelope job forward
  pure none

def dispatchJobResponse : RuntimeTask MisakaError (Option Envelope) := do
  let result ← orError .serde (platform.jobResultData envelope.data)
  if result.creator ≠ node.identity.id then pure none
  else do
    match ← perform (RuntimeOp.resolvePending result.jobId) with
    | some waiter => do
        perform (RuntimeOp.sendResult waiter result)
        pure none
    | none => pure none

def stolenJob (job : LocalJob) (requester : SisterId) (now : UInt64) : JobData where
  id := job.id
  creator := job.creator
  executor := requester
  creatorAddr := job.creatorAddr.getD node.listenAddr
  command := job.command
  arguments := []
  createdAt := now
  authorization := job.authorization

def transferJob (job : LocalJob) (requester : SisterId) : RuntimeTask MisakaError Unit := do
  let now ← perform RuntimeOp.nowSecs
  let envelope := Envelope.new node.networkId .job node.identity.id requester
    (stolenJob node job requester now).encode
  match ← attempt (sendFireToPeer platform node requester envelope) with
  | .ok _ => perform (RuntimeOp.markTransferred job.id)
  | .error _ => perform (RuntimeOp.pushBack job)

def answerJobRequest (known : Bool) (requester : SisterId) :
    Option LocalJob → RuntimeTask MisakaError Unit
  | some job =>
    if known then transferJob platform node job requester else perform (RuntimeOp.pushBack job)
  | none =>
    if known then do
      let _ ← (attempt (sendFireToPeer platform node requester
        (Envelope.new node.networkId .ack node.identity.id requester [])) :
        RuntimeTask MisakaError (Except MisakaError Unit))
    else pure ()

variable (envelope : Envelope)

def dispatchJobRequest : RuntimeTask MisakaError (Option Envelope) := do
  let row : Option PeerState ← perform (RuntimeOp.peerGet envelope.sender)
  let popped : Option LocalJob ← perform
    (RuntimeOp.popTransferable envelope.sender node.allowUnauthenticatedOperations)
  answerJobRequest platform node row.isSome envelope.sender popped
  pure none

def dispatchPeerRecords : RuntimeTask MisakaError (Option Envelope) := do
  let data ← orError .serde (platform.peerRecordsData envelope.data)
  if data.networkId ≠ node.networkId then pure none
  else do
    forEach data.records (rememberPeerRecord platform node)
    pure none

variable (peer : Option AuthenticatedPeer)

def dispatchMessage :
    RuntimeTask MisakaError (Option Envelope) :=
  match envelope.msgType with
  | .ping => pure (some (Envelope.new node.networkId .pong node.identity.id envelope.sender []))
  | .hello => dispatchHello platform node envelope peer
  | .state => dispatchState platform node envelope peer
  | .job => dispatchJob platform node envelope
  | .jobResponse => dispatchJobResponse platform node envelope
  | .jobRequest => dispatchJobRequest platform node envelope
  | .peerRecords => dispatchPeerRecords platform node envelope
  | _ => pure none

def dispatchEnvelope :
    RuntimeTask MisakaError (Option Envelope) := do
  ensure (envelope.networkId == node.networkId)
    (foreignNetwork node "envelope" envelope.networkId)
  ensure (senderMatchesPeer peer envelope.sender)
    (.protocol "envelope sender does not match the authenticated peer")
  dispatchMessage platform node envelope peer
end Code

/-! Two vocabularies cover every arm: the arms that keep books about peers and
results, with what each of their operations is tied to, and the two job arms,
which never touch those books. -/
section Vocabulary
variable (platform : Platform) (node : NodeConfig)

-- The envelope's payload names the job and this Sister as the job's creator.
def OwnResult (envelope : Envelope) (result : JobResultData) : Prop :=
  platform.jobResultData envelope.data = .ok result ∧ result.creator = node.identity.id

def BookOp (envelope : Envelope) (peer : Option AuthenticatedPeer) : RuntimeOp → Prop
  | .peerUpsert state => state.networkId = node.networkId ∧ ∀ speaker ∈ peer,
      state.id = speaker.sisterId
  | .recordUpsert network record => network = node.networkId ∧
      record.networkId = node.networkId ∧ record.verify platform.verifies = true ∧
      recordEndpointMatches platform record = true
  | .resolvePending id => ∃ result, OwnResult platform node envelope result ∧ result.jobId = id
  | .sendResult _ result => OwnResult platform node envelope result
  | .spawnPeerRecords _ => True
  | _ => False

def JobOp : RuntimeOp → Prop
  | .peerUpsert _ | .recordUpsert _ _ | .resolvePending _ | .sendResult _ _ => False
  | .spawnPeerRecords _ => False
  | _ => True

-- A request for work neither accepts work nor spends an authorization.
def StealOp : RuntimeOp → Prop
  | .enqueue _ | .recordNonce _ _ => False
  | op => JobOp op

variable {platform node} {peer : Option AuthenticatedPeer}

theorem sender_matches_all {claimed : SisterId} (matched : senderMatchesPeer peer claimed = true) :
    ∀ speaker ∈ peer,
      claimed = speaker.sisterId := by
  intro speaker speaks
  rw [senderMatchesPeer, Option.all_eq_true] at matched
  exact (beq_iff_eq.mp (matched speaker speaks)).symm

theorem only_upsert_peer {envelope : Envelope} {state : PeerState}
    (own : ∀ speaker ∈ peer, state.id = speaker.sisterId) :
    Only (BookOp platform node envelope peer) (upsertPeer node state) := by
  unfold upsertPeer
  split
  · simp
  · rename_i same
    exact (only_perform _).mpr ⟨Decidable.not_not.mp same, own⟩

variable (envelope : Envelope) (peer : Option AuthenticatedPeer)

theorem only_dispatch_hello :
    Only (BookOp platform node envelope peer) (dispatchHello platform node envelope peer) := by
  apply only_or_error_bind
  intro hello _
  apply only_ensure_bind
  intro _
  apply only_ensure_bind
  intro matched
  refine only_bind ?_ fun _ => only_perform_bind trivial fun _ => by simp
  unfold rememberPeer
  split
  · simp
  · exact only_upsert_peer (sender_matches_all matched)

theorem only_dispatch_state :
    Only (BookOp platform node envelope peer) (dispatchState platform node envelope peer) := by
  apply only_or_error_bind
  intro state _
  split
  · simp
  · apply only_ensure_bind
    intro matched
    exact only_bind (only_upsert_peer (sender_matches_all matched)) fun _ => by simp

theorem only_dispatch_job_response :
    Only (BookOp platform node envelope peer) (dispatchJobResponse platform node envelope) := by
  apply only_or_error_bind
  intro result decoded
  split
  · simp
  · rename_i own
    have named : OwnResult platform node envelope result := ⟨decoded, not_not.mp own⟩
    refine only_bind ((only_perform _).mpr ⟨result, named, rfl⟩) fun waiter => ?_
    cases waiter with
    | none => simp
    | some waiter => exact only_perform_bind named fun _ => by simp

theorem only_remember_peer_record (record : PeerRecord) :
    Only (BookOp platform node envelope peer) (rememberPeerRecord platform node record) := by
  unfold rememberPeerRecord
  split
  · simp
  · rename_i usable
    split
    · simp
    · rename_i bound
      simp only [ne_eq, decide_not, Bool.or_eq_true, Bool.not_eq_true', decide_eq_false_iff_not,
        not_or, Decidable.not_not, Bool.not_eq_false] at usable bound
      exact only_bind ((only_perform _).mpr ⟨rfl, usable.1, usable.2, bound⟩) fun _ => by simp

theorem only_dispatch_peer_records :
    Only (BookOp platform node envelope peer) (dispatchPeerRecords platform node envelope) := by
  refine only_bind (by simp) fun data => ?_
  split
  · simp
  · exact only_bind (only_for_each fun record _ => only_remember_peer_record envelope peer record)
      fun _ => by simp

theorem steal_op_is_job_op (op : RuntimeOp) (steals : StealOp op) : JobOp op := by
  unfold StealOp at steals
  split at steals
  · exact absurd steals id
  · exact absurd steals id
  · exact steals

theorem verdict_op_is_job_op (op : RuntimeOp) (deciding : VerdictOp op) : JobOp op := by
  unfold JobOp
  split
  all_goals first | trivial | exact deciding.elim id id

theorem only_send_fire_steal_op (peer : SisterId) (envelope : Envelope) :
    Only StealOp (sendFireToPeer platform node peer envelope) := by
  apply only_mono (only_send_fire_to_peer peer envelope)
  intro op sends
  unfold StealOp JobOp
  split <;> try trivial
  split <;> trivial

variable (job : JobData)

theorem only_authorize_job (forward : Bool) (authorization : CommandAuthorization) :
    Only VerdictOp (authorizeJob platform node job forward authorization) := by
  refine only_perform_bind (Or.inl trivial) fun _ => ?_
  refine only_bind (by simp) fun _ => ?_
  refine only_bind (by simp) fun _ => ?_
  refine only_bind (by simp) fun _ => ?_
  refine only_perform_bind (Or.inl trivial) fun _ => ?_
  refine only_bind (by simp) fun _ => ?_
  refine only_bind (only_is_revoked_in (Or.inl trivial)) fun _ => ?_
  refine only_bind (by simp) fun _ => ?_
  cases forward with
  | true => simp
  | false => exact only_perform_bind (Or.inr trivial) fun _ => by simp

theorem only_judge_job (forward : Bool) :
    Only VerdictOp (judgeJob platform node job forward) := by
  unfold judgeJob
  cases job.authorization with
  | none => simp
  | some authorization => exact only_authorize_job job forward authorization

theorem only_will_forward : Only VerdictOp (willForward node job) := by
  unfold willForward
  split
  · exact only_perform_bind (Or.inl trivial) fun _ => by simp
  · simp

theorem only_dispatch_job (envelope : Envelope) :
    Only JobOp (dispatchJob platform node envelope) := by
  refine only_bind (by simp) fun job => ?_
  refine only_bind (only_mono (only_will_forward job) verdict_op_is_job_op) fun forward => ?_
  refine only_bind (by simp [requireSideEffectAuthorization]) fun _ => ?_
  refine only_bind (only_mono (only_judge_job job forward) verdict_op_is_job_op) fun _ => ?_
  refine only_bind ?_ fun _ => by simp
  cases forward with
  | true => exact only_mono (only_send_fire_steal_op _ _) steal_op_is_job_op
  | false => exact (only_perform _).mpr trivial

theorem only_transfer_job (job : LocalJob) (requester : SisterId) :
    Only StealOp (transferJob platform node job requester) := by
  refine only_perform_bind trivial fun now => ?_
  refine only_bind (only_attempt (only_send_fire_steal_op _ _)) fun sent => ?_
  cases sent <;> exact (only_perform _).mpr trivial

theorem only_dispatch_job_request (envelope : Envelope) :
    Only StealOp (dispatchJobRequest platform node envelope) := by
  refine only_perform_bind trivial fun row => ?_
  refine only_perform_bind trivial fun popped => ?_
  refine only_bind ?_ fun _ => by simp
  cases popped with
  | some job =>
    rw [answerJobRequest]
    split
    · exact only_transfer_job job envelope.sender
    · exact (only_perform _).mpr trivial
  | none =>
    rw [answerJobRequest]
    split
    · exact only_bind (only_attempt (only_send_fire_steal_op _ _)) fun _ => by simp
    · simp
end Vocabulary
end Misaka.Dispatch
