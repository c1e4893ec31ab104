import Misaka.JobServices

/-!
What each service holds at each of its operations. A task knows its own role and
which envelopes have gone out; nothing the others do takes either away. From that
follows what every operation presupposes: a job is put back or marked by the task
that popped it, and marked as transferred only after its envelope was written; a
waiter is given a result by the task that took it out of the map.
-/

namespace Misaka.ServiceRoles
open Bincode Identity Protocol PeerKnowledge JobManager EffectTask NodeRuntime
open AuthenticatedSession ControlChannel HumanAuthorization Dispatch RelyGuarantee JobServices
variable {platform : Platform} {Index : Type} {services : Index → Service} {thread : Index}
variable {role : TaskRole} {sent : List Envelope} {Err Val New : Type}
variable {failed : Board Index → Err → Prop}
variable {node : NodeConfig}

/-! What each operation of a service presupposes. -/
section Legality
variable (node : NodeConfig)

-- An authorized job in the queue is authorized for this Sister.
def Placed (job : LocalJob) : Prop :=
  ∀ authorization ∈ job.authorization, authorization.target = some (.sister node.identity.id)

def Legal (service : Service) (sent : List Envelope) (role : TaskRole) : ServiceOp → Prop
  | .runtime (.enqueue job) => (role = .free ∨ role = .named job.id) ∧ job.status = .queued ∧
      Placed node job
  | .runtime (.popTransferable requester allowed) => role = .free ∧
      service.requester = some requester ∧ allowed = node.allowUnauthenticatedOperations
  | .runtime (.pushBack job) => role = .offering job
  | .runtime (.markTransferred id) => ∃ job requester now, role = .offering job ∧ job.id = id ∧
      stolenEnvelope node job requester now ∈ sent
  | .runtime (.resolvePending _) => role = .free
  | .runtime (.sendResult waiter result) => role = .carrying result.jobId waiter ∧
      result.creator = node.identity.id
  | .runtime _ => ∀ id waiter, role ≠ .carrying id waiter
  | .newJobId | .spawnResponseListener => role = .free
  | .pop => role = .free ∧ service.requester = none
  | .markRunning id _ => ∃ job, role = .taken job ∧ job.id = id
  | .executeBlocking command => ∃ job, role = .started job ∧ job.command = command
  | .markFinished id _ => ∃ job, role = .ran job ∧ job.id = id
  | .startInline job _ => role = .named job.id
  | .reservePending id => role = .named id
  | .cancelPending id => ∃ waiter, role = .submitting id waiter
  | .awaitResult waiter => ∃ id, role = .submitting id waiter

def QuietOp : RuntimeOp → Prop
  | .enqueue _ | .popTransferable _ _ | .pushBack _ | .markTransferred _ | .resolvePending _
  | .sendResult _ _ => False
  | _ => True

variable {node} {op : RuntimeOp} {service : Service}

theorem quiet_legal (quiet : QuietOp op) (empty : ∀ id waiter, role ≠ .carrying id waiter) :
    Legal node service sent role (.runtime op) := by
  cases op <;> first | exact empty | exact quiet.elim

theorem quiet_jobs {before after : NodeState} {result : op.Result} (quiet : QuietOp op)
    (taken : NodeStep platform before op result after) :
    after.jobs = before.jobs := by
  rcases node_step_cases taken with rfl | ⟨_, _, _, _, rfl⟩ | ⟨_, _, _, rfl⟩ |
    ⟨_, _, _, _, _, _, rfl⟩ | ⟨_, changed, -⟩
  · rfl
  · rfl
  · rfl
  · rfl
  · cases op <;> first | exact changed.elim | exact quiet.elim

theorem quiet_role (quiet : QuietOp op) (result : op.Result) (role : TaskRole) :
    nextRole (.runtime op) result role = role := by
  cases op <;> first | rfl | exact quiet.elim

-- Only a task about to send a result has a waiter in its hands.
theorem legal_carrying {id : String} {waiter : Waiter} {op : ServiceOp}
    (legal : Legal node service sent (.carrying id waiter) op) :
    ∃ result, op = .runtime (.sendResult waiter result) := by
  cases op with
  | runtime op =>
    cases op with
    | sendResult channel result =>
      cases legal.1
      exact ⟨result, rfl⟩
    | enqueue job => rcases legal.1 with impossible | impossible <;> cases impossible
    | popTransferable requester allowed => cases legal.1
    | pushBack job => cases legal
    | markTransferred id =>
      obtain ⟨job, requester, now, impossible, -⟩ := legal
      cases impossible
    | resolvePending id => cases legal
    | _ => exact absurd rfl (legal id waiter)
  | newJobId | spawnResponseListener | startInline _ _ | reservePending _ => cases legal
  | pop => cases legal.1
  | markRunning _ _ | executeBlocking _ | markFinished _ _ =>
    obtain ⟨job, impossible, -⟩ := legal
    cases impossible
  | cancelPending _ | awaitResult _ =>
    obtain ⟨other, impossible⟩ := legal
    cases impossible
end Legality

/-! Every service keeps to that, whatever the others do. -/
section Security
variable {Other : Type}

def terms (node : NodeConfig) (services : Index → Service) (thread : Index) :
    Terms ServiceOp Unit (Board Index) where
  rely _ _ before after := after.role thread = before.role thread ∧
    ∀ envelope ∈ before.sent, envelope ∈ after.sent
  guarantee _ _ := True
  guard op _ board := Legal node (services thread) board.sent (board.role thread) op

-- What a task knows: its role, and envelopes that have been sent.
def At (thread : Index) (role : TaskRole) (sent : List Envelope) (board : Board Index) : Prop :=
  board.role thread = role ∧ ∀ envelope ∈ sent, envelope ∈ board.sent

theorem at_stable {before after : Board Index} (here : At thread role sent before)
    (relied : after.role thread = before.role thread ∧
      ∀ envelope ∈ before.sent, envelope ∈ after.sent) : At thread role sent after :=
  ⟨relied.1.trans here.1, fun envelope member => relied.2 envelope (here.2 envelope member)⟩

variable [DecidableEq Index]

abbrev Performs (platform : Platform) (node : NodeConfig) (services : Index → Service)
    (thread : Index) (task : ServiceTask Err Val) (pre : Board Index → Prop)
    (post : Board Index → Val → Prop) (failed : Board Index → Err → Prop) : Prop :=
  Secure (machine platform Index) thread (terms node services thread) task pre post failed

-- The same for a task of the runtime's own vocabulary.
abbrev Serves (platform : Platform) (node : NodeConfig) (services : Index → Service)
    (thread : Index) (task : RuntimeTask Err Val) (pre : Board Index → Prop)
    (post : Board Index → Val → Prop) (failed : Board Index → Err → Prop) : Prop :=
  Secure ((machine platform Index).through ServiceOp.runtime runtimeResult) thread
    ((terms node services thread).through ServiceOp.runtime) task pre post failed

/-- From the given role the task ends up free, however it ends. -/
abbrev Frees (platform : Platform) (node : NodeConfig) (services : Index → Service)
    (thread : Index) (task : RuntimeTask Err Val) (role : TaskRole) : Prop :=
  Serves platform node services thread task (At thread role [])
    (fun board _ => At thread .free [] board) (fun board _ => At thread .free [] board)

abbrev Finishes (platform : Platform) (node : NodeConfig) (services : Index → Service)
    (thread : Index) (task : ServiceTask Err Val) (role : TaskRole) : Prop :=
  Performs platform node services thread task (At thread role [])
    (fun board _ => At thread .free [] board) (fun board _ => At thread .free [] board)

variable {op : ServiceOp}

theorem at_record {result : op.Result} {board : Board Index} {state : NodeState}
    (here : At thread role sent board) :
    At thread (nextRole op result role) (written op result ++ sent)
      (board.record thread op result state) := by
  refine ⟨?_, fun envelope member => ?_⟩
  · simp [Board.record, here.1]
  · rcases List.mem_append.mp member with now | earlier
    · exact List.mem_append_left _ now
    · exact List.mem_append_right _ (here.2 envelope earlier)

theorem performs_op (legal : ∀ board : Board Index, At thread role sent board →
      Legal node (services thread) board.sent role op) :
    Performs platform node services thread (perform op) (At thread role sent)
      (fun board result => At thread (nextRole op result role) (written op result ++ sent) board)
      failed := by
  refine secure_perform (fun _ => At thread role sent) (fun _ here => here) ⟨?_, ?_, ?_, ?_⟩ ?_
  · intro work before after here relied
    exact at_stable here relied
  · rintro work before left after here ⟨result, state, impossible, -⟩
    cases impossible
  · intro _ _ _ _ _ _
    trivial
  · intro work board here
    have fits := legal board here
    rw [← here.1] at fits
    exact fits
  · rintro work before result after here ⟨answer, state, same, -, -, rfl⟩
    cases same
    exact at_record here

theorem serves_op {op : RuntimeOp}
    (legal : ∀ board : Board Index, At thread role sent board →
      Legal node (services thread) board.sent role (.runtime op)) :
    Serves platform node services thread (perform op) (At thread role sent)
      (fun board result => At thread (nextRole (.runtime op) result role)
        (written (.runtime op) result ++ sent) board) failed := by
  refine secure_perform (fun _ => At thread role sent) (fun _ here => here) ⟨?_, ?_, ?_, ?_⟩ ?_
  · intro work before after here relied
    exact at_stable here relied
  · rintro work before left after here ⟨outcome, same, result, state, rfl, -⟩
    cases same
  · intro _ _ _ _ _ _
    trivial
  · intro work board here
    have fits := legal board here
    rw [← here.1] at fits
    exact fits
  · rintro work before result after here ⟨outcome, same, answer, state, rfl, -, -, rfl⟩
    cases same
    exact at_record here

/-- What only looks and sends changes nothing for the task itself. -/
theorem serves_quiet {task : RuntimeTask Err Val} (quiet : Only QuietOp task)
    (empty : ∀ id waiter, role ≠ .carrying id waiter) :
    Serves platform node services thread task (At thread role sent)
      (fun board _ => At thread role sent board) (fun board _ => At thread role sent board) := by
  apply secure_only quiet
  · intro op calm
    refine ⟨?_, ?_, ?_, ?_⟩
    · intro work before after here relied
      exact at_stable here relied
    · rintro work before left after here ⟨outcome, same, result, state, rfl, -⟩
      cases same
    · intro _ _ _ _ _ _
      trivial
    · intro work board here
      exact quiet_legal calm (here.1 ▸ empty)
  · rintro op work before result after calm here ⟨outcome, same, answer, state, rfl, -, -, rfl⟩
    cases same
    have known : At thread (nextRole (.runtime op) answer role)
        (written (.runtime op) answer ++ sent) (before.record thread (.runtime op) answer state) :=
      at_record here
    rw [quiet_role calm] at known
    exact ⟨known.1, fun envelope member => known.2 envelope (List.mem_append_right _ member)⟩

theorem serves_look (op : RuntimeOp) (quiet : QuietOp op)
    (empty : ∀ id waiter, role ≠ .carrying id waiter) :
    Serves platform node services thread (perform op) (At thread role sent)
      (fun board result => At thread role (written (.runtime op) result ++ sent) board) failed := by
  refine secure_mono (serves_op fun _ _ => quiet_legal quiet empty) (fun _ here => here) ?_
    (fun _ _ here => here)
  intro board result here
  rw [quiet_role quiet] at here
  exact here

theorem serves_then {task : RuntimeTask Err New} {rest : New → RuntimeTask Err Val}
    {post : Board Index → Val → Prop} (quiet : Only QuietOp task)
    (empty : ∀ id waiter, role ≠ .carrying id waiter)
    (later : ∀ value, Serves platform node services thread (rest value) (At thread role sent) post
      fun board _ => At thread role sent board) :
    Serves platform node services thread (task >>= rest) (At thread role sent) post
      fun board _ => At thread role sent board :=
  secure_bind (serves_quiet quiet empty) later
end Security

/-! Sending. -/
section Sending
variable [DecidableEq Index]

theorem send_op_quiet (envelope : Envelope) (op : RuntimeOp) (sends : SendOp envelope op) :
    QuietOp op := by
  unfold QuietOp
  split <;> first | exact trivial | exact sends

theorem dial_op_quiet (op : RuntimeOp) (dials : DialOp op) : QuietOp op := by
  unfold QuietOp
  split <;> first | exact trivial | exact dials

theorem verdict_op_quiet (op : RuntimeOp) (deciding : VerdictOp op) : QuietOp op := by
  unfold QuietOp
  split
  all_goals first | exact trivial | exact deciding.elim id id

theorem only_quiet_send_fire (peer : SisterId) (envelope : Envelope) :
    Only QuietOp (sendFireToPeer platform node peer envelope) :=
  only_mono (only_send_fire_to_peer peer envelope) (send_op_quiet envelope)

variable (empty : ∀ id waiter, role ≠ .carrying id waiter)
include empty

theorem serves_write_control (payload : List UInt8) (stream : NetworkStream)
    (request : ControlRequest) :
    Serves platform node services thread (writeControlFrame payload stream (.control request))
      (At thread role sent) (fun board _ => At thread role (request.envelope :: sent) board)
      (fun board _ => At thread role sent board) := by
  apply secure_ensure_bind
  · intro board here
    exact here
  · intro _
    refine secure_bind (serves_look _ trivial empty) fun answer => ?_
    cases answer with
    | ok _ | error _ => exact fun board here => here

theorem serves_send_request (endpoint : EndpointAddr) (network : NetworkId)
    (auth : Option AuthenticatedSessionConfig) (request : ControlRequest)
    (keyPin : Option PublicKey) :
    Serves platform node services thread
      (sendRequest platform endpoint network auth request keyPin)
      (At thread role sent) (fun board _ => At thread role (request.envelope :: sent) board)
      (fun board _ => At thread role sent board) := by
  unfold sendRequest
  generalize request.encode = payload
  refine serves_then (only_mono (only_open_control_stream auth endpoint network _ keyPin)
    dial_op_quiet) empty fun stream => ?_
  refine serves_then ((only_perform _).mpr trivial) empty fun greeting => ?_
  refine serves_then (by simp) empty fun greeting => ?_
  refine secure_ensure_bind (fun _ here => here) fun _ => ?_
  refine serves_then ((only_perform _).mpr trivial) empty fun marked => ?_
  refine secure_or_error_bind (fun _ _ _ here => here) fun _ _ => ?_
  refine secure_bind (serves_write_control empty _ stream request) fun _ => ?_
  exact fun board here => here

/-- A message reported as sent has been written to the other side. -/
theorem serves_send_fire_to_peer (peer : SisterId) (envelope : Envelope) :
    Serves platform node services thread (sendFireToPeer platform node peer envelope)
      (At thread role sent) (fun board _ => At thread role (envelope :: sent) board)
      (fun board _ => At thread role sent board) := by
  unfold sendFireToPeer
  refine serves_then (only_mono (only_iroh_peer_endpoint envelope peer) (send_op_quiet envelope))
    empty fun endpoint => ?_
  cases endpoint with
  | some endpoint =>
    refine secure_bind (secure_map_error ?_) fun _ => fun board here => here
    refine secure_bind (serves_send_request empty endpoint _ _ ⟨envelope, false⟩ none)
      fun stream => ?_
    exact fun board here => here
  | none =>
    refine serves_then ((only_perform _).mpr trivial) empty fun row => ?_
    refine serves_then (by simp) empty fun addr => ?_
    refine secure_bind ?_ fun _ => fun board here => here
    refine serves_then ((only_perform _).mpr trivial) empty fun connected => ?_
    refine serves_then (by simp) empty fun stream => ?_
    refine secure_bind (serves_look _ trivial empty) fun answer => ?_
    cases answer with
    | ok _ | error _ => exact fun board here => here
end Sending

/-! The handlers. -/
section Handlers
variable [DecidableEq Index]

theorem only_quiet_upsert_peer (state : PeerState) : Only QuietOp (upsertPeer node state) := by
  unfold upsertPeer
  split
  · simp
  · exact (only_perform _).mpr trivial

variable (envelope : Envelope)

theorem only_quiet_hello (peer : Option AuthenticatedPeer) :
    Only QuietOp (dispatchHello platform node envelope peer) := by
  refine only_or_error_bind fun hello _ => ?_
  refine only_ensure_bind fun _ => only_ensure_bind fun _ => ?_
  refine only_bind ?_ fun _ => only_perform_bind trivial fun _ => by simp
  unfold rememberPeer
  split
  · simp
  · exact only_quiet_upsert_peer _

theorem only_quiet_state (peer : Option AuthenticatedPeer) :
    Only QuietOp (dispatchState platform node envelope peer) := by
  refine only_or_error_bind fun state _ => ?_
  split
  · simp
  · refine only_ensure_bind fun _ => ?_
    exact only_bind (only_quiet_upsert_peer _) fun _ => by simp

theorem only_quiet_peer_records :
    Only QuietOp (dispatchPeerRecords platform node envelope) := by
  refine only_or_error_bind fun data _ => ?_
  split
  · simp
  · refine only_bind (only_for_each fun record _ => ?_) fun _ => by simp
    unfold rememberPeerRecord
    split
    · simp
    · split
      · simp
      · exact only_perform_bind trivial fun _ => by simp

theorem free_empty (id : String) (waiter : Waiter) : TaskRole.free ≠ .carrying id waiter := by
  simp

theorem offering_empty (job : LocalJob) (id : String) (waiter : Waiter) :
    TaskRole.offering job ≠ .carrying id waiter := by
  simp

/-- An authorized job passes only if it is authorized for the Sister that is to run it. -/
theorem serves_authorize_job (job : JobData) (forward : Bool)
    (authorization : CommandAuthorization) :
    Serves platform node services thread (authorizeJob platform node job forward authorization)
      (At thread .free sent)
      (fun board _ => At thread .free sent board ∧
        authorization.target = some (.sister (expectedTarget node job forward)))
      (fun board _ => At thread .free sent board) := by
  refine serves_then ((only_perform _).mpr trivial) free_empty fun loaded => ?_
  refine serves_then (by simp) free_empty fun loaded => ?_
  refine serves_then (by simp) free_empty fun authority => ?_
  refine secure_ensure_bind (fun _ here => here) fun _ => ?_
  refine serves_then ((only_perform _).mpr trivial) free_empty fun now => ?_
  refine secure_ensure_bind (fun _ here => here) fun checked => ?_
  simp only [Bool.and_eq_true, beq_iff_eq] at checked
  have bound := checked.1.2
  refine serves_then (only_is_revoked_in trivial) free_empty fun revoked => ?_
  refine secure_ensure_bind (fun _ here => here) fun _ => ?_
  cases forward with
  | true => exact fun board here => ⟨here, bound⟩
  | false =>
    refine serves_then ((only_perform _).mpr trivial) free_empty fun recorded => ?_
    cases recorded with
    | ok _ => exact fun board here => ⟨here, bound⟩
    | error _ => exact fun board here => here

theorem serves_dispatch_job (envelope : Envelope) :
    Frees platform node services thread (dispatchJob platform node envelope) .free := by
  refine secure_or_error_bind (fun _ _ _ here => here) fun job _ => ?_
  refine serves_then (only_mono (only_will_forward job) verdict_op_quiet) free_empty
    fun forward => ?_
  refine secure_ensure_bind (fun _ here => here) fun _ => ?_
  have judged : Serves platform node services thread (judgeJob platform node job forward)
      (At thread .free []) (fun board _ => At thread .free [] board ∧
        (forward = false → Placed node (localJob job)))
      (fun board _ => At thread .free [] board) := by
    unfold judgeJob
    cases given : job.authorization with
    | none =>
      intro board here
      refine ⟨here, fun _ authorization member => ?_⟩
      rw [localJob, given] at member
      cases member
    | some authorization =>
      refine secure_mono (serves_authorize_job job forward authorization) (fun _ here => here) ?_
        (fun _ _ here => here)
      rintro board _ ⟨here, bound⟩
      refine ⟨here, fun here' other member => ?_⟩
      rw [localJob, given] at member
      cases member
      rw [bound, here', expectedTarget]
      rfl
  refine secure_bind judged fun _ => ?_
  refine secure_bind ?_ fun _ => fun board here => here
  cases forward with
  | true =>
    exact secure_pre (serves_quiet (only_quiet_send_fire _ _) free_empty) fun _ here => here.1
  | false =>
    by_cases placed : Placed node (localJob job)
    · refine secure_mono (serves_op fun _ _ => ⟨Or.inl rfl, rfl, placed⟩) (fun _ here => here.1)
        (fun _ _ here => here) (fun _ _ here => here)
    · exact secure_unreached fun board here => placed (here.2 rfl)

theorem serves_dispatch_job_response (envelope : Envelope) :
    Frees platform node services thread (dispatchJobResponse platform node envelope) .free := by
  refine secure_or_error_bind (fun _ _ _ here => here) fun result _ => ?_
  split
  · exact fun board here => here
  · rename_i own
    refine secure_bind (serves_op fun _ _ => rfl) fun found => ?_
    cases found with
    | none => exact fun board here => here
    | some waiter =>
      refine secure_bind (serves_op fun _ _ => ⟨rfl, Decidable.not_not.mp own⟩) fun _ => ?_
      exact fun board here => here

theorem serves_transfer_job (job : LocalJob) (requester : SisterId) :
    Frees platform node services thread (transferJob platform node job requester)
      (.offering job) := by
  have leaves : ∀ (board : Board Index) (envelope : Envelope),
      At thread .free [envelope] board → At thread .free [] board := by
    intro board envelope here
    exact ⟨here.1, fun _ member => by cases member⟩
  refine secure_bind (serves_look .nowSecs trivial (offering_empty job)) fun now => ?_
  have sending : Serves platform node services thread
      (attempt (sendFireToPeer platform node requester (stolenEnvelope node job requester now)))
      (At thread (.offering job) [])
      (fun board outcome => At thread (.offering job)
        (if outcome.isOk then [stolenEnvelope node job requester now] else []) board)
      (fun board (_ : MisakaError) => At thread .free [] board) :=
    secure_attempt (serves_send_fire_to_peer (offering_empty job) _ _)
  refine secure_bind sending fun outcome => ?_
  cases outcome with
  | ok _ =>
    refine secure_mono (serves_op fun board here => ?_) (fun _ here => here)
      (fun board _ here => leaves board _ here) (fun _ _ here => here)
    exact ⟨job, requester, now, rfl, rfl, here.2 _ List.mem_cons_self⟩
  | error _ => exact serves_op fun _ _ => rfl

theorem serves_dispatch_job_request {envelope : Envelope}
    (asked : (services thread).requester = some envelope.sender) :
    Frees platform node services thread (dispatchJobRequest platform node envelope) .free := by
  refine serves_then ((only_perform _).mpr trivial) free_empty fun row => ?_
  refine secure_bind (serves_op fun _ _ => ⟨rfl, asked, rfl⟩) fun popped => ?_
  refine secure_bind ?_ fun _ => fun board here => here
  cases popped with
  | some job =>
    rw [answerJobRequest]
    split
    · exact serves_transfer_job job envelope.sender
    · exact serves_op fun _ _ => rfl
  | none =>
    rw [answerJobRequest]
    split
    · refine serves_then (only_attempt (only_quiet_send_fire _ _)) free_empty fun _ => ?_
      exact fun board here => here
    · exact fun board here => here

theorem serves_dispatch_envelope {envelope : Envelope} {peer : Option AuthenticatedPeer}
    (asked : (services thread).requester = some envelope.sender) :
    Frees platform node services thread (dispatchEnvelope platform node envelope peer) .free := by
  refine secure_ensure_bind (fun _ here => here) fun _ => ?_
  refine secure_ensure_bind (fun _ here => here) fun _ => ?_
  unfold dispatchMessage
  split
  · exact fun board here => here
  · exact serves_quiet (only_quiet_hello envelope peer) free_empty
  · exact serves_quiet (only_quiet_state envelope peer) free_empty
  · exact serves_dispatch_job envelope
  · exact serves_dispatch_job_response envelope
  · exact serves_dispatch_job_request asked
  · exact serves_quiet (only_quiet_peer_records envelope) free_empty
  · exact fun board here => here
end Handlers

/-! The executor and the submitting services. -/
section Services
variable [DecidableEq Index]

-- A task of the runtime's vocabulary as part of a service.
theorem performs_runtime {task : RuntimeTask Err Val} {pre : Board Index → Prop}
    {post : Board Index → Val → Prop}
    (proved : Serves platform node services thread task pre post failed) :
    Performs platform node services thread (runtime task) pre post failed := secure_lift proved

theorem performs_look (op : RuntimeOp) (quiet : QuietOp op)
    (empty : ∀ id waiter, role ≠ .carrying id waiter) :
    Performs platform node services thread (perform (ServiceOp.runtime op)) (At thread role [])
      (fun board _ => At thread role [] board) failed := by
  refine secure_mono (performs_op fun _ _ => quiet_legal quiet empty) (fun _ here => here) ?_
    (fun _ _ here => here)
  intro board result here
  rw [quiet_role quiet] at here
  exact ⟨here.1, fun _ member => by cases member⟩

theorem only_quiet_send_fire_addr (addr : SocketAddr) (envelope : Envelope) :
    Only QuietOp (sendFire addr envelope) :=
  only_bind (only_mono (only_tcp_open_and_write addr envelope) (send_op_quiet envelope))
    fun _ => by simp

theorem only_quiet_return_result (job : LocalJob) (result : JobResultData) :
    Only QuietOp (returnResult platform node job result) := by
  unfold returnResult
  split
  · exact only_bind (only_attempt (only_quiet_send_fire _ _)) fun _ => by simp
  · split
    · exact only_bind (only_attempt (only_quiet_send_fire_addr _ _)) fun _ => by simp
    · simp

theorem only_quiet_deliver_job (executor : SisterId) (envelope : Envelope) :
    Only QuietOp (deliverJob platform node executor envelope) := by
  unfold deliverJob
  split
  · exact only_quiet_send_fire _ _
  · refine only_perform_bind trivial fun row => ?_
    exact only_bind (by simp) fun addr => only_quiet_send_fire_addr addr envelope

theorem performs_execute_job (job : LocalJob) :
    Finishes platform node services thread (executeJob platform node job) (.taken job) := by
  refine secure_bind (performs_look .nowSecs trivial (by simp)) fun started => ?_
  refine secure_bind (performs_op fun _ _ => ⟨job, rfl, rfl⟩) fun _ => ?_
  refine secure_bind (performs_op fun _ _ => ⟨job, rfl, rfl⟩) fun result => ?_
  refine secure_bind (performs_look .nowSecs trivial (by simp [nextRole])) fun finished => ?_
  refine secure_bind (performs_op fun _ _ => ⟨job, rfl, rfl⟩) fun _ => ?_
  split
  · exact performs_runtime (serves_quiet (only_quiet_return_result _ _) free_empty)
  · exact fun board here => here

theorem performs_executor_turn (worker : (services thread).requester = none) :
    Finishes platform node services thread (executorTurn platform node) .free := by
  refine secure_bind (performs_op fun _ _ => ⟨rfl, worker⟩) fun popped => ?_
  cases popped with
  | some job => exact performs_execute_job job
  | none => exact fun board here => here

theorem performs_executor (worker : (services thread).requester = none) (turns : Nat) :
    Finishes platform node services thread
      (forEach (List.replicate turns ()) fun _ => executorTurn platform node) .free := by
  induction turns with
  | zero => exact fun board here => here
  | succ turns ih => exact secure_bind (performs_executor_turn worker) fun _ => ih

theorem performs_execute_and_record (id command : String) :
    Finishes platform node services thread (executeAndRecord node id command) (.named id) := by
  refine secure_bind (performs_look .nowSecs trivial (by simp)) fun started => ?_
  refine secure_bind (performs_op fun _ _ => rfl) fun _ => ?_
  refine secure_bind (performs_op fun _ _ => ⟨_, rfl, rfl⟩) fun result => ?_
  refine secure_bind (performs_look .nowSecs trivial (by simp [nextRole])) fun finished => ?_
  refine secure_bind (performs_op fun _ _ => ⟨_, rfl, rfl⟩) fun _ => ?_
  exact fun board here => here

theorem performs_run_local_sync (command : String) :
    Finishes platform node services thread (runLocalSync node command) .free :=
  secure_bind (performs_op fun _ _ => rfl) fun id => performs_execute_and_record id command

theorem performs_submit_local (command : String) :
    Finishes platform node services thread (submitLocal node command) .free := by
  refine secure_bind (performs_op fun _ _ => rfl) fun id => ?_
  refine performs_op fun _ _ => ⟨Or.inr rfl, rfl, fun _ member => ?_⟩
  cases member

theorem performs_await_job (id : String) (waiter : Waiter) :
    Finishes platform node services thread (awaitJob id waiter) (.submitting id waiter) := by
  refine secure_bind (performs_op fun _ _ => ⟨id, rfl⟩) fun waited => ?_
  cases waited with
  | result data | closed => exact fun board here => here
  | timedOut =>
    refine secure_bind (performs_op fun _ _ => ⟨waiter, rfl⟩) fun _ => ?_
    exact fun board here => here

theorem performs_submit_to_sister (sister : SisterId) (command : String)
    (authorization : Option CommandAuthorization) :
    Finishes platform node services thread
      (submitToSisterAuthorized platform node sister command authorization) .free := by
  have listens : Finishes platform node services thread (callbackAddr node sister) .free := by
    unfold callbackAddr
    split
    · exact fun board here => here
    · split
      · exact fun board here => here
      · refine secure_bind (performs_op fun _ _ => rfl) fun spawned => ?_
        refine secure_or_error_bind (fun _ _ _ here => here) fun addr _ => ?_
        exact fun board here => here
  refine secure_bind listens fun myListen => ?_
  refine secure_bind (performs_op fun _ _ => rfl) fun id => ?_
  refine secure_bind (performs_look .nowSecs trivial (by simp [nextRole])) fun now => ?_
  split
  · exact performs_execute_and_record id command
  · refine secure_bind (performs_op fun _ _ => rfl) fun waiter => ?_
    have sending : ∀ envelope, Performs platform node services thread
        (attempt (runtime (deliverJob platform node sister envelope)))
        (At thread (.submitting id waiter) [])
        (fun board (_ : Except MisakaError Unit) => At thread (.submitting id waiter) [] board)
        (fun board (_ : MisakaError) => At thread .free [] board) := fun envelope =>
      secure_attempt (performs_runtime (serves_quiet (only_quiet_deliver_job _ _) (by simp)))
    refine secure_bind (sending _) fun outcome => ?_
    cases outcome with
    | ok _ => exact performs_await_job id waiter
    | error _ =>
      refine secure_bind (performs_op fun _ _ => ⟨waiter, rfl⟩) fun _ => ?_
      exact fun board here => here

/-- Every service, from its beginning to its end. -/
theorem performs_program (service : Service) (itself : services thread = service) :
    Performs platform node services thread (service.program platform node)
      (At thread .free []) (fun board _ => board.role thread = .free)
      (fun board _ => board.role thread = .free) := by
  have ends : ∀ (board : Board Index), At thread .free [] board → board.role thread = .free :=
    fun _ here => here.1
  have whole : Finishes platform node services thread (service.program platform node) .free := by
    cases service with
    | handler envelope peer =>
      have asked : (services thread).requester = some envelope.sender := by
        rw [itself]
        rfl
      exact secure_bind (performs_runtime (serves_dispatch_envelope asked))
        fun _ => fun board here => here
    | executor turns =>
      have worker : (services thread).requester = none := by
        rw [itself]
        rfl
      exact secure_bind (performs_executor worker turns) fun _ => fun board here => here
    | submitLocal command =>
      exact secure_bind (performs_submit_local command) fun _ => fun board here => here
    | runLocalSync command =>
      exact secure_bind (performs_run_local_sync command) fun _ => fun board here => here
    | submitToSister sister command authorization =>
      exact secure_bind (performs_submit_to_sister sister command authorization)
        fun _ => fun board here => here
  exact secure_mono whole (fun _ here => here) (fun board _ => ends board)
    (fun board _ => ends board)
end Services
end Misaka.ServiceRoles
