import Misaka.Dispatch
import Misaka.HumanAuthorization

/-!
What dispatching an envelope can do to the job queue. A job enters it only
under a human authorization that was judged in the same dispatch and whose
nonce that dispatch spent, or because the dispatch itself had just taken it
out. A job leaves for another Sister only under an authorization for it.
-/

namespace Misaka.JobDispatch
open Bincode Identity Protocol PeerKnowledge JobManager AuthorizationStores EffectTask NodeRuntime
open AuthenticatedSession ControlChannel Dispatch HumanAuthorization
variable {platform : Platform} {node : NodeConfig}

section Judgement
variable {State : Type} {step : State → (op : RuntimeOp) → op.Result → State → Prop}
variable {trace longer : List (Event RuntimeOp RuntimeOp.Result State)}

/-- Everything `authorizeJob` looked at before it let a job pass. -/
structure Judged (platform : Platform) (node : NodeConfig) (command : String) (target : SisterId)
    (authorization : CommandAuthorization) (authority : NetworkAuthority) (now : UInt64)
    (trace : List (Event RuntimeOp RuntimeOp.Result State)) : Prop
    extends Vetted platform node target authorization authority now trace where
  permission : authorization.permission = .jobSubmit
  constrained : constraintsOk authorization command = true

theorem judged_suffix {command : String} {target : SisterId} {authorization : CommandAuthorization}
    {authority : NetworkAuthority} {now : UInt64} (kept : trace <:+ longer)
    (judged : Judged platform node command target authorization authority now trace) :
    Judged platform node command target authorization authority now longer :=
  ⟨vetted_suffix kept judged.toVetted, judged.permission, judged.constrained⟩

def WritesJob (op : RuntimeOp) : Prop := ∃ sent, WritesEnvelope op sent ∧ sent.msgType = .job

def GivesBack : RuntimeOp → Prop
  | .pushBack _ => True
  | _ => False

theorem judge_op_writes_nothing (op : RuntimeOp) (judging : JudgeOp op) : ¬ WritesJob op := by
  unfold JudgeOp at judging
  split at judging <;> simp_all [WritesJob, WritesEnvelope]
end Judgement

section Guard
variable (platform : Platform) (node : NodeConfig)

/-- A Job message leaves either as the received job, under an authorization for
its named executor, or as a queued job whose authorization names the requester. -/
def HandedOn (sent : Envelope) (trace : NodeTrace) : Prop :=
  (∃ job authorization authority now, platform.jobData sent.data = .ok job ∧
    sent.recipient = job.executor ∧ job.authorization = some authorization ∧
    Judged platform node job.fullCommand job.executor authorization authority now trace) ∨
  (∃ job now authorization,
    Answered trace (.popTransferable sent.recipient node.allowUnauthenticatedOperations)
      (some job) ∧
    sent.data = (stolenJob node job sent.recipient now).encode ∧
    job.authorization = some authorization ∧
    authorization.target = some (.sister sent.recipient))

def JobSend (sent : Envelope) (trace : NodeTrace) : Prop :=
  sent.msgType = .job →
    (∀ event ∈ trace, ¬ RecordsNonce event.op) ∧ HandedOn platform node sent trace

def Enqueued (job : LocalJob) (trace : NodeTrace) : Prop :=
  ∃ authorization authority now, job.authorization = some authorization ∧
    Judged platform node job.command node.identity.id authorization authority now trace ∧
    Answered trace (.recordNonce node.dataDir authorization) (.ok ())

-- The job was in the queue when this dispatch began to hold it.
def TakenOut (job : LocalJob) (trace : NodeTrace) : Prop :=
  (∃ requester allowed, Answered trace (.popTransferable requester allowed) (some job)) ∧
    ∀ event ∈ trace, ¬ GivesBack event.op

def JobGuard (trace : NodeTrace) : RuntimeOp → Prop
  | .enqueue job => Enqueued platform node job trace
  | .pushBack job => TakenOut job trace
  | .recordNonce _ _ => ∀ event ∈ trace, ¬ WritesJob event.op
  | .write _ (.control request) => JobSend platform node request.envelope trace
  | .tcpWrite _ sent => JobSend platform node sent trace
  | _ => True

variable {platform node}

variable {sent : Envelope} {trace : NodeTrace}

theorem guard_of_written {op : RuntimeOp} (owed : JobGuard platform node trace op)
    (written : WritesEnvelope op sent) :
    JobSend platform node sent trace := by
  unfold WritesEnvelope at written
  split at written
  · exact written ▸ owed
  · exact written ▸ owed
  · exact absurd written id

theorem book_op_meets_guard {envelope : Envelope} {peer : Option AuthenticatedPeer}
    (trace : NodeTrace) (op : RuntimeOp) (keeps : BookOp platform node envelope peer op) :
    JobGuard platform node trace op := by
  unfold BookOp at keeps
  split at keeps <;> trivial

theorem judge_op_meets_guard (trace : NodeTrace) (op : RuntimeOp) (judging : JudgeOp op) :
    JobGuard platform node trace op := by
  unfold JudgeOp at judging
  split at judging <;> trivial

-- Sending one envelope owes the guard only for that envelope.
theorem send_op_meets_guard (trace : NodeTrace) (op : RuntimeOp)
    (owed : JobSend platform node sent trace) (sends : SendOp sent op) :
    JobGuard platform node trace op := by
  unfold JobGuard
  split
  · exact absurd sends id
  · exact absurd sends id
  · exact absurd sends id
  · rename_i request
    have same : request.envelope = sent := sends
    exact same ▸ owed
  · rename_i written
    have same : written = sent := sends
    exact same ▸ owed
  · trivial

theorem authorize_job_spec (job : JobData) (forward : Bool) (authorization : CommandAuthorization)
    (reading : ∀ event ∈ trace, JudgeOp event.op) :
    Holds (traceStep (NodeStep platform)) (JobGuard platform node)
      (authorizeJob platform node job forward authorization)
      (fun longer _ =>
        (∃ authority now, Judged platform node job.fullCommand (expectedTarget node job forward)
          authorization authority now longer) ∧
        (forward = true → ∀ event ∈ longer, JudgeOp event.op) ∧
        (forward = false → Answered longer (.recordNonce node.dataDir authorization) (.ok ())))
      (fun _ _ => True) trace := by
  simp only [authorizeJob, holds_bind, holds_trace_perform, holds_or_error, holds_or_fail,
    holds_ensure, implies_true, and_true, Bool.and_eq_true, beq_iff_eq]
  refine ⟨trivial, ?_⟩
  intro _ before after _ _ loaded authority installed admissible
  subst loaded installed
  refine ⟨trivial, ?_⟩
  rintro now before' after' _ ⟨⟨verified, targeted⟩, constrained⟩
  refine holds_mono (holds_guarded (is_revoked_in_spec platform _ node.dataDir authority
    authorization.networkId .human authorization.membership.serial)
    (only_is_revoked_in trivial) (fun _ op _ judging => judge_op_meets_guard _ op judging)) ?_
    (fun _ _ _ => trivial)
  rintro longer revoked ⟨found, extended⟩ kept
  have unrevoked : revoked = false := by simpa using kept
  have quiet : ∀ event ∈ longer, JudgeOp event.op := by
    refine extends_forall extended (fun _ judging => judging) ?_
    simpa [JudgeOp] using reading
  have judged : Judged platform node job.fullCommand (expectedTarget node job forward)
      authorization authority now longer := by
    refine ⟨⟨?_, ?_, verified, admissible.2, targeted, found unrevoked⟩, admissible.1, constrained⟩
    · exact answered_suffix (extends_suffix extended)
        (answered_suffix (List.suffix_cons _ _) answered_head)
    · exact answered_suffix (extends_suffix extended) answered_head
  cases forward with
  | true => simpa using ⟨⟨authority, now, judged⟩, quiet⟩
  | false =>
    simp only [Bool.false_eq_true, if_false, holds_bind, holds_trace_perform, holds_or_error,
      implies_true, and_true, forall_const, false_implies, true_and]
    refine ⟨fun event member => judge_op_writes_nothing _ (quiet event member), ?_⟩
    intro answer before'' after'' _ _ recorded
    subst recorded
    exact ⟨⟨authority, now, judged_suffix (List.suffix_cons _ _) judged⟩, answered_head⟩

theorem send_op_records_nothing (op : RuntimeOp) (sends : SendOp sent op) :
    ¬ RecordsNonce op := by
  intro records
  unfold RecordsNonce at records
  split at records
  · exact sends
  · exact records

theorem send_op_gives_nothing_back (op : RuntimeOp) (sends : SendOp sent op) :
    ¬ GivesBack op := by
  intro gives
  unfold GivesBack at gives
  split at gives
  · exact sends
  · exact gives

-- What is known when sending starts is still known at each of its writes.
theorem send_fire_guarded (peer : SisterId) (sent : Envelope)
    (silent : ∀ event ∈ trace, ¬ RecordsNonce event.op)
   
    (handed : sent.msgType = .job → ∀ longer, trace <:+ longer → HandedOn platform node sent longer) :
    Holds (traceStep (NodeStep platform)) (JobGuard platform node)
      (sendFireToPeer platform node peer sent) (fun longer _ => Extends (SendOp sent) trace longer)
      (fun longer _ => Extends (SendOp sent) trace longer) trace := by
  have owed : ∀ longer op, Extends (SendOp sent) trace longer → SendOp sent op →
      JobGuard platform node longer op := by
    intro longer op extended sends
    refine send_op_meets_guard longer op ?_ sends
    intro isJob
    exact ⟨extends_forall extended send_op_records_nothing silent,
      handed isJob longer (extends_suffix extended)⟩
  exact holds_of_only (only_send_fire_to_peer peer sent) owed

theorem will_forward_reads (job : JobData) :
    Holds (traceStep (NodeStep platform)) (JobGuard platform node) (willForward node job)
      (fun longer _ => ∀ event ∈ longer, JudgeOp event.op) (fun _ _ => True) [] := by
  unfold willForward
  split
  · simp [JobGuard, JudgeOp]
  · simp

variable (closed : node.allowUnauthenticatedOperations = false)
include closed

theorem dispatch_job_guarded (envelope : Envelope) :
    Holds (traceStep (NodeStep platform)) (JobGuard platform node)
      (dispatchJob platform node envelope) (fun _ _ => True) (fun _ _ => True) [] := by
  simp only [dispatchJob, holds_bind, holds_or_error, requireSideEffectAuthorization,
    holds_ensure, holds_pure, implies_true, and_true]
  intro job decoded
  refine holds_mono (will_forward_reads job) ?_ (fun _ _ _ => trivial)
  intro looked forward reading authorized
  obtain ⟨authorization, carried⟩ : ∃ authorization, job.authorization = some authorization := by
    rw [closed, Bool.or_false] at authorized
    exact Option.isSome_iff_exists.mp authorized
  simp only [judgeJob, carried]
  refine holds_mono (authorize_job_spec job forward authorization reading) ?_
    (fun _ _ _ => trivial)
  rintro judgedTrace _ ⟨⟨authority, now, judged⟩, forwarding, executing⟩
  cases forward with
  | true =>
    have quiet := forwarding rfl
    refine holds_mono (send_fire_guarded job.executor _
      (fun event member => judge_op_records_nothing _ (quiet event member)) ?_)
      (fun _ _ _ => trivial) (fun _ _ _ => trivial)
    intro _ longer kept
    exact Or.inl ⟨job, authorization, authority, now, decoded, rfl, carried,
      judged_suffix kept judged⟩
  | false =>
    refine (holds_trace_perform _).mpr ⟨?_, fun _ _ _ _ => trivial⟩
    exact ⟨authorization, authority, now, carried, judged, executing rfl⟩

theorem transfer_job_guarded (job : LocalJob) (requester : SisterId)
    (silent : ∀ event ∈ trace, ¬ RecordsNonce event.op)
    (held : ∀ event ∈ trace, ¬ GivesBack event.op)
    (popped : Answered trace (.popTransferable requester node.allowUnauthenticatedOperations)
      (some job))
    (eligible : transferable job requester node.allowUnauthenticatedOperations = true) :
    Holds (traceStep (NodeStep platform)) (JobGuard platform node)
      (transferJob platform node job requester) (fun _ _ => True) (fun _ _ => True) trace := by
  simp only [transferJob, holds_bind, holds_trace_perform, holds_attempt]
  refine ⟨trivial, ?_⟩
  intro now before after _
  -- Without the development switch only a job authorized for the requester is eligible.
  obtain ⟨authorization, carried, targeted⟩ : ∃ authorization,
      job.authorization = some authorization ∧
      authorization.target = some (.sister requester) := by
    unfold transferable at eligible
    split at eligible
    · rename_i authorization carried
      exact ⟨authorization, carried, beq_iff_eq.mp eligible⟩
    · rw [closed] at eligible
      cases eligible
  have silent' : ∀ event ∈ (⟨before, .nowSecs, now, after⟩ :: trace : NodeTrace),
      ¬ RecordsNonce event.op := by
    simpa [RecordsNonce] using silent
  have held' : ∀ event ∈ (⟨before, .nowSecs, now, after⟩ :: trace : NodeTrace),
      ¬ GivesBack event.op := by
    simpa [GivesBack] using held
  refine holds_mono (send_fire_guarded requester _ silent' ?_) ?_ ?_
  · intro _ longer kept
    refine Or.inr ⟨job, now, authorization, ?_, rfl, carried, targeted⟩
    exact answered_suffix ((List.suffix_cons _ _).trans kept) popped
  · intro longer _ _
    simp only [implies_true, and_true]
    trivial
  · intro longer _ extended
    simp only [implies_true, and_true]
    have kept := (List.suffix_cons _ _).trans (extends_suffix extended)
    exact ⟨⟨requester, _, answered_suffix kept popped⟩,
      extends_forall extended send_op_gives_nothing_back held'⟩

theorem dispatch_job_request_guarded (envelope : Envelope) :
    Holds (traceStep (NodeStep platform)) (JobGuard platform node)
      (dispatchJobRequest platform node envelope) (fun _ _ => True) (fun _ _ => True) [] := by
  simp only [dispatchJobRequest, holds_bind, holds_trace_perform, holds_pure]
  refine ⟨trivial, ?_⟩
  intro row before after _
  refine ⟨trivial, ?_⟩
  intro popped before' after' taken
  cases popped with
  | some job =>
    obtain ⟨jobs, popping, _⟩ := taken
    have eligible := (pop_transferable_some popping).1
    rw [answerJobRequest]
    split
    · refine transfer_job_guarded closed job envelope.sender ?_ ?_ answered_head eligible
      · simp [RecordsNonce]
      · simp [GivesBack]
    · refine (holds_trace_perform _).mpr ⟨⟨⟨_, _, answered_head⟩, ?_⟩, fun _ _ _ _ => trivial⟩
      simp [GivesBack]
  | none =>
    rw [answerJobRequest]
    split
    · simp only [holds_bind, holds_attempt, holds_pure]
      refine holds_mono (send_fire_guarded envelope.sender _ ?_ ?_) (fun _ _ _ => trivial)
        (fun _ _ _ => trivial)
      · simp [RecordsNonce]
      · intro isJob
        cases isJob
    · simp

/-- Every operation of a dispatch meets the guard, whatever the message. -/
theorem dispatch_guarded (envelope : Envelope) (peer : Option AuthenticatedPeer) :
    Holds (traceStep (NodeStep platform)) (JobGuard platform node)
      (dispatchEnvelope platform node envelope peer) (fun _ _ => True) (fun _ _ => True) [] := by
  have books : ∀ {task : RuntimeTask MisakaError (Option Envelope)},
      Only (BookOp platform node envelope peer) task →
      Holds (traceStep (NodeStep platform)) (JobGuard platform node) task (fun _ _ => True)
        (fun _ _ => True) [] := by
    intro task vocabulary
    exact holds_mono (holds_of_only vocabulary fun _ op _ keeps => book_op_meets_guard _ op keeps)
      (fun _ _ _ => trivial) (fun _ _ _ => trivial)
  simp only [dispatchEnvelope, holds_bind, holds_ensure, implies_true, and_true]
  intro _ _
  unfold dispatchMessage
  split
  · simp
  · exact books (only_dispatch_hello envelope peer)
  · exact books (only_dispatch_state envelope peer)
  · exact dispatch_job_guarded closed envelope
  · exact books (only_dispatch_job_response envelope peer)
  · exact dispatch_job_request_guarded closed envelope
  · exact books (only_dispatch_peer_records envelope peer)
  · simp
end Guard

/-! Conversely, a job that passes every check is queued. -/

/-- What the judgement of a job for local execution comes down to. -/
structure Acceptable (platform : Platform) (node : NodeConfig) (job : JobData)
    (authorization : CommandAuthorization) (authority : NetworkAuthority) (now : UInt64)
    (revocations : Option (List RevocationRecord)) : Prop where
  carried : job.authorization = some authorization
  kept : job.executor = 0 ∨ job.executor = node.identity.id
  verified : authorization.verify platform.verifies authority now = true
  permission : authorization.permission = .jobSubmit
  network : authorization.networkId = node.networkId
  targeted : authorization.target = some (.sister node.identity.id)
  constrained : constraintsOk authorization job.fullCommand = true
  unrevoked : isRevoked platform.verifies authority authorization.networkId .human
    authorization.membership.serial (revocations.getD []) = .ok false

theorem dispatch_accepts {job : JobData} {authorization : CommandAuthorization}
    {authority : NetworkAuthority} {now : UInt64} {revocations : Option (List RevocationRecord)}
    (acceptable : Acceptable platform node job authorization authority now revocations)
    {envelope : Envelope} {peer : Option AuthenticatedPeer}
    (network : envelope.networkId = node.networkId)
    (speaks : senderMatchesPeer peer envelope.sender = true) (isJob : envelope.msgType = .job)
    (decoded : platform.jobData envelope.data = .ok job)
    {loading loaded reading read listing listed spending spent queueing queued : NodeState}
    (load : NodeStep platform loading (.loadAuthority node.dataDir) (.ok (some authority)) loaded)
    (clock : NodeStep platform reading .nowSecs now read)
    (list : NodeStep platform listing (.loadRevocations node.dataDir) (.ok revocations) listed)
    (spend : NodeStep platform spending (.recordNonce node.dataDir authorization) (.ok ()) spent)
    (queue : NodeStep platform queueing (.enqueue (localJob job)) () queued) :
    Traces (NodeStep platform) (dispatchEnvelope platform node envelope peer)
      [⟨queueing, .enqueue (localJob job), (), queued⟩,
        ⟨spending, .recordNonce node.dataDir authorization, .ok (), spent⟩,
        ⟨listing, .loadRevocations node.dataDir, .ok revocations, listed⟩,
        ⟨reading, .nowSecs, now, read⟩,
        ⟨loading, .loadAuthority node.dataDir, .ok (some authority), loaded⟩]
      (.done none) := by
  have stays : willForward node job = .done false := by
    rcases acceptable.kept with executor | executor <;> simp [willForward, executor]
  have passes : dispatchEnvelope platform node envelope peer =
      authorizeJob platform node job false authorization >>= fun _ =>
        perform (RuntimeOp.enqueue (localJob job)) >>= fun _ => .done none := by
    simp only [dispatchEnvelope, network, beq_self_eq_true, speaks, dispatchMessage, isJob,
      dispatchJob, decoded, stays, requireSideEffectAuthorization, judgeJob, placeJob,
      acceptable.carried, Option.isSome_some, Bool.true_or, or_error_ok, ensure_true, done_bind,
      pure_is_done, Bool.false_eq_true, if_false]
  rw [Traces, passes]
  simp only [authorizeJob, isRevokedIn, bind_assoc, expectedTarget, Bool.false_eq_true, if_false]
  refine reaches_perform load ?_
  simp only [or_error_ok, or_fail_some, done_bind, acceptable.permission, acceptable.network,
    beq_self_eq_true, Bool.and_self, ensure_true]
  refine reaches_perform clock ?_
  simp only [acceptable.verified, acceptable.targeted, acceptable.constrained, beq_self_eq_true,
    Bool.and_self, ensure_true, done_bind]
  refine reaches_perform list ?_
  simp only [or_error_ok, done_bind, ← acceptable.network, acceptable.unrevoked, Bool.not_false,
    ensure_true]
  refine reaches_perform spend ?_
  exact reaches_perform queue (.here _ _)

def sampleJob (constraints : List String) (command : String) : JobData where
  id := "job"
  creator := 2
  executor := 0
  creatorAddr := "127.0.0.1:7778"
  command := command
  arguments := []
  createdAt := 5
  authorization := some (sampleAuthorization .jobSubmit constraints)

def jobPlatform (constraints : List String) : Platform :=
  { samplePlatform with
    jobData := recognise JobData.encode [sampleJob constraints "ls", sampleJob constraints "rm"] }

def jobEnvelope (job : JobData) : Envelope := Envelope.new sampleNetwork .job 2 1 job.encode

def jobTrace (constraints : List String) (command : String) : NodeTrace :=
  let authorization := sampleAuthorization .jobSubmit constraints
  let job := localJob (sampleJob constraints command)
  [⟨sampleSpent authorization, .enqueue job, (),
      { sampleSpent authorization with jobs := (sampleSpent authorization).jobs.enqueue job }⟩,
    ⟨sampleState, .recordNonce "data" authorization, .ok (), sampleSpent authorization⟩,
    ⟨sampleState, .loadRevocations "data", .ok none, sampleState⟩,
    ⟨sampleState, .nowSecs, 5, sampleState⟩,
    ⟨sampleState, .loadAuthority "data", .ok (some sampleAuthority), sampleState⟩]

theorem first_job_decoded (constraints : List String) :
    (jobPlatform constraints).jobData (sampleJob constraints "ls").encode =
      .ok (sampleJob constraints "ls") := by
  simp only [jobPlatform, recognise_first]

theorem sample_job_run {constraints : List String} {command : String}
    (decoded : (jobPlatform constraints).jobData (sampleJob constraints command).encode =
      .ok (sampleJob constraints command))
    (constrained : constraintsOk (sampleAuthorization .jobSubmit constraints) command = true) :
    Traces (NodeStep (jobPlatform constraints))
      (dispatchEnvelope (jobPlatform constraints) sampleNode
        (jobEnvelope (sampleJob constraints command)) none)
      (jobTrace constraints command) (.done none) := by
  have acceptable : Acceptable (jobPlatform constraints) sampleNode (sampleJob constraints command)
      (sampleAuthorization .jobSubmit constraints) sampleAuthority 5 none :=
    ⟨rfl, Or.inl rfl, rfl, rfl, rfl, rfl, constrained, rfl⟩
  have load : NodeStep (jobPlatform constraints) sampleState (.loadAuthority "data")
      (.ok (some sampleAuthority)) sampleState := ⟨Or.inr rfl, rfl⟩
  have clock : NodeStep (jobPlatform constraints) sampleState .nowSecs (5 : UInt64) sampleState :=
    ⟨rfl, rfl⟩
  have list : NodeStep (jobPlatform constraints) sampleState (.loadRevocations "data") (.ok none)
      sampleState := ⟨Or.inr rfl, rfl⟩
  have spend : NodeStep (jobPlatform constraints) sampleState
      (.recordNonce "data" (sampleAuthorization .jobSubmit constraints)) (.ok ())
      (sampleSpent (sampleAuthorization .jobSubmit constraints)) := ⟨_, .written rfl, rfl⟩
  have received : (jobPlatform constraints).jobData
      (jobEnvelope (sampleJob constraints command)).data = .ok (sampleJob constraints command) :=
    decoded
  exact dispatch_accepts acceptable rfl rfl rfl received load clock list spend rfl

/-! The same facts in terms of the node states the dispatch met. -/
section States

variable {job : LocalJob}

theorem queue_growth {before after : NodeState} {op : RuntimeOp} {result : op.Result}
    (taken : NodeStep platform before op result after)
    (grows : before.jobs.queue.count job < after.jobs.queue.count job) :
    op = .enqueue job ∨ op = .pushBack job := by
  have pushed : ∀ pushed : LocalJob,
      before.jobs.queue.count job < (before.jobs.queue ++ [pushed]).count job → pushed = job := by
    intro pushed grown
    by_contra different
    simp [different] at grown
  have unchanged : after.jobs = before.jobs → op = .enqueue job ∨ op = .pushBack job := by
    intro same
    rw [same] at grows
    exact absurd grows (Nat.lt_irrefl _)
  rcases node_step_cases taken with rfl | ⟨_, _, _, _, rfl⟩ | ⟨_, _, _, rfl⟩ |
    ⟨_, _, _, _, _, _, rfl⟩ | ⟨jobs, change, rfl⟩
  · exact unchanged rfl
  · exact unchanged rfl
  · exact unchanged rfl
  · exact unchanged rfl
  · unfold JobsStep at change
    split at change
    · subst change
      exact Or.inl (congrArg _ (pushed _ grows))
    · obtain ⟨popped, popping⟩ := change
      exact absurd grows (Nat.not_lt.mpr (pop_transferable_count popping job))
    · subst change
      exact Or.inr (congrArg _ (pushed _ grows))
    · subst change
      rw [mark_transferred_queue] at grows
      exact absurd grows (Nat.lt_irrefl _)
    · obtain ⟨waiter, resolving⟩ := change
      cases resolving
      exact absurd grows (Nat.lt_irrefl _)
    · exact absurd change id

/-- The authorization a job was queued under, judged against the states this
dispatch met: the installed authority, the clock, the revocations, the nonces. -/
structure QueuedUnder (node : NodeConfig) (signed : PublicKey → List UInt8 → Prop)
    (job : LocalJob) (authorization : CommandAuthorization) (authority : NetworkAuthority)
    (trace : NodeTrace) : Prop
    extends Established node signed node.identity.id authorization authority trace where
  carried : job.authorization = some authorization
  permission : authorization.permission = .jobSubmit
  spent : ∃ event ∈ trace, event.op = .recordNonce node.dataDir authorization ∧
    NewlySpent authorization event.before.clock (event.before.directories node.dataDir).nonces
      (event.after.directories node.dataDir).nonces

variable {trace : NodeTrace}

theorem enqueued_under {signed : PublicKey → List UInt8 → Prop}
    (unforgeable : Unforgeable platform.verifies signed)
    (steps : ∀ event ∈ trace, NodeStep platform event.before event.op event.result event.after)
    (enqueued : Enqueued platform node job trace) :
    ∃ authorization authority, QueuedUnder node signed job authorization authority trace := by
  obtain ⟨authorization, authority, now, carried, judged, before, after, recorded⟩ := enqueued
  refine ⟨authorization, authority, vetted_established unforgeable steps judged.toVetted, carried,
    judged.permission, ⟨_, recorded, rfl, ?_⟩⟩
  obtain ⟨nonces, call, moved⟩ := steps _ recorded
  change after = before.setNonces node.dataDir nonces at moved
  subst moved
  simpa [NodeState.setNonces] using records_ok_newly_spent call

/-- The data a Job message carries hands the job to the Sister its
authorization names. -/
def ForNamedExecutor (platform : Platform) (sent : Envelope) : Prop :=
  ∃ job authorization, (platform.jobData sent.data = .ok job ∨ sent.data = job.encode) ∧
    job.executor = sent.recipient ∧ job.authorization = some authorization ∧
    authorization.target = some (.sister job.executor)

variable {sent : Envelope}

theorem handed_on_named (handed : HandedOn platform node sent trace) :
    ForNamedExecutor platform sent := by
  rcases handed with ⟨job, authorization, _, _, decoded, recipient, carried, judged⟩ |
    ⟨job, now, authorization, _, encoded, carried, targeted⟩
  · exact ⟨job, authorization, Or.inl decoded, recipient.symm, carried, judged.targeted⟩
  · exact ⟨stolenJob node job sent.recipient now, authorization, Or.inr encoded, rfl, carried,
      targeted⟩

-- No nonce is spent before a Job message leaves, and none after.
theorem forwarding_spends_nothing (closed : node.allowUnauthenticatedOperations = false)
    {envelope : Envelope} {peer : Option AuthenticatedPeer}
    {final : RuntimeTask MisakaError (Option Envelope)}
    (run : Traces (NodeStep platform) (dispatchEnvelope platform node envelope peer) trace final)
    {event other : Event RuntimeOp RuntimeOp.Result NodeState} (member : event ∈ trace)
    (written : WritesEnvelope event.op sent) (isJob : sent.msgType = .job)
    (present : other ∈ trace) : ¬ RecordsNonce other.op := by
  intro records
  obtain ⟨later, earlier, rfl⟩ := List.append_of_mem member
  have owed := (traced_event_guarded (dispatch_guarded closed envelope peer) run rfl).1
  rcases List.mem_append.mp present with after | before
  · obtain ⟨later', earlier', rfl⟩ := List.append_of_mem after
    have split : later' ++ other :: earlier' ++ event :: earlier =
        later' ++ other :: (earlier' ++ event :: earlier) := by simp
    have clear := (traced_event_guarded (dispatch_guarded closed envelope peer) run split).1
    have quiet : ∀ e ∈ earlier' ++ event :: earlier, ¬ WritesJob e.op := by
      cases spent : other.op with
      | recordNonce directory authorization =>
        rw [spent] at clear
        exact clear
      | _ =>
        rw [spent] at records
        exact absurd records id
    exact quiet event (by simp) ⟨sent, written, isJob⟩
  · rcases List.mem_cons.mp before with rfl | before
    · cases spent : other.op with
      | recordNonce directory authorization =>
        rw [spent] at written
        exact written
      | _ =>
        rw [spent] at records
        exact records
    · exact (guard_of_written owed written isJob).1 other before records

/-- A job enters the queue only under an authorization judged and spent by this
dispatch; a job the dispatch itself had taken out may go back. A Job message
only leaves towards the Sister its authorization names, and no nonce is spent
in a dispatch that sends one. -/
theorem job_enqueue_sound {signed : PublicKey → List UInt8 → Prop}
    (closed : node.allowUnauthenticatedOperations = false)
    (unforgeable : Unforgeable platform.verifies signed)
    {envelope : Envelope} {peer : Option AuthenticatedPeer} {trace : NodeTrace}
    {final : RuntimeTask MisakaError (Option Envelope)}
    (run : Traces (NodeStep platform) (dispatchEnvelope platform node envelope peer) trace final) :
    (∀ later event earlier job, trace = later ++ event :: earlier →
      event.before.jobs.queue.count job < event.after.jobs.queue.count job →
      (∃ authorization authority, QueuedUnder node signed job authorization authority earlier) ∨
      TakenOut job earlier) ∧
    (∀ event ∈ trace, ∀ sent, WritesEnvelope event.op sent → sent.msgType = .job →
      ForNamedExecutor platform sent ∧
      ∀ other ∈ trace, other.after.directories = other.before.directories) := by
  constructor
  · intro later event earlier job split grows
    obtain ⟨owed, taken⟩ :=
      traced_event_guarded (dispatch_guarded closed envelope peer) run split
    have steps : ∀ e ∈ earlier, NodeStep platform e.before e.op e.result e.after := by
      intro e member
      exact traced_event_step run (by rw [split]; simp [member])
    rcases queue_growth taken grows with queued | returned
    · rw [queued] at owed
      exact Or.inl (enqueued_under unforgeable steps owed)
    · rw [returned] at owed
      exact Or.inr owed
  · intro event member sent written isJob
    obtain ⟨later, earlier, split⟩ := List.append_of_mem member
    have owed := (traced_event_guarded (dispatch_guarded closed envelope peer) run split).1
    refine ⟨handed_on_named (guard_of_written owed written isJob).2, ?_⟩
    intro other present
    exact silent_step_keeps_directories (traced_event_step run present)
      (forwarding_spends_nothing closed run member written isJob present)

theorem sample_job_queued :
    ∃ authorization authority, QueuedUnder sampleNode (fun _ _ => True)
      (localJob (sampleJob ["command=ls"] "ls")) authorization authority
      (jobTrace ["command=ls"] "ls").tail := by
  have run := sample_job_run (first_job_decoded ["command=ls"]) (by decide)
  have unforgeable : Unforgeable (jobPlatform ["command=ls"]).verifies fun _ _ => True :=
    fun _ _ _ _ => trivial
  rcases (job_enqueue_sound rfl unforgeable run).1 [] _ _ (localJob (sampleJob ["command=ls"] "ls"))
    rfl (by decide) with queued | ⟨⟨requester, allowed, before, after, member⟩, _⟩
  · exact queued
  · simp at member
end States
end Misaka.JobDispatch
