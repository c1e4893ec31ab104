import Misaka.JobDispatch
import Misaka.StreamPermission
import Misaka.TaskPool

/-!
Concurrent requests that carry one authorization. A request verifies it and
records its nonce in two steps, each with its own reading of the clock, and the
nonce file forgets an entry once the clock has passed its expiry. While nonces
are recorded in time, at most one of the requests is accepted; a request that
verified in time and records late finds the entry of another one gone.
-/

namespace Misaka.NonceReplay
open Bincode Identity Protocol AuthorizationStores EffectTask NodeRuntime AuthenticatedSession
open JobManager ControlChannel Dispatch HumanAuthorization JobDispatch TransferFiles StreamServices
open StreamPermission TaskPool
variable {platform : Platform} {node : NodeConfig}

inductive Request where
  | job (envelope : Envelope) (peer : Option AuthenticatedPeer)
  | stream (service : StreamService) (channel : NetworkStream)

abbrev Request.Err : Request → Type
  | .job _ _ => MisakaError
  | .stream _ _ => IoError

abbrev Request.Val : Request → Type
  | .job _ _ => Option Envelope
  | .stream _ _ => Unit

def Request.serve (platform : Platform) (node : NodeConfig) :
    (request : Request) → RuntimeTask request.Err request.Val
  | .job envelope peer => dispatchEnvelope platform node envelope peer
  | .stream service channel => service.receive platform (some node) channel

/-- The stream asks for something that takes a fresh nonce: of the v2 transfer
only the Prepare request does. -/
def Spends (platform : Platform) (stream : NetworkStream) (authorization : CommandAuthorization)
    (trace : NodeTrace) : StreamService → Prop
  | .transferV2 _ => ∃ request, FirstFrame platform.transferV2Request stream request trace ∧
      request.authorization = some authorization ∧ request.operation = .prepare
  | service => ∃ resource, service.Asks platform stream authorization resource trace

def SideEffect : RuntimeOp → Prop
  | .file _ | .tcpConnect _ => True
  | _ => False

-- The request does what the authorization was presented for.
def Request.Acts (platform : Platform) (authorization : CommandAuthorization) (trace : NodeTrace)
    (op : RuntimeOp) : Request → Prop
  | .job _ _ => ∃ job, op = .enqueue job ∧ job.authorization = some authorization
  | .stream service channel => SideEffect op ∧ Spends platform channel authorization trace service

/-- A request is accepted under an authorization when its nonce was recorded for
it, or when it went on to act. -/
def Accepted (platform : Platform) (node : NodeConfig) (authorization : CommandAuthorization)
    (request : Request) (trace : NodeTrace) : Prop :=
  Answered trace (.recordNonce node.dataDir authorization) (.ok ()) ∨
    ∃ later event earlier, trace = later ++ event :: earlier ∧
      request.Acts platform authorization earlier event.op

/-- What is owed before a request acts under an authorization. -/
def SpendGuard (platform : Platform) (node : NodeConfig) (request : Request) (trace : NodeTrace)
    (op : RuntimeOp) : Prop :=
  ∀ authorization, request.Acts platform authorization trace op →
    Answered trace (.recordNonce node.dataDir authorization) (.ok ())

section Jobs
variable {envelope : Envelope}
variable {peer : Option AuthenticatedPeer}

variable {trace : NodeTrace}

theorem spend_guard_of_not_enqueue {op : RuntimeOp} (other : ∀ job, op ≠ .enqueue job) :
    SpendGuard platform node (.job envelope peer) trace op := by
  rintro authorization ⟨job, queues, _⟩
  exact absurd queues (other job)

theorem verdict_op_spends (op : RuntimeOp) (deciding : VerdictOp op) :
    SpendGuard platform node (.job envelope peer) trace op := by
  apply spend_guard_of_not_enqueue
  rintro job rfl
  exact deciding.elim id id

theorem steal_op_spends (op : RuntimeOp) (steals : StealOp op) :
    SpendGuard platform node (.job envelope peer) trace op := by
  apply spend_guard_of_not_enqueue
  rintro job rfl
  exact steals

theorem judge_job_spec (job : JobData) (forward : Bool)
    (reading : ∀ event ∈ trace, JudgeOp event.op) :
    Holds (traceStep (NodeStep platform)) (SpendGuard platform node (.job envelope peer))
      (judgeJob platform node job forward)
      (fun longer _ => ∀ authorization, job.authorization = some authorization →
        forward = false → Answered longer (.recordNonce node.dataDir authorization) (.ok ()))
      (fun _ _ => True) trace := by
  unfold judgeJob
  cases job.authorization with
  | none => simp
  | some carried =>
    have judged := @authorize_job_spec platform node trace job forward carried reading
    apply holds_mono (holds_guarded (holds_guard_mono judged fun _ _ _ => trivial)
      (only_authorize_job job forward carried)
      fun _ op _ deciding => verdict_op_spends op deciding) _ (fun _ _ _ => trivial)
    rintro longer _ ⟨⟨_, _, executing⟩, _⟩ _ ⟨⟩
    exact executing

theorem dispatch_job_spends :
    Holds (traceStep (NodeStep platform)) (SpendGuard platform node (.job envelope peer))
      (dispatchJob platform node envelope) (fun _ _ => True) (fun _ _ => True) [] := by
  simp only [dispatchJob, holds_bind, holds_or_error, requireSideEffectAuthorization,
    holds_ensure, holds_pure, implies_true, and_true]
  intro job decoded
  apply holds_mono (holds_guarded (holds_guard_mono (will_forward_reads job) fun _ _ _ => trivial)
    (only_will_forward job) fun _ op _ deciding => verdict_op_spends op deciding) _
    (fun _ _ _ => trivial)
  rintro looked forward ⟨reading, _⟩ _
  apply holds_mono (judge_job_spec job forward reading) _ (fun _ _ _ => trivial)
  intro judged _ recorded
  cases forward with
  | true =>
    exact holds_mono (holds_of_only (only_send_fire_steal_op job.executor _)
      fun _ op _ steals => steal_op_spends op steals) (fun _ _ _ => trivial)
      (fun _ _ _ => trivial)
  | false =>
    refine (holds_trace_perform _).mpr ⟨?_, fun _ _ _ _ => trivial⟩
    rintro authorization ⟨queued, same, carried⟩
    cases same
    exact recorded authorization carried rfl

theorem dispatch_spends :
    Holds (traceStep (NodeStep platform)) (SpendGuard platform node (.job envelope peer))
      (dispatchEnvelope platform node envelope peer) (fun _ _ => True) (fun _ _ => True) [] := by
  have books : ∀ {task : RuntimeTask MisakaError (Option Envelope)},
      Only (BookOp platform node envelope peer) task →
      Holds (traceStep (NodeStep platform)) (SpendGuard platform node (.job envelope peer)) task
        (fun _ _ => True) (fun _ _ => True) [] := by
    intro task vocabulary
    apply holds_mono (holds_of_only vocabulary _) (fun _ _ _ => trivial) (fun _ _ _ => trivial)
    intro _ op _ keeps
    apply spend_guard_of_not_enqueue
    rintro job rfl
    exact keeps
  simp only [dispatchEnvelope, holds_bind, holds_ensure, implies_true, and_true]
  intro _ _
  unfold dispatchMessage
  split
  · simp
  · exact books (only_dispatch_hello envelope peer)
  · exact books (only_dispatch_state envelope peer)
  · exact dispatch_job_spends
  · exact books (only_dispatch_job_response envelope peer)
  · exact holds_mono (holds_of_only (only_dispatch_job_request envelope)
      fun _ op _ steals => steal_op_spends op steals) (fun _ _ _ => trivial) (fun _ _ _ => trivial)
  · exact books (only_dispatch_peer_records envelope peer)
  · simp
end Jobs

section Streams
variable {service : StreamService}
variable {channel : NetworkStream} {trace : NodeTrace}

theorem spend_guard_of_no_effect {op : RuntimeOp} (harmless : ¬ SideEffect op) :
    SpendGuard platform node (.stream service channel) trace op := by
  rintro authorization ⟨effect, _⟩
  exact absurd effect harmless

theorem verdict_op_has_no_effect (trace : NodeTrace) (op : RuntimeOp) (deciding : VerdictOp op) :
    SpendGuard platform node (.stream service channel) trace op := by
  apply spend_guard_of_no_effect
  intro effect
  unfold SideEffect at effect
  split at effect
  · exact deciding.elim id id
  · exact deciding.elim id id
  · exact effect

-- Once whatever the request can spend has been recorded, anything may follow.
theorem recorded_spends {task : RuntimeTask IoError Unit}
    (recorded : ∀ longer authorization, trace <:+ longer →
      Spends platform channel authorization longer service →
      Answered trace (.recordNonce node.dataDir authorization) (.ok ())) :
    Holds (traceStep (NodeStep platform)) (SpendGuard platform node (.stream service channel)) task
      (fun _ _ => True) (fun _ _ => True) trace := by
  apply holds_mono (holds_guard_mono (holds_trace_grows task) _) (fun _ _ _ => trivial)
    (fun _ _ _ => trivial)
  rintro longer op kept authorization ⟨_, spends⟩
  exact answered_suffix kept (recorded longer authorization kept spends)

theorem service_spends (service : StreamService) :
    Holds (traceStep (NodeStep platform)) (SpendGuard platform node (.stream service channel))
      (service.receive platform (some node) channel) (fun _ _ => True) (fun _ _ => True) [] := by
  have reads : ∀ trace count,
      SpendGuard platform node (.stream service channel) trace (.readExact channel count) :=
    fun _ _ => spend_guard_of_no_effect id
  cases service with
  | transfer | transferV1 | tunnel =>
    apply authorized_request_guarded reads verdict_op_has_no_effect
    intro trace request first passed
    apply recorded_spends
    rintro longer authorization grown ⟨_, asked, again, carried, _⟩
    obtain rfl := first_frame_unique (first_frame_suffix grown first) again
    exact passed.recorded authorization carried rfl
  | transferV2 storeRoot =>
    apply authorized_request_guarded reads verdict_op_has_no_effect
    intro trace request first passed
    apply recorded_spends
    rintro longer authorization grown ⟨asked, again, carried, prepares⟩
    obtain rfl := first_frame_unique (first_frame_suffix grown first) again
    exact passed.recorded authorization carried (by simp [prepares])
end Streams

section Acceptance
variable {authorization : CommandAuthorization}

theorem serve_spends (request : Request) :
    Holds (traceStep (NodeStep platform)) (SpendGuard platform node request)
      (request.serve platform node) (fun _ _ => True) (fun _ _ => True) [] := by
  cases request with
  | job envelope peer => exact dispatch_spends
  | stream service channel => exact service_spends service

/-- A request that acts under an authorization has recorded its nonce. -/
theorem accepted_records {request : Request} {trace : NodeTrace}
    {final : RuntimeTask request.Err request.Val}
    (run : Traces (NodeStep platform) (request.serve platform node) trace final)
    (accepted : Accepted platform node authorization request trace) :
    Answered trace (.recordNonce node.dataDir authorization) (.ok ()) := by
  rcases accepted with recorded | ⟨later, event, earlier, split, acts⟩
  · exact recorded
  · have owed := (traced_event_guarded (serve_spends request) run split).1
    have kept : earlier <:+ trace := by
      rw [split]
      exact (List.suffix_cons event earlier).trans (List.suffix_append later _)
    exact answered_suffix kept (owed authorization acts)

/-- Between the requests: time does not go back and nothing else writes the nonce
file. -/
structure Passes (directory : String) (before after : NodeState) : Prop where
  clock : before.clock ≤ after.clock
  nonces : (after.directories directory).nonces = (before.directories directory).nonces

/-- Time goes on, and a file that blocks the authorization blocks it for as long
as it is valid. -/
structure StaysBlocked (authorization : CommandAuthorization) (directory : String)
    (before after : NodeState) : Prop where
  clock : before.clock ≤ after.clock
  blocks : Blocks authorization (before.directories directory).nonces →
    after.clock ≤ authorization.expiresAt →
    Blocks authorization (after.directories directory).nonces

variable {op : RuntimeOp} {result : op.Result}

theorem step_keeps_clock {before after : NodeState}
    (taken : NodeStep platform before op result after) : after.clock = before.clock := by
  rcases node_step_cases taken with rfl | ⟨_, _, _, _, rfl⟩ | ⟨_, _, _, rfl⟩ |
    ⟨_, _, _, _, _, _, rfl⟩ | ⟨_, _, rfl⟩
  · rfl
  · rfl
  · rfl
  · rfl
  · rfl

variable {directory : String}

theorem step_stays_blocked {before after : NodeState}
    (taken : NodeStep platform before op result after) :
    StaysBlocked authorization directory before after := by
  have clock := step_keeps_clock taken
  refine ⟨by rw [clock]; exact UInt64.le_refl _, ?_⟩
  intro blocked valid
  by_cases records : RecordsNonce op
  · cases op with
    | recordNonce written other =>
      obtain ⟨nonces, call, rfl⟩ := taken
      by_cases same : directory = written
      · subst same
        simpa [NodeState.setNonces] using records_keep_blocked valid blocked call
      · simpa [NodeState.setNonces, Function.update_of_ne same] using blocked
    | _ => exact absurd records id
  · rw [silent_step_keeps_directories taken records]
    exact blocked

theorem stays_blocked_ascends {Index : Type} (directory : String) :
    Ascends (fun _ : Index => NodeStep platform) (Passes directory)
      (StaysBlocked authorization directory) where
  refl state := ⟨UInt64.le_refl _, fun blocked _ => blocked⟩
  trans := by
    intro first second third early late
    refine ⟨UInt64.le_trans early.clock late.clock, ?_⟩
    intro blocked valid
    exact late.blocks (early.blocks blocked (UInt64.le_trans late.clock valid)) valid
  stepped taken := step_stays_blocked taken
  moved := by
    intro state after passes
    refine ⟨passes.clock, ?_⟩
    intro blocked _
    rw [passes.nonces]
    exact blocked

-- The second of two recordings in time would have found the first.
theorem recorded_twice_false {first middle second last : NodeState}
    (early : NodeStep platform first (.recordNonce directory authorization) (.ok ()) middle)
    (late : NodeStep platform second (.recordNonce directory authorization) (.ok ()) last)
    (order : StaysBlocked authorization directory middle second)
    (valid : second.clock ≤ authorization.expiresAt) : False := by
  obtain ⟨written, call, rfl⟩ := early
  obtain ⟨rewritten, again, _⟩ := late
  have blocked : Blocks authorization (second.directories directory).nonces := by
    apply order.blocks _ valid
    simpa [NodeState.setNonces] using records_ok_blocks call
  exact blocked_never_recorded valid blocked again

abbrev requestPool {Index : Type} (platform : Platform) (node : NodeConfig)
    (requests : Index → Request) (state : NodeState) :
    Pool Index RuntimeOp RuntimeOp.Result (fun i => (requests i).Err) (fun i => (requests i).Val)
      NodeState :=
  Pool.start state fun i => (requests i).serve platform node

abbrev replayed : CommandAuthorization := sampleAuthorization .tunnelOpen ["remote=127.0.0.1:22"]

-- Two streams present the same authorization.
def twoTunnels (second : Bool) : Request :=
  .stream .tunnel (if second then ⟨1, none⟩ else ⟨0, none⟩)

def afterExpiry : NodeState := { sampleSpent replayed with clock := 11 }

def spentAgain : NodeState := afterExpiry.setNonces "data" (.present [nonceEntry replayed])

theorem late_spend :
    NodeStep (tunnelPlatform .tunnelOpen) afterExpiry (.recordNonce "data" replayed) (.ok ())
      spentAgain :=
  ⟨_, .written rfl, rfl⟩

def firstTunnel : NodeTrace :=
  tunnelCopies ⟨0, none⟩ (sampleSpent replayed) :: tunnelConnects (sampleSpent replayed) ::
    tunnelTrace .tunnelOpen ⟨0, none⟩ sampleState (sampleSpent replayed)

def secondVerified : NodeTrace :=
  (tunnelTrace .tunnelOpen ⟨1, none⟩ afterExpiry spentAgain).tail

def secondRecorded : NodeTrace :=
  [tunnelCopies ⟨1, none⟩ spentAgain, tunnelConnects spentAgain,
    ⟨afterExpiry, .recordNonce "data" replayed, .ok (), spentAgain⟩]

/-- The second stream verifies, the first is served to the end, the authorization
expires, and the second records its nonce. -/
theorem replay_run : ∃ pool,
    Run (fun _ => NodeStep (tunnelPlatform .tunnelOpen)) (Passes sampleNode.dataDir)
      (requestPool (tunnelPlatform .tunnelOpen) sampleNode twoTunnels sampleState) pool ∧
    pool.trace false = firstTunnel ∧ pool.trace true = secondRecorded ++ secondVerified := by
  let start := requestPool (tunnelPlatform .tunnelOpen) sampleNode twoTunnels sampleState
  have whole : Reaches (traceStep (NodeStep (tunnelPlatform .tunnelOpen))) (start.task true) []
      (.done ()) (secondRecorded ++ secondVerified) := tunnel_run rfl ⟨1, none⟩ late_spend
  obtain ⟨waiting, verifies, records⟩ := reaches_split whole List.nil_suffix
  have alone : Reaches (traceStep (NodeStep (tunnelPlatform .tunnelOpen))) (start.task false) []
      (.done ()) firstTunnel := tunnel_run rfl ⟨0, none⟩ (sample_spend .tunnelOpen)
  let verified := start.advance true waiting secondVerified sampleState
  let served := verified.advance false (.done ()) firstTunnel (sampleSpent replayed)
  let expired : Pool Bool RuntimeOp RuntimeOp.Result _ _ NodeState :=
    { served with shared := afterExpiry }
  have verifying : Chained sampleState secondVerified sampleState :=
    ⟨rfl, rfl, rfl, rfl, rfl, rfl⟩
  have serving : Chained sampleState firstTunnel (sampleSpent replayed) :=
    ⟨rfl, rfl, rfl, rfl, rfl, rfl, rfl, rfl, rfl⟩
  have recording : Chained afterExpiry secondRecorded spentAgain := ⟨rfl, rfl, rfl, rfl⟩
  have toVerified : Run (fun _ => NodeStep (tunnelPlatform .tunnelOpen))
      (Passes sampleNode.dataDir) start verified :=
    schedule true verifies verifying rfl rfl rfl
  have toServed : Run (fun _ => NodeStep (tunnelPlatform .tunnelOpen))
      (Passes sampleNode.dataDir) verified served :=
    schedule false alone serving rfl rfl rfl
  have expires : Passes sampleNode.dataDir (sampleSpent replayed) afterExpiry := ⟨by decide, rfl⟩
  have toRecorded : Run (fun _ => NodeStep (tunnelPlatform .tunnelOpen))
      (Passes sampleNode.dataDir) expired
      (expired.advance true (.done ()) (secondRecorded ++ secondVerified) spentAgain) :=
    schedule true records recording rfl rfl rfl
  refine ⟨_, ((toVerified.trans toServed).tail (.environment _ expires)).trans toRecorded, ?_, ?_⟩
  · rfl
  · rfl

theorem first_tunnel_accepted :
    Accepted (tunnelPlatform .tunnelOpen) sampleNode replayed (twoTunnels false) firstTunnel :=
  Or.inr ⟨[tunnelCopies _ _], tunnelConnects _, tunnelTrace .tunnelOpen _ _ _, rfl, trivial, _,
    tunnel_asks .tunnelOpen _ _ _⟩

/-- Of any requests served concurrently, at most one is accepted under an
authorization whose nonce is never recorded past its expiry. -/
theorem nonce_accepted_once {Index : Type} [DecidableEq Index] {requests : Index → Request}
    {state : NodeState}
    {pool : Pool Index RuntimeOp RuntimeOp.Result (fun i => (requests i).Err)
      (fun i => (requests i).Val) NodeState}
    (run : Run (fun _ => NodeStep platform) (Passes node.dataDir)
      (requestPool platform node requests state) pool)
    (timely : ∀ i, ∀ event ∈ pool.trace i,
      event.op = .recordNonce node.dataDir authorization →
      event.before.clock ≤ authorization.expiresAt)
    {left right : Index}
    (first : Accepted platform node authorization (requests left) (pool.trace left))
    (second : Accepted platform node authorization (requests right) (pool.trace right)) :
    left = right := by
  have leftRun := thread_traces run left
  have rightRun := thread_traces run right
  obtain ⟨before, after, recorded⟩ := accepted_records leftRun first
  obtain ⟨before', after', again⟩ := accepted_records rightRun second
  have early := traced_event_step leftRun recorded
  have late := traced_event_step rightRun again
  by_contra different
  rcases events_ordered (stays_blocked_ascends node.dataDir) run different recorded again with
    order | order
  · exact recorded_twice_false early late order (timely right _ again rfl)
  · exact recorded_twice_false late early order (timely left _ recorded rfl)

theorem served_tunnel_accepted_once : ∃ pool,
    Run (fun _ => NodeStep (tunnelPlatform .tunnelOpen)) (Passes sampleNode.dataDir)
      (requestPool (tunnelPlatform .tunnelOpen) sampleNode twoTunnels sampleState) pool ∧
    Accepted (tunnelPlatform .tunnelOpen) sampleNode replayed (twoTunnels false)
      (pool.trace false) ∧
    ∀ other, Accepted (tunnelPlatform .tunnelOpen) sampleNode replayed (twoTunnels other)
      (pool.trace other) → other = false := by
  have serving : Chained sampleState firstTunnel (sampleSpent replayed) :=
    ⟨rfl, rfl, rfl, rfl, rfl, rfl, rfl, rfl, rfl⟩
  have run : Run (fun _ => NodeStep (tunnelPlatform .tunnelOpen)) (Passes sampleNode.dataDir)
      (requestPool (tunnelPlatform .tunnelOpen) sampleNode twoTunnels sampleState) _ :=
    schedule false (tunnel_run rfl ⟨0, none⟩ (sample_spend .tunnelOpen)) serving rfl rfl rfl
  refine ⟨_, run, first_tunnel_accepted, ?_⟩
  intro other accepted
  refine nonce_accepted_once run ?_ accepted first_tunnel_accepted
  intro thread event member records
  cases thread with
  | true => cases member
  | false =>
    have listed : event ∈ firstTunnel := member
    simp only [firstTunnel, tunnelTrace, tunnelCopies, tunnelConnects, List.mem_cons,
      List.not_mem_nil, or_false] at listed
    rcases listed with rfl | rfl | rfl | rfl | rfl | rfl | rfl | rfl
    all_goals decide

/-- Both streams were let through with one nonce: the second recorded it after
the entry of the first had expired. -/
theorem expired_nonce_accepted_twice : ∃ pool,
    Run (fun _ => NodeStep (tunnelPlatform .tunnelOpen)) (Passes sampleNode.dataDir)
      (requestPool (tunnelPlatform .tunnelOpen) sampleNode twoTunnels sampleState) pool ∧
    Accepted (tunnelPlatform .tunnelOpen) sampleNode replayed (twoTunnels false)
      (pool.trace false) ∧
    Accepted (tunnelPlatform .tunnelOpen) sampleNode replayed (twoTunnels true)
      (pool.trace true) := by
  obtain ⟨pool, run, first, second⟩ := replay_run
  refine ⟨pool, run, ?_, ?_⟩
  · rw [first]
    exact first_tunnel_accepted
  · rw [second]
    exact Or.inr ⟨[tunnelCopies _ _], tunnelConnects _, tunnelTrace .tunnelOpen _ _ _, rfl, trivial,
      _, tunnel_asks .tunnelOpen _ _ _⟩
end Acceptance
end Misaka.NonceReplay
