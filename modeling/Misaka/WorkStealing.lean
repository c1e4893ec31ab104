import Misaka.ServiceMoves

/-!
Work stealing respects the authorization of a job. Every job in the queue was put
there by a local submission, without authorization, or by a handler that found it
authorized for this Sister; a requester is only handed a job that is authorized for
the requester, or any unauthorized one where the node allows unauthenticated
operations. With those disabled nothing in the queue may go to another Sister.
-/

namespace Misaka.WorkStealing
open Identity Protocol JobManager EffectTask NodeRuntime AuthenticatedSession Dispatch
open RelyGuarantee ControlChannel JobServices ServiceRoles ServiceMoves
variable {Index : Type} {node : NodeConfig} {platform : Platform}

section Invariant

/-- Every job in the queue, or on its way back to it, is placed here. -/
structure AllPlaced (node : NodeConfig) (board : Board Index) : Prop where
  queued : ∀ job ∈ board.node.jobs.queue, Placed node job
  offered : ∀ {thread job}, board.role thread = .offering job → Placed node job

variable {board after : Board Index} {thread : Index} {service : Service} {op : ServiceOp}

theorem drop_placed (placed : AllPlaced node board) (dropped : Drops board after) :
    AllPlaced node after := by
  obtain ⟨state, role, jobs, rfl, freed⟩ := dropped
  constructor
  · intro job member
    rw [jobs] at member
    exact placed.queued job member
  · intro thread job held
    rcases freed thread with same | ⟨free, -⟩
    · exact placed.offered (same.symm.trans held)
    · have impossible := free.symm.trans held
      cases impossible

-- With unauthenticated operations disabled, a placed job may go to this Sister only.
theorem placed_not_transferable {job : LocalJob} {requester : SisterId} (placed : Placed node job)
    (other : requester ≠ node.identity.id) : transferable job requester false = false := by
  unfold transferable
  split
  · rename_i authorization given
    have bound := placed authorization given
    rw [bound, beq_eq_false_iff_ne]
    intro same
    cases same
    exact other rfl
  · rfl

variable [DecidableEq Index]

theorem placed_update {role : TaskRole} (placed : AllPlaced node board)
    (roles : after.role = Function.update board.role thread role)
    (queue : ∀ job ∈ after.node.jobs.queue, Placed node job)
    (offers : ∀ job, role = .offering job → Placed node job) : AllPlaced node after := by
  refine ⟨queue, ?_⟩
  intro other job held
  rw [roles] at held
  by_cases here : other = thread
  · subst here
    rw [Function.update_self] at held
    exact offers job held
  · rw [Function.update_of_ne here] at held
    exact placed.offered held

theorem move_placed (placed : AllPlaced node board)
    (move : Move node service op thread board after) : AllPlaced node after := by
  cases move with
  | looks state envelopes same =>
    refine ⟨?_, placed.offered⟩
    intro job member
    rw [same] at member
    exact placed.queued job member
  | enqueues job held accepted queued own =>
    refine placed_update placed rfl ?_ (fun _ impossible => by cases impossible)
    intro other member
    rcases List.mem_append.mp member with before | new
    · exact placed.queued other before
    · rw [List.mem_singleton.mp new]
      exact own
  | offers job requester jobs held asked popping =>
    have out := (pop_transferable_some popping).2
    refine placed_update placed rfl ?_ ?_
    · intro other member
      exact placed.queued other (out.mem_iff.mpr (List.mem_cons_of_mem _ member))
    · intro other same
      cases same
      exact placed.queued job (out.mem_iff.mpr List.mem_cons_self)
  | takes job jobs held worker popping =>
    refine placed_update placed rfl ?_ (fun _ impossible => by cases impossible)
    intro other member
    apply placed.queued other
    rw [(pop_some popping).1]
    exact List.mem_cons_of_mem _ member
  | putsBack job held =>
    refine placed_update placed rfl ?_ (fun _ impossible => by cases impossible)
    intro other member
    rcases List.mem_append.mp member with before | new
    · exact placed.queued other before
    · rw [List.mem_singleton.mp new]
      exact placed.offered held
  | transfers job requester now held sent =>
    refine placed_update placed rfl ?_ (fun _ impossible => by cases impossible)
    intro other member
    apply placed.queued other
    rw [← mark_transferred_queue board.node.jobs job.id]
    exact member
  | begins job startedAt held | finishes job result held =>
    refine placed_update placed rfl ?_ (fun _ impossible => by cases impossible)
    intro other member
    apply placed.queued other
    rw [← modify_queue board.node.jobs job.id _]
    exact member
  | draws _ _ _ | beginsInline _ _ _ _ | executes _ _ | reserves _ _ _ _ | cancels _ _ _
  | stopsWaiting _ _ _ _ | resolves _ _ _ _ | misses _ _ _ | delivers _ _ _ _ =>
    exact placed_update placed rfl placed.queued (fun _ impossible => by cases impossible)

/-- A handler for another Sister takes nothing out of the queue. -/
theorem move_keeps_queue (closed : node.allowUnauthenticatedOperations = false)
    (placed : AllPlaced node board) {sender : SisterId}
    (asked : service.requester = some sender) (other : sender ≠ node.identity.id)
    (move : Move node service op thread board after) :
    board.node.jobs.queue <+: after.node.jobs.queue := by
  cases move with
  | looks state envelopes same =>
    rw [same]
  | enqueues job held accepted queued own | putsBack job held => exact List.prefix_append _ _
  | offers job requester jobs held requested popping =>
    rw [asked] at requested
    cases requested
    obtain ⟨eligible, out⟩ := pop_transferable_some popping
    have mine := placed.queued job (out.mem_iff.mpr List.mem_cons_self)
    rw [closed, placed_not_transferable mine other] at eligible
    cases eligible
  | takes job jobs held worker popping =>
    rw [asked] at worker
    cases worker
  | transfers job requester now held sent =>
    change _ <+: (board.node.jobs.markTransferred job.id).queue
    rw [mark_transferred_queue]
  | begins job startedAt held =>
    change _ <+: (board.node.jobs.markRunning job.id startedAt).queue
    rw [Jobs.markRunning, modify_queue]
  | finishes job result held =>
    change _ <+: (board.node.jobs.markFinished job.id result).queue
    rw [Jobs.markFinished, modify_queue]
  | draws _ _ _ | beginsInline _ _ _ _ | executes _ _ | reserves _ _ _ _ | cancels _ _ _
  | stopsWaiting _ _ _ _ | resolves _ _ _ _ | misses _ _ _ | delivers _ _ _ _ =>
    exact List.prefix_rfl
end Invariant

section Runs
variable [DecidableEq Index]
variable {services : Index → Service} {state : NodeState} {before after : ServiceCrew Index}

theorem run_placed
    (run : ServiceRun platform Unrestricted (opening platform node services state) after) :
    AllPlaced node after.shared := by
  refine service_invariant ⟨?_, ?_⟩ ?_ ?_ run
  · intro job member
    cases member
  · intro thread job held
    cases held
  · intro thread op next before after _ _ move placed
    exact move_placed placed move
  · intro before after _ dropped placed
    exact drop_placed placed dropped

-- A request whose sender is not the authenticated Sister is refused at once.
theorem forged_sender_ends {envelope : Envelope} {peer : Option AuthenticatedPeer}
    (forged : senderMatchesPeer peer envelope.sender = false) (op : ServiceOp)
    (next : op.Result → ServiceTask MisakaError (Option JobResultData)) :
    (Service.handler envelope peer).program platform node ≠ .call op next := by
  change runtime (dispatchEnvelope platform node envelope peer) >>= _ ≠ _
  unfold dispatchEnvelope
  rw [forged]
  cases envelope.networkId == node.networkId with
  | true | false =>
    intro impossible
    cases impossible
end Runs

/-! A request that transfers nothing takes the first job the requester may have out of
the queue, wherever it stands, and puts it back at the end. -/
section Refusals
variable {before after : NodeState}

-- The handler is alone with the node, and no job is transferred.
def RefusingStep (platform : Platform) (before : NodeState) (op : RuntimeOp) (result : op.Result)
    (after : NodeState) : Prop :=
  NodeStep platform before op result after ∧ ∀ id, op ≠ .markTransferred id

def Requeued (queue after : List LocalJob) (requester : SisterId) (allowed : Bool) : Prop :=
  ((∀ job ∈ queue, transferable job requester allowed = false) ∧ after = queue) ∨
  ∃ earlier job later, queue = earlier ++ job :: later ∧
    (∀ other ∈ earlier, transferable other requester allowed = false) ∧
    transferable job requester allowed = true ∧ after = earlier ++ later ++ [job]

/-- Behind the first job the requester may have there is no other job. -/
def EligibleLast (queue : List LocalJob) (requester : SisterId) (allowed : Bool) : Prop :=
  ∀ earlier job later, queue = earlier ++ job :: later →
    (∀ other ∈ earlier, transferable other requester allowed = false) →
    transferable job requester allowed = true → ∀ other ∈ later, other = job

-- The queue after the request.
def returned (queue : List LocalJob) (requester : SisterId) (allowed : Bool) : List LocalJob :=
  match popWhere (transferable · requester allowed) queue with
  | some (job, rest) => rest ++ [job]
  | none => queue

variable {wanted : LocalJob → Bool} {queue : List LocalJob}

theorem pop_where_none (nothing : popWhere wanted queue = none) :
    ∀ job ∈ queue, wanted job = false := by
  induction queue with
  | nil => simp
  | cons head tail ih =>
    rw [popWhere] at nothing
    split at nothing
    · cases nothing
    · rename_i missed
      refine List.forall_mem_cons.mpr ⟨Bool.eq_false_iff.mpr missed, ih ?_⟩
      exact Option.map_eq_none_iff.mp nothing

variable {job : LocalJob}

theorem pop_where_split {rest : List LocalJob} (popped : popWhere wanted queue = some (job, rest)) :
    ∃ earlier later, queue = earlier ++ job :: later ∧ rest = earlier ++ later ∧
      (∀ other ∈ earlier, wanted other = false) ∧ wanted job = true := by
  induction queue generalizing rest with
  | nil => cases popped
  | cons head tail ih =>
    rw [popWhere] at popped
    split at popped
    · rename_i hit
      cases popped
      exact ⟨[], tail, rfl, rfl, by simp, hit⟩
    · rename_i missed
      obtain ⟨⟨found, left⟩, deeper, same⟩ := Option.map_eq_some_iff.mp popped
      cases same
      obtain ⟨earlier, later, queued, remaining, before, hit⟩ := ih deeper
      refine ⟨head :: earlier, later, congrArg _ queued, congrArg _ remaining, ?_, hit⟩
      exact List.forall_mem_cons.mpr ⟨Bool.eq_false_iff.mpr missed, before⟩

-- Moving a job behind the others changes nothing only if they are all the same.
theorem rotated_same {later : List LocalJob} :
    later ++ [job] = job :: later ↔ ∀ other ∈ later, other = job := by
  induction later with
  | nil => simp
  | cons head tail ih =>
    rw [List.forall_mem_cons, List.cons_append, List.cons.injEq]
    constructor
    · rintro ⟨rfl, same⟩
      exact ⟨rfl, ih.mp same⟩
    · rintro ⟨rfl, same⟩
      exact ⟨rfl, ih.mpr same⟩

-- The first job the requester may have stands in one place only.
theorem first_place {earlier later first behind : List LocalJob} {job found : LocalJob}
    (same : earlier ++ job :: later = first ++ found :: behind)
    (unwanted : ∀ other ∈ earlier, wanted other = false) (hit : wanted job = true)
    (before : ∀ other ∈ first, wanted other = false) (eligible : wanted found = true) :
    job = found ∧ later = behind := by
  have skipped : ∀ {front back : List LocalJob} {head : LocalJob},
      (∀ other ∈ front, wanted other = false) → wanted head = true →
      (front ++ head :: back).takeWhile (fun other => !wanted other) = front := by
    intro front back head out inside
    rw [List.takeWhile_append_of_pos fun other member => by rw [out other member]; rfl]
    simp [inside]
  have front : earlier = first := by
    rw [← skipped unwanted hit, same, skipped before eligible]
  subst front
  exact List.cons.inj (List.append_cancel_left same)

variable {requester : SisterId} {allowed : Bool}

theorem returned_same :
    returned queue requester allowed = queue ↔ EligibleLast queue requester allowed := by
  unfold returned
  split
  · rename_i job rest popped
    obtain ⟨earlier, later, rfl, rfl, unwanted, hit⟩ := pop_where_split popped
    rw [List.append_assoc, List.append_cancel_left_eq, rotated_same]
    constructor
    · intro same first found behind queued before eligible
      obtain ⟨rfl, rfl⟩ := first_place queued unwanted hit before eligible
      exact same
    · intro last
      exact last earlier job later rfl unwanted hit
  · rename_i nothing
    simp only [true_iff]
    rintro earlier job later rfl unwanted hit
    have missed := pop_where_none nothing job (by simp)
    rw [missed] at hit
    cases hit

theorem returned_requeued :
    Requeued queue (returned queue requester allowed) requester allowed := by
  unfold returned
  split
  · rename_i job rest popped
    obtain ⟨earlier, later, queued, rfl, unwanted, hit⟩ := pop_where_split popped
    exact Or.inr ⟨earlier, job, later, queued, unwanted, hit, rfl⟩
  · rename_i nothing
    exact Or.inl ⟨pop_where_none nothing, rfl⟩

-- Sending to a peer leaves the jobs alone.
theorem send_keeps_jobs {jobs : Jobs} (peer : SisterId) (envelope : Envelope)
    (start : before.jobs = jobs) :
    Holds (RefusingStep platform) (fun _ _ => True) (sendFireToPeer platform node peer envelope)
      (fun state _ => state.jobs = jobs) (fun state _ => state.jobs = jobs) before := by
  refine holds_keeps (only_send_fire_to_peer peer envelope) (fun _ _ _ _ => trivial) ?_ start
  intro state op result next sends taken kept
  exact (quiet_jobs (send_op_quiet envelope op sends) taken.1).trans kept

theorem push_back_returns {Err : Type} {failed : NodeState → Err → Prop}
    (returning : before.jobs.queue ++ [job] = queue) :
    Holds (RefusingStep platform) (fun _ _ => True)
      (perform (RuntimeOp.pushBack job) : RuntimeTask Err Unit)
      (fun state _ => state.jobs.queue = queue) failed before := by
  rw [holds_perform]
  refine ⟨trivial, ?_⟩
  rintro result after ⟨rfl, -⟩
  exact returning

theorem transfer_refused (requester : SisterId) (returning : before.jobs.queue ++ [job] = queue) :
    Holds (RefusingStep platform) (fun _ _ => True) (transferJob platform node job requester)
      (fun state _ => state.jobs.queue = queue) (fun _ _ => True) before := by
  rw [transferJob, holds_bind, holds_perform]
  refine ⟨trivial, fun now later taken => ?_⟩
  have same : later.jobs = before.jobs := @quiet_jobs platform .nowSecs _ _ _ trivial taken.1
  rw [holds_bind, holds_attempt]
  refine holds_mono (send_keeps_jobs requester _ same) ?_ ?_
  · intro state _ kept
    rw [holds_perform]
    refine ⟨trivial, ?_⟩
    rintro result after ⟨-, impossible⟩
    exact absurd rfl (impossible job.id)
  · intro state error kept
    apply push_back_returns
    rw [kept, returning]

theorem request_refused (envelope : Envelope) :
    Holds (RefusingStep platform) (fun _ _ => True) (dispatchJobRequest platform node envelope)
      (fun state _ => state.jobs.queue =
        returned before.jobs.queue envelope.sender node.allowUnauthenticatedOperations)
      (fun _ _ => True) before := by
  rw [dispatchJobRequest, holds_bind, holds_perform]
  refine ⟨trivial, fun row later looked => ?_⟩
  rw [holds_bind, holds_perform]
  refine ⟨trivial, ?_⟩
  rintro popped state ⟨⟨jobs, popping, rfl⟩, -⟩
  have same : later.jobs = before.jobs := @quiet_jobs platform (.peerGet _) _ _ _ trivial looked.1
  rw [same] at popping
  rw [holds_bind]
  simp only [holds_pure]
  unfold Jobs.popTransferable at popping
  unfold returned
  generalize popWhere _ before.jobs.queue = found at popping ⊢
  cases found with
  | some found =>
    cases popping
    rw [answerJobRequest]
    split
    · exact transfer_refused envelope.sender rfl
    · exact push_back_returns rfl
  | none =>
    cases popping
    rw [answerJobRequest]
    split
    · rw [holds_bind, holds_attempt]
      refine holds_mono (send_keeps_jobs envelope.sender _ rfl) ?_ ?_
      · intro state _ kept
        exact (holds_pure _).mpr (congrArg Jobs.queue kept)
      · intro state error kept
        exact (holds_pure _).mpr (congrArg Jobs.queue kept)
    · exact (holds_pure _).mpr rfl

/-! A Sister the node does not know asks for work. -/

def developmentConfig : NodeConfig := { sampleNode with allowUnauthenticatedOperations := true }

def strangerRequest : Envelope := Envelope.new sampleNetwork .jobRequest 2 1 []

def queuedState (ids : List String) : NodeState :=
  { sampleState with jobs := { Jobs.new with queue := ids.map fun id => LocalJob.new id "true" } }

theorem stranger_puts_back (id : String) (rest : List String) :
    Reaches (RefusingStep samplePlatform)
      (dispatchEnvelope samplePlatform developmentConfig strangerRequest none)
      (queuedState (id :: rest)) (.done none) (queuedState (rest ++ [id])) := by
  have unknown : sampleState.peers.get 2 = none := Finmap.lookup_empty 2
  have looked : RefusingStep samplePlatform (queuedState (id :: rest)) (.peerGet 2) none
      (queuedState (id :: rest)) := ⟨⟨unknown.symm, rfl⟩, by simp⟩
  have popped : RefusingStep samplePlatform (queuedState (id :: rest)) (.popTransferable 2 true)
      (some (LocalJob.new id "true")) (queuedState rest) := ⟨⟨_, rfl, rfl⟩, by simp⟩
  have returned : RefusingStep samplePlatform (queuedState rest)
      (.pushBack (LocalJob.new id "true")) () (queuedState (rest ++ [id])) := by
    refine ⟨?_, by simp⟩
    simp [NodeStep, queuedState, Jobs.pushBack]
  exact .next looked (.next popped (.next returned (.here _ _)))
end Refusals

/-! A Sister that asks for work while a local job waits. -/

def workRequest : Envelope := Envelope.new sampleNetwork .jobRequest 2 1 []

def askedServices : Fin 2 → Service
  | 0 => .submitLocal "true"
  | 1 => .handler workRequest none

def askedStart : ServiceCrew (Fin 2) :=
  opening samplePlatform sampleNode askedServices (ControlChannel.peeredState [])

theorem asked_handler : askedStart.task 1 =
    runtime (dispatchJobRequest samplePlatform sampleNode workRequest) >>= fun _ => pure none := by
  rfl

-- The job is in the queue, and the handler knows the requester and looks for a job.
theorem asked_reached : ∃ crew next,
    ServiceRun samplePlatform Unrestricted askedStart crew ∧
    crew.shared.node.jobs =
      Jobs.new.enqueue { LocalJob.new "job-1" "true" with creator := 1 } ∧
    crew.task 1 = .call (.runtime (.popTransferable 2 false)) next := by
  have submits : Reaches (fun board op result after => AnyOp board op ∧
      Acts samplePlatform 0 board op result after) (askedStart.task 0) askedStart.shared
      (.done none) _ :=
    .next ⟨trivial, acts_with "job-1" List.not_mem_nil rfl⟩
      (.next ⟨trivial, acts_with () trivial rfl⟩ (.here _ _))
  have submitted := run_alone (any_op_allowed 0) submits
  let shared := (askedStart.shared.record 0 .newJobId "job-1" askedStart.shared.node).record 0
    (.runtime (.enqueue { LocalJob.new "job-1" "true" with creator := 1 })) ()
    { askedStart.shared.node with
      jobs := Jobs.new.enqueue { LocalJob.new "job-1" "true" with creator := 1 } }
  have looks : ∃ next after, Reaches (fun board op result after => AnyOp board op ∧
      Acts samplePlatform 1 board op result after) (askedStart.task 1) shared
      (.call (.runtime (.popTransferable 2 false)) next) after ∧
      after.node.jobs = Jobs.new.enqueue { LocalJob.new "job-1" "true" with creator := 1 } := by
    refine ⟨_, _, .next ⟨trivial,
      acts_with (some (ControlChannel.sampleRow [])) trivial ⟨?_, rfl⟩⟩ (.here _ _), rfl⟩
    exact (ControlChannel.peered_row []).symm
  obtain ⟨next, after, asks, jobs⟩ := looks
  exact ⟨_, next, submitted.trans (run_alone (any_op_allowed 1) asks), jobs, rfl⟩
end Misaka.WorkStealing
