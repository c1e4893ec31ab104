import Misaka.ServiceMoves

/-!
The books of the job manager. The queue and the map of records are changed by
different steps; between them a job is in the variables of the task that popped
it. As long as no job is accepted under an id that is already recorded, the ids
recorded as queued are the ids in the queue and in those variables, and a record
only moves from queued to running or transferred and from running to its end.
-/

namespace Misaka.JobLedger
open Identity Protocol JobManager EffectTask NodeRuntime Dispatch RelyGuarantee JobServices
open ServiceRoles ServiceMoves

section Lists

def ids (jobs : List LocalJob) : List String := jobs.map (·.id)

theorem ids_cons (job : LocalJob) (jobs : List LocalJob) :
    ids (job :: jobs) = job.id :: ids jobs := rfl

variable {jobs : List LocalJob}

theorem ids_perm {others : List LocalJob} (same : jobs.Perm others) :
    (ids jobs).Perm (ids others) := same.map _

variable {job : LocalJob}

theorem mem_ids (member : job ∈ jobs) :
    job.id ∈ ids jobs := List.mem_map_of_mem member

-- Among distinct ids, taking out an id takes out the job itself.
theorem erase_id_perm (distinct : (ids jobs).Nodup) (member : job ∈ jobs) :
    jobs.Perm (job :: jobs.eraseP (·.id == job.id)) := by
  induction jobs with
  | nil => cases member
  | cons first rest ih =>
    obtain ⟨fresh, distinct⟩ := List.nodup_cons.mp distinct
    rcases List.mem_cons.mp member with rfl | later
    · simp
    · have different : first.id ≠ job.id := by
        intro same
        have listed := mem_ids later
        rw [← same] at listed
        exact fresh listed
      rw [List.eraseP_cons_of_neg (by simpa using different)]
      exact ((ih distinct later).cons first).trans (List.Perm.swap _ _ _)

theorem mem_erase_id {other : LocalJob} (member : other ∈ jobs) (different : other.id ≠ job.id) :
    other ∈ jobs.eraseP (·.id == job.id) := by
  rw [List.mem_eraseP_of_neg (by simpa using different)]
  exact member
end Lists

section Books
variable {Index : Type}

-- The jobs in the queue and those popped and not yet marked.
def waiting (board : Board Index) : List LocalJob := board.node.jobs.queue ++ board.popped

def status (board : Board Index) (id : String) : Option JobStatus := board.node.jobs.status id

-- Two tasks never have jobs of one id in hand.
def Apart (pick : TaskRole → Option LocalJob) (role : Index → TaskRole) : Prop :=
  ∀ {thread other job another}, pick (role thread) = some job → pick (role other) = some another →
    job.id = another.id → thread = other

/-- Who has which job in hand. -/
structure Hands (board : Board Index) : Prop where
  popped : ∀ {thread job}, (board.role thread).poppedJob = some job → job ∈ board.popped
  running : ∀ {thread job}, (board.role thread).runningJob = some job →
    status board job.id = some .running
  poppedApart : Apart TaskRole.poppedJob board.role
  runningApart : Apart TaskRole.runningJob board.role

structure Ledger (board : Board Index) : Prop where
  distinct : (ids (waiting board)).Nodup
  queued : ∀ id, status board id = some .queued ↔ id ∈ ids (waiting board)
  hands : Hands board

/-- The life of a record. -/
def StatusStep (before after : Option JobStatus) : Prop :=
  after = before ∨
  (before = none ∧ (after = some .queued ∨ after = some .running)) ∨
  (before = some .queued ∧ (after = some .running ∨ after = some .transferred)) ∨
  (before = some .running ∧ (after = some .completed ∨ after = some .failed))

def AcceptsFresh (actor : Option Index) (before _ : ServiceCrew Index) : Prop :=
  ∀ thread op next job, actor = some thread → before.task thread = .call op next →
    op.accepts = some job → job.id ∉ before.shared.node.jobs.jobs

-- The condition as a check of single operations.
def FreshOp (board : Board Index) (op : ServiceOp) : Prop :=
  ∀ job, op.accepts = some job → job.id ∉ board.node.jobs.jobs

theorem fresh_op_allowed (thread : Index) (before after : ServiceCrew Index) (op : ServiceOp)
    (next : op.Result → ServiceTask MisakaError (Option JobResultData))
    (running : before.task thread = .call op next) (fit : FreshOp before.shared op) :
    AcceptsFresh (some thread) before after := by
  intro other op' next' job same running' accepted
  cases same
  rw [running] at running'
  cases running'
  exact fit job accepted

variable {board after : Board Index} {thread : Index}

variable {job : LocalJob}

theorem popped_status (ledger : Ledger board) (held : (board.role thread).poppedJob = some job) :
    status board job.id = some .queued :=
  (ledger.queued job.id).mpr (mem_ids (List.mem_append_right _ (ledger.hands.popped held)))

theorem unrecorded_status {id : String} (fresh : id ∉ board.node.jobs.jobs) :
    status board id = none := by
  by_contra known
  obtain ⟨status, recorded⟩ := Option.ne_none_iff_exists'.mp known
  exact fresh (recorded_status.mpr ⟨status, recorded⟩)

variable (ledger : Ledger board)
include ledger

-- The first element of the popped jobs that has the id is the job itself.
theorem popped_ids_distinct : (ids board.popped).Nodup := by
  have distinct := ledger.distinct
  rw [waiting, ids, List.map_append] at distinct
  exact distinct.of_append_right

theorem marked_perm (held : (board.role thread).poppedJob = some job) :
    (waiting board).Perm
      (job :: (board.node.jobs.queue ++ board.popped.eraseP (·.id == job.id))) := by
  have out := erase_id_perm (popped_ids_distinct ledger) (ledger.hands.popped held)
  exact (out.append_left _).trans List.perm_middle

-- The waiting jobs are the same, in another order.
theorem waiting_kept (same : (waiting after).Perm (waiting board))
    (kept : ∀ id, status after id = some .queued ↔ status board id = some .queued)
    (hands : Hands after) : Ledger after where
  distinct := (ids_perm same).nodup_iff.mpr ledger.distinct
  queued id := by
    rw [kept, ledger.queued, (ids_perm same).mem_iff]
  hands := hands

theorem waiting_added (same : (waiting after).Perm (job :: waiting board))
    (unknown : status board job.id = none)
    (added : ∀ id, status after id = if id = job.id then some .queued else status board id)
    (hands : Hands after) : Ledger after where
  distinct := by
    have fresh : job.id ∉ ids (waiting board) := by
      rw [← ledger.queued, unknown]
      simp
    exact (ids_perm same).nodup_iff.mpr (List.nodup_cons.mpr ⟨fresh, ledger.distinct⟩)
  queued id := by
    rw [added, (ids_perm same).mem_iff, ids_cons]
    split
    · rename_i here
      simp [here]
    · rename_i elsewhere
      simpa [elsewhere] using ledger.queued id
  hands := hands

variable {marked : JobStatus}

theorem waiting_removed (same : (waiting board).Perm (job :: waiting after))
    (removed : ∀ id, status after id = if id = job.id then some marked else status board id)
    (settled : marked ≠ .queued) (hands : Hands after) : Ledger after := by
  obtain ⟨fresh, distinct⟩ := List.nodup_cons.mp
    ((ids_perm same).nodup_iff.mp ledger.distinct)
  refine ⟨distinct, fun id => ?_, hands⟩
  rw [removed]
  split
  · rename_i here
    subst here
    simp only [Option.some.injEq, settled, false_iff]
    exact fresh
  · rename_i elsewhere
    rw [ledger.queued, (ids_perm same).mem_iff, ids_cons]
    simp [elsewhere]

omit ledger

/-- Jobs in hand are as they should be, and in one hand only. -/
def Kept (pick : TaskRole → Option LocalJob) (fit : LocalJob → Prop) (roles : Index → TaskRole) :
    Prop :=
  (∀ {thread job}, pick (roles thread) = some job → fit job) ∧ Apart pick roles

theorem hands_kept (popped : Kept TaskRole.poppedJob (· ∈ after.popped) after.role)
    (running : Kept TaskRole.runningJob (fun job => status after job.id = some .running)
      after.role) : Hands after :=
  ⟨popped.1, running.1, popped.2, running.2⟩

variable {jobs : Jobs}

theorem marked_step
    (marks : ∀ id, jobs.status id = if id = job.id then some marked else status board id)
    (step : StatusStep (status board job.id) (some marked)) (id : String) :
    StatusStep (status board id) (jobs.status id) := by
  rw [marks]
  split
  · rename_i same
    rw [same]
    exact step
  · exact Or.inl rfl

-- No task has a job in hand that it had not before.
theorem ledger_carried (ledger : Ledger board)
    (queue : after.node.jobs.queue = board.node.jobs.queue) (popped : after.popped = board.popped)
    (statuses : ∀ id, status after id = status board id)
    (takes : ∀ {thread job}, (after.role thread).poppedJob = some job →
      (board.role thread).poppedJob = some job)
    (runs : ∀ {thread job}, (after.role thread).runningJob = some job →
      (board.role thread).runningJob = some job) : Ledger after := by
  refine waiting_kept ledger ?_ (fun id => by rw [statuses]) ?_
  · rw [waiting, queue, popped]
    exact List.Perm.refl _
  · constructor
    · intro thread job held
      exact popped ▸ ledger.hands.popped (takes held)
    · intro thread job held
      exact (statuses _).trans (ledger.hands.running (runs held))
    · intro thread other job another held heldToo
      exact ledger.hands.poppedApart (takes held) (takes heldToo)
    · intro thread other job another held heldToo
      exact ledger.hands.runningApart (runs held) (runs heldToo)

variable {other : Index} {pick : TaskRole → Option LocalJob} {another : LocalJob}
variable {roles : Index → TaskRole}

-- Someone else's job has another id than one's own.
theorem others_differ (apart : Apart pick roles) (held : pick (roles thread) = some job)
    (different : other ≠ thread) (heldToo : pick (roles other) = some another) :
    another.id ≠ job.id :=
  fun same => different (apart heldToo held same)

theorem unknown_not_running (ledger : Ledger board) (unknown : status board job.id = none)
    (busy : (board.role other).runningJob = some another) :
    another.id ≠ job.id := by
  intro same
  have works := ledger.hands.running busy
  rw [same, unknown] at works
  cases works

-- A job that comes off the queue is in nobody's hands yet.
theorem waiting_id_new (ledger : Ledger board)
    (out : board.node.jobs.queue.Perm (job :: jobs.queue))
    (held : (board.role other).poppedJob = some another) : job.id ≠ another.id := by
  intro same
  have distinct := (ids_perm (out.append_right board.popped)).nodup_iff.mp ledger.distinct
  have fresh := (List.nodup_cons.mp distinct).1
  apply fresh
  change job.id ∈ ids (jobs.queue ++ board.popped)
  rw [same]
  exact mem_ids (List.mem_append_right _ (ledger.hands.popped held))

theorem drop_status (dropped : Drops board after) (id : String) :
    status after id = status board id := by
  obtain ⟨state, role, jobs, rfl, -⟩ := dropped
  change state.jobs.status id = _
  rw [jobs]
  rfl

theorem drop_ledger (ledger : Ledger board) (dropped : Drops board after) : Ledger after := by
  have statuses := drop_status dropped
  obtain ⟨state, role, jobs, rfl, freed⟩ := dropped
  have kept : ∀ {pick : TaskRole → Option LocalJob} {thread job}, pick .free = none →
      pick (role thread) = some job → pick (board.role thread) = some job := by
    intro pick thread job nothing held
    rcases freed thread with same | ⟨free, -⟩
    · exact same ▸ held
    · rw [free, nothing] at held
      cases held
  exact ledger_carried ledger (congrArg Jobs.queue jobs) rfl statuses (kept rfl) (kept rfl)

theorem start_ledger (state : NodeState) : Ledger (Board.start Index state) where
  distinct := List.nodup_nil
  queued id := by
    have empty : status (Board.start Index state) id = none := rfl
    rw [empty]
    simp [waiting, ids, Board.start, Jobs.new]
  hands := by
    constructor
    · intro thread job held
      cases held
    · intro thread job held
      cases held
    · intro thread other job another held
      cases held
    · intro thread other job another held
      cases held

theorem ledger_count (ledger : Ledger board) :
    board.node.jobs.countQueued = board.node.jobs.queue.length + board.popped.length := by
  rw [count_queued_ids ledger.distinct ledger.queued, ids, List.length_map, waiting,
    List.length_append]

variable [DecidableEq Index]

variable {role : TaskRole}

-- A job that comes into one task's hands must be in nobody else's.
theorem apart_update (apart : Apart pick roles)
    (fresh : ∀ job other another, pick role = some job → other ≠ thread → pick (roles other) =
      some another → job.id ≠ another.id) :
    Apart pick (Function.update roles thread role) := by
  intro first second job another held heldToo same
  by_cases here : first = thread
  · by_cases there : second = thread
    · exact here.trans there.symm
    · subst here
      rw [Function.update_self] at held
      rw [Function.update_of_ne there] at heldToo
      exact absurd same (fresh job second another held there heldToo)
  · rw [Function.update_of_ne here] at held
    by_cases there : second = thread
    · subst there
      rw [Function.update_self] at heldToo
      exact absurd same.symm (fresh another first job heldToo here held)
    · rw [Function.update_of_ne there] at heldToo
      exact apart held heldToo same

variable {pick : TaskRole → Option LocalJob} {fit : LocalJob → Prop} {roles : Index → TaskRole}

/-- One task changes what it has in hand. -/
theorem kept_update (apart : Apart pick roles)
    (others : ∀ other job, other ≠ thread → pick (roles other) = some job → fit job)
    (own : ∀ job, pick role = some job → fit job ∧ ∀ other another, other ≠ thread →
      pick (roles other) = some another → another.id ≠ job.id) :
    Kept pick fit (Function.update roles thread role) := by
  constructor
  · intro other job held
    by_cases same : other = thread
    · subst same
      rw [Function.update_self] at held
      exact (own job held).1
    · rw [Function.update_of_ne same] at held
      exact others other job same held
  · apply apart_update apart
    intro job other another held different heldToo same
    exact (own job held).2 other another different heldToo same.symm

-- The common case: the task has no such job in hand afterwards.
theorem kept_released (nothing : pick role = none) (apart : Apart pick roles)
    (others : ∀ other job, other ≠ thread → pick (roles other) = some job → fit job) :
    Kept pick fit (Function.update roles thread role) := by
  apply kept_update apart others
  intro job held
  rw [nothing] at held
  cases held

theorem released_before (nothing : pick role = none)
    (held : pick (Function.update roles thread role other) = some job) :
    pick (roles other) = some job := by
  by_cases same : other = thread
  · rw [same, Function.update_self, nothing] at held
    cases held
  · rwa [Function.update_of_ne same] at held

variable {node : NodeConfig} {service : Service} {op : ServiceOp} (ledger : Ledger board)
include ledger

/-- What a move does to the record of an id. -/
theorem move_status (fresh : ∀ job, op.accepts = some job → job.id ∉ board.node.jobs.jobs)
    (move : Move node service op thread board after) (id : String) :
    StatusStep (status board id) (status after id) := by
  cases move with
  | looks state envelopes same =>
    left
    rw [status, same]
    rfl
  | draws _ _ _ | executes _ _ | reserves _ _ _ _ | cancels _ _ _ | stopsWaiting _ _ _ _
  | resolves _ _ _ _ | misses _ _ _ | delivers _ _ _ _ | putsBack _ _ => exact Or.inl rfl
  | enqueues job held accepted queued placed =>
    have unknown := unrecorded_status (fresh job accepted)
    exact marked_step (status_enqueue _ job)
      (Or.inr (Or.inl ⟨unknown, Or.inl (by rw [queued])⟩)) id
  | offers job requester jobs held asked popping =>
    left
    rw [pop_transferable_rest popping]
    rfl
  | takes job jobs held worker popping =>
    left
    rw [(pop_some popping).2]
    rfl
  | transfers job requester now held sent =>
    have earlier := popped_status ledger (congrArg TaskRole.poppedJob held)
    exact marked_step (status_mark_transferred earlier)
      (Or.inr (Or.inr (Or.inl ⟨earlier, Or.inr rfl⟩))) id
  | begins job startedAt held =>
    have earlier := popped_status ledger (congrArg TaskRole.poppedJob held)
    exact marked_step (status_mark_running earlier startedAt)
      (Or.inr (Or.inr (Or.inl ⟨earlier, Or.inl rfl⟩))) id
  | beginsInline job startedAt held accepted =>
    have unknown := unrecorded_status (fresh job accepted)
    exact marked_step (status_start_inline _ job startedAt)
      (Or.inr (Or.inl ⟨unknown, Or.inr rfl⟩)) id
  | finishes job result held =>
    have earlier := ledger.hands.running (congrArg TaskRole.runningJob held)
    refine marked_step (status_mark_finished earlier result)
      (Or.inr (Or.inr (Or.inr ⟨earlier, ?_⟩))) id
    cases result.success with
    | true => exact Or.inl rfl
    | false => exact Or.inr rfl

theorem popped_off_queue (out : board.node.jobs.queue.Perm (job :: jobs.queue))
    (rest : jobs = { board.node.jobs with queue := jobs.queue }) (taken : role.poppedJob = some job)
    (idle : role.runningJob = none) :
    Ledger { board.manage thread role jobs with popped := job :: board.popped } := by
  have statuses : ∀ id, jobs.status id = board.node.jobs.status id := by
    intro id
    rw [rest]
    rfl
  have same : (jobs.queue ++ job :: board.popped).Perm (waiting board) :=
    List.perm_middle.trans (out.append_right board.popped).symm
  refine waiting_kept ledger same (fun id => ?_) ?_
  · change jobs.status id = _ ↔ _
    rw [statuses]
    rfl
  · apply hands_kept
    · apply kept_update ledger.hands.poppedApart
      · intro other another _ held
        exact List.mem_cons_of_mem _ (ledger.hands.popped held)
      · intro own held
        rw [taken] at held
        cases held
        exact ⟨List.mem_cons_self, fun other another _ heldToo same =>
          waiting_id_new ledger out heldToo same.symm⟩
    · apply kept_released idle ledger.hands.runningApart
      intro other another _ held
      exact (statuses _).trans (ledger.hands.running held)

theorem marked_out (held : (board.role thread).poppedJob = some job)
    (queue : jobs.queue = board.node.jobs.queue)
    (marks : ∀ id, jobs.status id = if id = job.id then some marked else status board id)
    (settled : marked ≠ .queued) (unpopped : role.poppedJob = none)
    (runs : ∀ own, role.runningJob = some own → own = job ∧ marked = .running) :
    Ledger { board.manage thread role jobs with
      popped := board.popped.eraseP (·.id == job.id) } := by
  have waits := popped_status ledger held
  have running : ∀ other another, (board.role other).runningJob = some another →
      another.id ≠ job.id := by
    intro other another busy same
    have works := ledger.hands.running busy
    rw [same, waits] at works
    cases works
  have out : (waiting board).Perm
      (job :: (jobs.queue ++ board.popped.eraseP (·.id == job.id))) := by
    rw [queue]
    exact marked_perm ledger held
  refine waiting_removed ledger out marks settled ?_
  apply hands_kept
  · apply kept_released unpopped ledger.hands.poppedApart
    intro other another different heldToo
    exact mem_erase_id (ledger.hands.popped heldToo)
      (others_differ ledger.hands.poppedApart held different heldToo)
  · apply kept_update ledger.hands.runningApart
    · intro other another _ busy
      refine (marks another.id).trans ?_
      rw [if_neg (running other another busy)]
      exact ledger.hands.running busy
    · intro own busy
      obtain ⟨rfl, rfl⟩ := runs own busy
      exact ⟨(marks own.id).trans (if_pos rfl), fun other another _ => running other another⟩

/-- The ledger is kept by every move of every service. -/
theorem move_ledger (fresh : ∀ job, op.accepts = some job → job.id ∉ board.node.jobs.jobs)
    (move : Move node service op thread board after) : Ledger after := by
  -- A task that only changes between roles without a job.
  have released : ∀ {changed : Board Index} {role : TaskRole},
      changed.role = Function.update board.role thread role → role.poppedJob = none →
      role.runningJob = none → changed.popped = board.popped →
      changed.node.jobs.queue = board.node.jobs.queue →
      (∀ id, status changed id = status board id) → Ledger changed := by
    intro changed role roles noPopped noRunning popped queue statuses
    apply ledger_carried ledger queue popped statuses <;> rw [roles]
    · exact released_before noPopped
    · exact released_before noRunning
  have popped : ∀ {role : TaskRole}, role.poppedJob = none →
      Kept TaskRole.poppedJob (· ∈ board.popped) (Function.update board.role thread role) :=
    fun nothing => kept_released nothing ledger.hands.poppedApart fun _ _ _ => ledger.hands.popped
  cases move with
  | looks state envelopes same =>
    exact ledger_carried ledger (congrArg Jobs.queue same) rfl
      (fun id => congrArg (Jobs.status · id) same) id id
  | draws _ _ _ | reserves _ _ _ _ | cancels _ _ _ | stopsWaiting _ _ _ _ | resolves _ _ _ _
  | misses _ _ _ | delivers _ _ _ _ => exact released rfl rfl rfl rfl rfl fun _ => rfl
  | enqueues job held accepted queued placed =>
    have unknown := unrecorded_status (fresh job accepted)
    have added : ∀ id, (board.node.jobs.enqueue job).status id =
        if id = job.id then some .queued else status board id := by
      intro id
      rw [status_enqueue, queued]
      rfl
    refine waiting_added ledger ?_ unknown added ?_
    · change ((board.node.jobs.queue ++ [job]) ++ board.popped).Perm _
      rw [List.append_assoc]
      exact List.perm_middle
    · apply hands_kept (popped rfl)
      apply kept_released rfl ledger.hands.runningApart
      intro other another _ busy
      refine (added another.id).trans ?_
      rw [if_neg (unknown_not_running ledger unknown busy)]
      exact ledger.hands.running busy
  | offers job requester jobs held asked popping =>
    exact popped_off_queue ledger (pop_transferable_some popping).2
      (pop_transferable_rest popping) rfl rfl
  | takes job jobs held worker popping =>
    have out : board.node.jobs.queue.Perm (job :: jobs.queue) := by
      rw [(pop_some popping).1]
    exact popped_off_queue ledger out (pop_some popping).2 rfl rfl
  | putsBack job held =>
    have mine : (board.role thread).poppedJob = some job := congrArg TaskRole.poppedJob held
    have member := ledger.hands.popped mine
    apply waiting_kept ledger
    · change ((board.node.jobs.queue ++ [job]) ++ board.popped.erase job).Perm _
      rw [List.append_assoc]
      exact (List.perm_cons_erase member).symm.append_left _
    · intro id
      exact Iff.rfl
    · refine hands_kept (kept_released rfl ledger.hands.poppedApart ?_)
        (kept_released rfl ledger.hands.runningApart fun _ _ _ => ledger.hands.running)
      intro other another different heldToo
      have others := others_differ ledger.hands.poppedApart mine different heldToo
      have distinct : another ≠ job := fun same => others (congrArg LocalJob.id same)
      exact (List.mem_erase_of_ne distinct).mpr (ledger.hands.popped heldToo)
  | transfers job requester now held sent =>
    have mine : (board.role thread).poppedJob = some job := congrArg TaskRole.poppedJob held
    exact marked_out ledger mine (mark_transferred_queue _ _)
      (status_mark_transferred (popped_status ledger mine)) (by simp) rfl
      (fun own busy => by cases busy)
  | begins job startedAt held =>
    have mine : (board.role thread).poppedJob = some job := congrArg TaskRole.poppedJob held
    refine marked_out ledger mine (modify_queue _ _ _)
      (status_mark_running (popped_status ledger mine) startedAt) (by simp) rfl ?_
    intro own busy
    cases busy
    exact ⟨rfl, rfl⟩
  | beginsInline job startedAt held accepted =>
    have unknown := unrecorded_status (fresh job accepted)
    have marks := status_start_inline board.node.jobs job startedAt
    refine waiting_kept ledger (List.Perm.refl _) (fun id => ?_) ?_
    · change (board.node.jobs.startInline job startedAt).status id = _ ↔ _
      rw [marks]
      split
      · rename_i here
        rw [here, unknown]
        simp
      · rfl
    · apply hands_kept (popped rfl)
      apply kept_update ledger.hands.runningApart
      · intro other another _ busy
        refine (marks another.id).trans ?_
        rw [if_neg (unknown_not_running ledger unknown busy)]
        exact ledger.hands.running busy
      · intro own busy
        cases busy
        exact ⟨(marks job.id).trans (if_pos rfl), fun _ _ _ => unknown_not_running ledger unknown⟩
  | executes job held =>
    have mine : (board.role thread).runningJob = some job := congrArg TaskRole.runningJob held
    refine waiting_kept ledger (List.Perm.refl _) (fun _ => Iff.rfl) ?_
    apply hands_kept (popped rfl)
    apply kept_update ledger.hands.runningApart fun _ _ _ => ledger.hands.running
    intro own busy
    cases busy
    exact ⟨ledger.hands.running mine, fun _ _ => others_differ ledger.hands.runningApart mine⟩
  | finishes job result held =>
    have mine : (board.role thread).runningJob = some job := congrArg TaskRole.runningJob held
    have works := ledger.hands.running mine
    have marks := status_mark_finished works result
    refine waiting_kept ledger ?_ (fun id => ?_) ?_
    · change ((board.node.jobs.markFinished job.id result).queue ++ board.popped).Perm _
      rw [Jobs.markFinished, modify_queue]
      exact List.Perm.refl _
    · change (board.node.jobs.markFinished job.id result).status id = _ ↔ _
      rw [marks]
      split
      · rename_i here
        rw [here, works]
        split <;> simp
      · rfl
    · apply hands_kept (popped rfl)
      apply kept_released rfl ledger.hands.runningApart
      intro other another different busy
      refine (marks another.id).trans ?_
      rw [if_neg (others_differ ledger.hands.runningApart mine different busy)]
      exact ledger.hands.running busy
end Books

section Runs
variable {platform : Platform} {node : NodeConfig} {Index : Type} [DecidableEq Index]
variable {services : Index → Service} {state : NodeState} {condition : Condition Index}
variable {before after : ServiceCrew Index}
variable (fresh : ∀ actor before after, condition actor before after → AcceptsFresh actor before after)
include fresh

theorem run_ledger
    (run : ServiceRun platform condition (opening platform node services state) after) :
    Ledger after.shared := by
  refine service_invariant (start_ledger state) ?_ ?_ run
  · intro thread op next before after allowed running move ledger
    exact move_ledger ledger (fun job => fresh _ _ _ allowed thread op next job rfl running) move
  · intro before after _ dropped ledger
    exact drop_ledger ledger dropped

theorem step_status
    (run : ServiceRun platform condition (opening platform node services state) before)
    {actor : Option Index} (taken : Step (machine platform Index) actor before after)
    (suspended : DropsAtAwait actor before after) (allowed : condition actor before after)
    (id : String) : StatusStep (status before.shared id) (status after.shared id) := by
  cases actor with
  | none => exact Or.inl (drop_status (step_drops (run_all_secured run) taken suspended) id)
  | some thread =>
    obtain ⟨op, next, running, move⟩ := step_moves (run_all_secured run) taken
    exact move_status (run_ledger fresh run)
      (fun job => fresh _ _ _ allowed thread op next job rfl running) move id

omit fresh

def Terminal (status : JobStatus) : Prop :=
  status = .completed ∨ status = .failed ∨ status = .transferred

theorem terminal_kept {status : JobStatus} {after : Option JobStatus} (terminal : Terminal status)
    (step : StatusStep (some status) after) : after = some status := by
  rcases step with same | ⟨missing, -⟩ | ⟨queued, -⟩ | ⟨running, -⟩
  · exact same
  · cases missing
  · cases queued
    rcases terminal with impossible | impossible | impossible <;> cases impossible
  · cases running
    rcases terminal with impossible | impossible | impossible <;> cases impossible

theorem terminal_stays (fresh : ∀ actor before after, condition actor before after →
      AcceptsFresh actor before after)
    (reached : ServiceRun platform condition (opening platform node services state) before)
    (later : ServiceRun platform condition before after) {id : String} {settled : JobStatus}
    (terminal : Terminal settled) (recorded : status before.shared id = some settled) :
    status after.shared id = some settled := by
  induction later with
  | refl => exact recorded
  | tail earlier last ih =>
    obtain ⟨actor, taken, suspended, allowed⟩ := last
    have step := step_status fresh (reached.trans earlier) taken suspended allowed id
    rw [ih] at step
    exact terminal_kept terminal step

/-- Over every run in which no job is accepted under an id that is already recorded:
a record that is completed, failed or transferred stays so, and the manager counts
as queued exactly the jobs in the queue and those popped and not yet marked. -/
theorem terminal_records_stay_and_queued_are_counted
    (reached : ServiceRun platform AcceptsFresh (opening platform node services state) before)
    (later : ServiceRun platform AcceptsFresh before after) :
    (∀ id settled, Terminal settled → before.shared.node.jobs.status id = some settled →
      after.shared.node.jobs.status id = some settled) ∧
    after.shared.node.jobs.countQueued =
      after.shared.node.jobs.queue.length + after.shared.popped.length := by
  have fresh : ∀ (actor : Option Index) (before after : ServiceCrew Index),
      AcceptsFresh actor before after → AcceptsFresh actor before after := fun _ _ _ holds => holds
  constructor
  · intro id settled terminal recorded
    exact terminal_stays fresh reached later terminal recorded
  · exact ledger_count (run_ledger fresh (reached.trans later))
end Runs

/-! A Sister that sends a job, sees it completed, and sends two more under its id. -/
section Deployment

def repeatedJob : JobData where
  id := "job-1"
  creator := 2
  executor := 0
  creatorAddr := "127.0.0.1:7778"
  command := "true"
  arguments := []
  createdAt := 5
  authorization := none

def developmentNode : NodeConfig := { sampleNode with allowUnauthenticatedOperations := true }

def jobPlatform : Platform :=
  { samplePlatform with jobData := recognise JobData.encode [repeatedJob] }

def jobEnvelope : Envelope :=
  Envelope.new sampleNetwork .job 2 1 repeatedJob.encode

abbrev receivedJob : LocalJob := localJob repeatedJob

theorem repeated_job_dispatch :
    dispatchEnvelope jobPlatform developmentNode jobEnvelope none =
      .call (.enqueue receivedJob) fun _ => .done none := by
  rfl

def repeatingServices : Fin 4 → Service
  | 3 => .executor 1
  | _ => .handler jobEnvelope none

def repeatingStart : ServiceCrew (Fin 4) :=
  opening jobPlatform developmentNode repeatingServices sampleState

variable {thread : Fin 4}

theorem repeating_handler (handles : repeatingServices thread = .handler jobEnvelope none) :
    repeatingStart.task thread =
      .call (.runtime (.enqueue receivedJob)) fun _ => .done none := by
  change (repeatingServices thread).program jobPlatform developmentNode = _
  rw [handles]
  rfl

variable {condition : Condition (Fin 4)} {fits : Board (Fin 4) → ServiceOp → Prop}

theorem handler_enqueues {crew : ServiceCrew (Fin 4)}
    (allowed : ∀ (before after : ServiceCrew (Fin 4)) op next, before.task thread = .call op next →
      fits before.shared op → condition (some thread) before after)
    (ready : crew.task thread = .call (.runtime (.enqueue receivedJob)) fun _ => .done none)
    (fit : fits crew.shared (.runtime (.enqueue receivedJob))) :
    ServiceRun jobPlatform condition crew
      (crew.advance thread (.done none) ()
        (crew.shared.record thread (.runtime (.enqueue receivedJob)) ()
          { crew.shared.node with jobs := crew.shared.node.jobs.enqueue receivedJob })) := by
  apply run_alone allowed
  rw [ready]
  exact .next ⟨fit, trivial, _, rfl, rfl⟩ (.here _ _)

-- What one turn of the executor leaves of a queue with that job alone.
def completedJobs (jobs : Jobs) (now : UInt64) : Jobs :=
  (({ jobs with queue := [] } : Jobs).markRunning "job-1" now).markFinished "job-1"
    (jobResult developmentNode "job-1" 2 ⟨"", "", 0⟩ now now)

theorem executor_completes {board : Board (Fin 4)}
    (fit : ∀ board op, op.accepts = none → fits board op)
    (waits : board.node.jobs.queue = [receivedJob]) (none : board.popped = []) :
    ∃ next after, Reaches (fun board op result after => fits board op ∧
        Acts jobPlatform 3 board op result after)
        ((Service.executor 1).program jobPlatform developmentNode) board
        (.call (.runtime (.peerGet 2)) next) after ∧
      after.node.jobs = completedJobs board.node.jobs board.node.clock ∧ after.popped = [] := by
  let job := receivedJob
  have popping : board.node.jobs.pop = (some job, { board.node.jobs with queue := [] }) := by
    rw [Jobs.pop, waits]
  refine ⟨_, _, .next ⟨fit _ _ rfl, acts_with (some job) trivial ⟨_, popping, rfl⟩⟩
    (.next ⟨fit _ _ rfl, acts_with board.node.clock trivial ⟨rfl, rfl⟩⟩
    (.next ⟨fit _ _ rfl, acts_with () trivial rfl⟩
    (.next ⟨fit _ _ rfl, acts_with (CommandResult.mk "" "" 0) trivial rfl⟩
    (.next ⟨fit _ _ rfl, acts_with board.node.clock trivial ⟨rfl, rfl⟩⟩
    (.next ⟨fit _ _ rfl, acts_with () trivial rfl⟩ (.here _ _)))))), rfl, ?_⟩
  change (job :: board.popped).eraseP (·.id == job.id) = []
  rw [none]
  rfl

/-- The job is accepted, run and recorded as completed; the other two are still to come. -/
theorem repeating_completes
    (allowed : ∀ thread (before after : ServiceCrew (Fin 4)) op next, before.task thread =
      .call op next → fits before.shared op → condition (some thread) before after)
    (accepts : fits repeatingStart.shared (.runtime (.enqueue receivedJob)))
    (fit : ∀ board op, op.accepts = none → fits board op) :
    ∃ crew next, ServiceRun jobPlatform condition repeatingStart crew ∧
      crew.shared.node.jobs = completedJobs (Jobs.new.enqueue receivedJob) 5 ∧
      crew.shared.popped = [] ∧ crew.task 1 = repeatingStart.task 1 ∧
      crew.task 2 = repeatingStart.task 2 ∧
      crew.task 3 = .call (.runtime (.peerGet 2)) next := by
  have first := handler_enqueues (allowed 0) (repeating_handler rfl) accepts
  let accepted := repeatingStart.shared.record 0 (.runtime (.enqueue receivedJob)) ()
    { repeatingStart.shared.node with
      jobs := repeatingStart.shared.node.jobs.enqueue receivedJob }
  have waits : accepted.node.jobs.queue = [receivedJob] := rfl
  obtain ⟨next, after, completes, jobs, popped⟩ := executor_completes fit waits rfl
  exact ⟨_, next, first.trans (run_alone (allowed 3) completes), jobs, popped, rfl, rfl, rfl⟩

theorem completed_status (id : String) :
    (completedJobs (Jobs.new.enqueue receivedJob) 5).status id =
      if id = "job-1" then some .completed else none := by
  have queued : ({ Jobs.new.enqueue receivedJob with queue := [] } : Jobs).status
      "job-1" = some .queued := (status_enqueue Jobs.new receivedJob "job-1").trans rfl
  have running := status_mark_running queued 5
  have finished := status_mark_finished ((running "job-1").trans (if_pos rfl))
    (jobResult developmentNode "job-1" 2 ⟨"", "", 0⟩ 5 5) id
  refine finished.trans ?_
  split
  · rfl
  · rename_i other
    rw [running, if_neg other]
    exact (status_enqueue Jobs.new receivedJob id).trans (if_neg other)

/-- The same Sister as long as it has sent the id once. -/
theorem first_record_stays : ∃ before after : ServiceCrew (Fin 4),
    ServiceRun jobPlatform AcceptsFresh repeatingStart before ∧
    ServiceRun jobPlatform AcceptsFresh before after ∧
    before.shared.node.jobs.status "job-1" = some .completed ∧
    after.shared.node.jobs.status "job-1" = some .completed ∧
    after.shared.node.jobs.countQueued =
      after.shared.node.jobs.queue.length + after.shared.popped.length := by
  have accepts : FreshOp repeatingStart.shared (.runtime (.enqueue receivedJob)) :=
    fun _ _ => Finmap.notMem_empty
  have others : ∀ (board : Board (Fin 4)) op, op.accepts = none → FreshOp board op := by
    intro board op none job accepted
    rw [none] at accepted
    cases accepted
  obtain ⟨crew, next, run, jobs, -, -, -, third⟩ :=
    repeating_completes fresh_op_allowed accepts others
  have looks : Reaches (fun board op result after => FreshOp board op ∧
      Acts jobPlatform 3 board op result after) (crew.task 3) crew.shared
      (next (crew.shared.node.peers.get 2))
      (crew.shared.record 3 (.runtime (.peerGet 2)) (crew.shared.node.peers.get 2)
        crew.shared.node) := by
    rw [third]
    exact .next ⟨others _ _ rfl, acts_with _ trivial ⟨rfl, rfl⟩⟩ (.here _ _)
  have later := run_alone (fresh_op_allowed 3) looks
  have recorded : crew.shared.node.jobs.status "job-1" = some .completed := by
    rw [jobs]
    exact (completed_status "job-1").trans (if_pos rfl)
  obtain ⟨stays, counted⟩ := terminal_records_stay_and_queued_are_counted run later
  exact ⟨crew, _, run, later, recorded, stays _ _ (Or.inl rfl) recorded, counted⟩

/-- The record of a completed job is queued again by a second job under its id, and a
third one under that id is in the queue without being counted. -/
theorem repeated_id_revives_record : ∃ before after last : ServiceCrew (Fin 4),
    ServiceRun jobPlatform Unrestricted repeatingStart before ∧
    ServiceRun jobPlatform Unrestricted before after ∧
    ServiceRun jobPlatform Unrestricted after last ∧
    before.shared.node.jobs.status "job-1" = some .completed ∧
    after.shared.node.jobs.status "job-1" = some .queued ∧
    last.shared.node.jobs.countQueued = 1 ∧ last.shared.node.jobs.queue.length = 2 ∧
    last.shared.popped = [] := by
  obtain ⟨crew, next, run, jobs, popped, second, third, -⟩ :=
    repeating_completes any_op_allowed trivial (fun _ _ _ => trivial)
  have again := handler_enqueues (any_op_allowed 1) (second.trans (repeating_handler rfl)) trivial
  have recorded : ∀ id, crew.shared.node.jobs.status id =
      if id = "job-1" then some .completed else none := by
    rw [jobs]
    exact completed_status
  let revived := crew.shared.node.jobs.enqueue receivedJob
  have revivedStatus : ∀ id, (revived.enqueue receivedJob).status id = some .queued ↔
      id ∈ ["job-1"] := by
    have named : receivedJob.id = "job-1" := rfl
    have waits : receivedJob.status = .queued := rfl
    intro id
    rw [status_enqueue, status_enqueue, recorded, named, waits]
    by_cases same : id = "job-1"
    · simp [same]
    · simp [same]
  refine ⟨crew, _, _, run, again,
    handler_enqueues (any_op_allowed 2) (third.trans (repeating_handler rfl)) trivial, ?_, ?_, ?_,
    ?_, ?_⟩
  · exact (recorded "job-1").trans (if_pos rfl)
  · exact (status_enqueue _ _ "job-1").trans (if_pos rfl)
  · exact count_queued_ids (List.nodup_singleton "job-1") revivedStatus
  · change ((crew.shared.node.jobs.queue ++ [_]) ++ [_]).length = 2
    rw [jobs]
    rfl
  · exact popped
end Deployment
end Misaka.JobLedger
