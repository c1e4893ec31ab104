import Misaka.JobLedger

/-!
Where a job is. Between the queue and the end of its life a job is in the variables
of one task: a handler that offers it to a requester, or an executor that runs it.
If no task is dropped with a job in its variables, every accepted job is in exactly
one place and is run at most once. A handler that is dropped while it sends takes
its job with it.
-/

namespace Misaka.JobConservation
open Identity Protocol JobManager EffectTask NodeRuntime Dispatch RelyGuarantee JobServices
open ServiceRoles ServiceMoves JobLedger
variable {Index : Type} {board : Board Index} {thread : Index} {node : NodeConfig}

section Places

inductive Place where
  | queued | offered | running | finished | transferred
deriving DecidableEq

def InPlace (board : Board Index) (id : String) : Place → Prop
  | .queued => ∃ job ∈ board.node.jobs.queue, job.id = id
  | .offered => ∃ thread job, board.role thread = .offering job ∧ job.id = id
  | .running => ∃ thread job, (board.role thread = .taken job ∨
      board.role thread = .started job ∨ board.role thread = .ran job) ∧ job.id = id
  | .finished => status board id = some .completed ∨ status board id = some .failed
  | .transferred => status board id = some .transferred

-- No task is dropped with a job in its variables.
def KeepsJobs (actor : Option Index) (before after : ServiceCrew Index) : Prop :=
  actor = none → ∀ thread, ((before.shared.role thread).poppedJob.isSome ∨
    (before.shared.role thread).runningJob.isSome) →
      after.shared.role thread = before.shared.role thread

def Conserving (actor : Option Index) (before after : ServiceCrew Index) : Prop :=
  AcceptsFresh actor before after ∧ KeepsJobs actor before after

/-- Every job between two places is in somebody's hands. -/
structure Held (board : Board Index) : Prop where
  popped : ∀ {job}, job ∈ board.popped → ∃ thread, (board.role thread).poppedJob = some job
  running : ∀ {id}, status board id = some .running →
    ∃ thread job, (board.role thread).runningJob = some job ∧ job.id = id

/-- No command is run twice. -/
structure Once (board : Board Index) : Prop where
  distinct : board.executed.Nodup
  settled : ∀ {id}, id ∈ board.executed → ∃ status, JobLedger.status board id = some status ∧
    status ≠ .queued
  fresh : ∀ {thread job}, board.role thread = .started job → job.id ∉ board.executed

structure Conserved (board : Board Index) : Prop where
  ledger : Ledger board
  held : Held board
  once : Once board

variable {after : Board Index}

variable {job : LocalJob} {role : TaskRole}

theorem popped_job_cases (held : role.poppedJob = some job) :
    role = .offering job ∨ role = .taken job := by
  cases role with
  | offering other =>
    cases held
    exact Or.inl rfl
  | taken other =>
    cases held
    exact Or.inr rfl
  | _ => cases held

theorem running_job_cases (held : role.runningJob = some job) :
    role = .started job ∨ role = .ran job := by
  cases role with
  | started other =>
    cases held
    exact Or.inl rfl
  | ran other =>
    cases held
    exact Or.inr rfl
  | _ => cases held

variable {id : String} (ledger : Ledger board)
include ledger

-- A job in the queue is in nobody's hands.
theorem queued_not_popped (waits : InPlace board id .queued)
    (held : (board.role thread).poppedJob = some job) : job.id ≠ id := by
  obtain ⟨queued, member, rfl⟩ := waits
  have apart := ledger.distinct
  rw [waiting, ids, List.map_append, List.nodup_append] at apart
  exact fun same => apart.2.2 _ (mem_ids member) _ (mem_ids (ledger.hands.popped held)) same.symm

theorem queued_status (waits : InPlace board id .queued) :
    status board id = some .queued := by
  obtain ⟨job, member, rfl⟩ := waits
  exact (ledger.queued job.id).mpr (mem_ids (List.mem_append_left _ member))

theorem offered_status (offered : InPlace board id .offered) :
    status board id = some .queued := by
  obtain ⟨thread, job, offers, rfl⟩ := offered
  exact popped_status ledger (congrArg TaskRole.poppedJob offers)

-- A running job is popped and waits for its mark, or is marked.
theorem running_cases (runs : InPlace board id .running) :
    (status board id = some .queued ∧ ∃ thread job, board.role thread = .taken job ∧ job.id = id) ∨
      status board id = some .running := by
  obtain ⟨thread, job, takes | works | works, rfl⟩ := runs
  · exact Or.inl ⟨popped_status ledger (congrArg TaskRole.poppedJob takes), thread, job, takes, rfl⟩
  · exact Or.inr (ledger.hands.running (congrArg TaskRole.runningJob works))
  · exact Or.inr (ledger.hands.running (congrArg TaskRole.runningJob works))

theorem queued_not_offered (waits : InPlace board id .queued) :
    ¬ InPlace board id .offered := by
  rintro ⟨thread, job, offers, same⟩
  exact queued_not_popped ledger waits (congrArg TaskRole.poppedJob offers) same

theorem queued_not_running (waits : InPlace board id .queued) :
    ¬ InPlace board id .running := by
  intro runs
  rcases running_cases ledger runs with ⟨-, thread, job, takes, same⟩ | works
  · exact queued_not_popped ledger waits (congrArg TaskRole.poppedJob takes) same
  · rw [queued_status ledger waits] at works
    cases works

theorem offered_not_running (offered : InPlace board id .offered) :
    ¬ InPlace board id .running := by
  intro runs
  rcases running_cases ledger runs with ⟨-, thread, job, takes, same⟩ | works
  · obtain ⟨other, another, offers, sameToo⟩ := offered
    have one := ledger.hands.poppedApart (congrArg TaskRole.poppedJob takes)
      (congrArg TaskRole.poppedJob offers) (same.trans sameToo.symm)
    rw [one, offers] at takes
    cases takes
  · rw [offered_status ledger offered] at works
    cases works

-- The first three places are those of a record that has not ended.
theorem unended_status {place : Place} (there : InPlace board id place)
    (early : place = .queued ∨ place = .offered ∨ place = .running) :
    status board id = some .queued ∨ status board id = some .running := by
  rcases early with rfl | rfl | rfl
  · exact Or.inl (queued_status ledger there)
  · exact Or.inl (offered_status ledger there)
  · rcases running_cases ledger there with ⟨waits, -⟩ | works
    · exact Or.inl waits
    · exact Or.inr works

theorem place_unique {place other : Place} (here : InPlace board id place)
    (there : InPlace board id other) : place = other := by
  have ended : ∀ {place}, InPlace board id place →
      (place = .queued ∨ place = .offered ∨ place = .running) →
      ¬ InPlace board id .finished ∧ ¬ InPlace board id .transferred := by
    intro place there early
    constructor
    · intro finished
      rcases unended_status ledger there early with known | known <;>
        rcases finished with done | done <;> rw [known] at done <;> cases done
    · intro transferred
      rcases unended_status ledger there early with known | known <;>
        rw [InPlace, known] at transferred <;> cases transferred
  have settled : InPlace board id .finished → ¬ InPlace board id .transferred := by
    intro finished transferred
    rcases finished with done | done <;> rw [InPlace, done] at transferred <;> cases transferred
  cases place <;> cases other <;> first
    | rfl
    | exact absurd there (queued_not_offered ledger here)
    | exact absurd here (queued_not_offered ledger there)
    | exact absurd there (queued_not_running ledger here)
    | exact absurd here (queued_not_running ledger there)
    | exact absurd there (offered_not_running ledger here)
    | exact absurd here (offered_not_running ledger there)
    | exact absurd there (settled here)
    | exact absurd here (settled there)
    | exact absurd there (ended here (by simp)).1
    | exact absurd there (ended here (by simp)).2
    | exact absurd here (ended there (by simp)).1
    | exact absurd here (ended there (by simp)).2

theorem place_exists (held : Held board) (recorded : id ∈ board.node.jobs.jobs) :
    ∃ place, InPlace board id place := by
  obtain ⟨known, found⟩ := recorded_status.mp recorded
  cases known with
  | queued =>
    obtain ⟨job, member, rfl⟩ := List.mem_map.mp ((ledger.queued id).mp found)
    rcases List.mem_append.mp member with queued | popped
    · exact ⟨.queued, job, queued, rfl⟩
    · obtain ⟨thread, holds⟩ := held.popped popped
      rcases popped_job_cases holds with offers | takes
      · exact ⟨.offered, thread, job, offers, rfl⟩
      · exact ⟨.running, thread, job, Or.inl takes, rfl⟩
  | running =>
    obtain ⟨thread, job, holds, rfl⟩ := held.running found
    exact ⟨.running, thread, job, Or.inr (running_job_cases holds), rfl⟩
  | completed => exact ⟨.finished, Or.inl found⟩
  | failed => exact ⟨.finished, Or.inr found⟩
  | transferred => exact ⟨.transferred, found⟩

theorem marked_popped {job other : LocalJob} (mine : (board.role thread).poppedJob = some job)
    (member : other ∈ board.popped.eraseP (·.id == job.id)) :
    other ∈ board.popped ∧ other ≠ job := by
  have out := erase_id_perm (popped_ids_distinct ledger) (ledger.hands.popped mine)
  have distinct := (ids_perm out).nodup_iff.mp (popped_ids_distinct ledger)
  refine ⟨List.mem_of_mem_eraseP member, ?_⟩
  rintro rfl
  exact (List.nodup_cons.mp distinct).1 (mem_ids member)

omit ledger

theorem drop_held {before after : ServiceCrew Index} (held : Held before.shared)
    (dropped : Drops before.shared after.shared) (keeps : KeepsJobs none before after) :
    Held after.shared := by
  have statuses := drop_status dropped
  constructor
  · intro job member
    obtain ⟨state, role, -, same, -⟩ := dropped
    rw [same] at member
    obtain ⟨thread, holds⟩ := held.popped member
    have kept := keeps rfl thread (Or.inl (by rw [holds]; rfl))
    exact ⟨thread, by rw [kept, holds]⟩
  · intro id works
    rw [statuses] at works
    obtain ⟨thread, job, holds, same⟩ := held.running works
    have kept := keeps rfl thread (Or.inr (by rw [holds]; rfl))
    exact ⟨thread, job, by rw [kept, holds], same⟩

theorem drop_once (once : Once board) (dropped : Drops board after) :
    Once after := by
  have statuses := drop_status dropped
  obtain ⟨state, role, -, rfl, freed⟩ := dropped
  refine ⟨once.distinct, ?_, ?_⟩
  · intro id member
    rw [statuses]
    exact once.settled member
  · intro thread job starts
    rcases freed thread with same | ⟨free, -⟩
    · exact once.fresh (same.symm.trans starts)
    · have impossible := free.symm.trans starts
      cases impossible
end Places

section Steps
variable [DecidableEq Index] {after : Board Index}
variable {service : Service} {op : ServiceOp}

/-- One task changes its role: a job it lets go of is popped no longer, or marked. -/
theorem held_update {role : TaskRole} (held : Held board)
    (roles : after.role = Function.update board.role thread role)
    (popped : ∀ job ∈ after.popped, role.poppedJob = some job ∨
      job ∈ board.popped ∧ (board.role thread).poppedJob ≠ some job)
    (running : ∀ id, status after id = some .running →
      (∃ job, role.runningJob = some job ∧ job.id = id) ∨ status board id = some .running ∧
        ∀ job, (board.role thread).runningJob = some job → job.id ≠ id) : Held after := by
  constructor
  · intro job member
    rcases popped job member with own | ⟨before, left⟩
    · exact ⟨thread, by rw [roles, Function.update_self, own]⟩
    · obtain ⟨other, holds⟩ := held.popped before
      refine ⟨other, ?_⟩
      rw [roles, Function.update_of_ne, holds]
      rintro rfl
      exact left holds
  · intro id works
    rcases running id works with ⟨job, own, same⟩ | ⟨before, left⟩
    · exact ⟨thread, job, by rw [roles, Function.update_self, own], same⟩
    · obtain ⟨other, job, holds, same⟩ := held.running before
      refine ⟨other, job, ?_, same⟩
      rw [roles, Function.update_of_ne, holds]
      rintro rfl
      exact left job holds same

theorem move_held (ledger : Ledger board) (held : Held board)
    (move : Move node service op thread board after) : Held after := by
  -- What a task without a job in hand need not show.
  have unpopped : ∀ {role : TaskRole} {job}, role.poppedJob = none → role.poppedJob ≠ some job := by
    intro role job none
    simp [none]
  have idle : ∀ {role : TaskRole} {id}, role.runningJob = none →
      ∀ job, role.runningJob = some job → job.id ≠ id := by
    intro role id none job runs
    rw [none] at runs
    cases runs
  -- A popped job that is marked is popped no longer.
  have marked : ∀ {job other : LocalJob}, board.role thread = .offering job ∨
      board.role thread = .taken job → other ∈ board.popped.eraseP (·.id == job.id) →
      other ∈ board.popped ∧ (board.role thread).poppedJob ≠ some other := by
    intro job other mine member
    have own : (board.role thread).poppedJob = some job := by
      rcases mine with mine | mine <;> rw [mine] <;> rfl
    obtain ⟨before, different⟩ := marked_popped ledger own member
    refine ⟨before, fun same => different ?_⟩
    exact Option.some.inj (same.symm.trans own)
  cases move with
  | looks state envelopes same =>
    constructor
    · intro job member
      exact held.popped member
    · intro id works
      change state.jobs.status id = _ at works
      rw [same] at works
      exact held.running works
  | enqueues job resting accepted queued placed =>
    have free : (board.role thread).poppedJob = none ∧ (board.role thread).runningJob = none := by
      rcases resting with same | same <;> rw [same] <;> exact ⟨rfl, rfl⟩
    refine held_update held rfl (fun other member => .inr ⟨member, unpopped free.1⟩)
      fun id works => .inr ⟨?_, idle free.2⟩
    change (board.node.jobs.enqueue job).status id = _ at works
    rw [status_enqueue] at works
    split at works
    · rw [queued] at works
      cases works
    · exact works
  | offers job requester jobs free asked popping =>
    refine held_update held rfl (fun other member => ?_)
      fun id works => .inr ⟨?_, idle (free ▸ rfl)⟩
    · rcases List.mem_cons.mp member with rfl | earlier
      · exact .inl rfl
      · exact .inr ⟨earlier, unpopped (free ▸ rfl)⟩
    · change jobs.status id = _ at works
      rw [pop_transferable_rest popping] at works
      exact works
  | takes job jobs free worker popping =>
    refine held_update held rfl (fun other member => ?_)
      fun id works => .inr ⟨?_, idle (free ▸ rfl)⟩
    · rcases List.mem_cons.mp member with rfl | earlier
      · exact .inl rfl
      · exact .inr ⟨earlier, unpopped (free ▸ rfl)⟩
    · change jobs.status id = _ at works
      rw [(pop_some popping).2] at works
      exact works
  | putsBack job mine =>
    have distinct : board.popped.Nodup := (popped_ids_distinct ledger).of_map
    refine held_update held rfl (fun other member => .inr ⟨List.mem_of_mem_erase member, ?_⟩)
      fun id works => .inr ⟨works, idle (mine ▸ rfl)⟩
    rw [mine]
    rintro ⟨⟩
    exact distinct.not_mem_erase member
  | transfers job requester now mine sent =>
    refine held_update held rfl (fun other member => .inr (marked (.inl mine) member))
      fun id works => .inr ⟨?_, idle (mine ▸ rfl)⟩
    have waits := popped_status ledger (congrArg TaskRole.poppedJob mine)
    change (board.node.jobs.markTransferred job.id).status id = _ at works
    rw [status_mark_transferred waits] at works
    split at works
    · cases works
    · exact works
  | begins job startedAt mine =>
    refine held_update held rfl (fun other member => .inr (marked (.inr mine) member))
      fun id works => ?_
    have waits := popped_status ledger (congrArg TaskRole.poppedJob mine)
    change (board.node.jobs.markRunning job.id startedAt).status id = _ at works
    rw [status_mark_running waits] at works
    split at works
    · rename_i same
      exact .inl ⟨job, rfl, same.symm⟩
    · exact .inr ⟨works, idle (mine ▸ rfl)⟩
  | beginsInline job startedAt named accepted =>
    refine held_update held rfl (fun other member => .inr ⟨member, unpopped (named ▸ rfl)⟩)
      fun id works => ?_
    change (board.node.jobs.startInline job startedAt).status id = _ at works
    rw [status_start_inline] at works
    split at works
    · rename_i same
      exact .inl ⟨job, rfl, same.symm⟩
    · exact .inr ⟨works, idle (named ▸ rfl)⟩
  | executes job mine =>
    refine held_update held rfl (fun other member => .inr ⟨member, unpopped (mine ▸ rfl)⟩)
      fun id works => ?_
    by_cases same : job.id = id
    · exact .inl ⟨job, rfl, same⟩
    · refine .inr ⟨works, ?_⟩
      rw [mine]
      rintro _ ⟨⟩
      exact same
  | finishes job result mine =>
    have own : (board.role thread).runningJob = some job := congrArg TaskRole.runningJob mine
    refine held_update held rfl (fun other member => .inr ⟨member, unpopped (mine ▸ rfl)⟩)
      fun id works => ?_
    change (board.node.jobs.markFinished job.id result).status id = _ at works
    rw [status_mark_finished (ledger.hands.running own) result] at works
    split at works
    · split at works <;> cases works
    · rename_i different
      refine .inr ⟨works, ?_⟩
      rw [own]
      rintro _ ⟨⟩
      exact Ne.symm different
  | draws _ free _ | reserves _ _ free _ | cancels _ _ free | stopsWaiting _ _ free _
  | resolves _ _ free _ | misses _ free _ | delivers _ _ free _ =>
    exact held_update held rfl (fun other member => .inr ⟨member, unpopped (free ▸ rfl)⟩)
      fun id works => .inr ⟨works, idle (free ▸ rfl)⟩

-- What is recorded and not queued stays so.
theorem past_queued {before after : Option JobStatus} (step : StatusStep before after)
    (past : ∃ status, before = some status ∧ status ≠ .queued) :
    ∃ status, after = some status ∧ status ≠ .queued := by
  obtain ⟨known, rfl, left⟩ := past
  rcases step with same | ⟨missing, -⟩ | ⟨queued, -⟩ | ⟨-, ends | ends⟩
  · exact ⟨known, same, left⟩
  · cases missing
  · exact absurd (Option.some.inj queued) left
  · exact ⟨.completed, ends, by simp⟩
  · exact ⟨.failed, ends, by simp⟩

theorem move_once (ledger : Ledger board) (once : Once board)
    (fresh : ∀ job, op.accepts = some job → job.id ∉ board.node.jobs.jobs)
    (move : Move node service op thread board after) : Once after := by
  have settles : ∀ {id}, id ∈ board.executed →
      ∃ known, status after id = some known ∧ known ≠ .queued := fun member =>
    past_queued (move_status ledger fresh move _) (once.settled member)
  -- A task that does not begin to run anything, and no command run.
  have unchanged : ∀ {role : TaskRole}, after.role = Function.update board.role thread role →
      (∀ job, role = .started job → job.id ∉ board.executed) →
      after.executed = board.executed → Once after := by
    intro role roles begins same
    constructor
    · rw [same]
      exact once.distinct
    · rw [same]
      exact settles
    · intro other job starts
      rw [same]
      rw [roles] at starts
      by_cases here : other = thread
      · subst here
        rw [Function.update_self] at starts
        exact begins job starts
      · rw [Function.update_of_ne here] at starts
        exact once.fresh starts
  have idle : ∀ {job : LocalJob}, JobLedger.status board job.id = some .queued →
      job.id ∉ board.executed := by
    intro job queued member
    obtain ⟨known, found, left⟩ := once.settled member
    rw [queued] at found
    exact left (Option.some.inj found).symm
  cases move with
  | looks state envelopes same => exact ⟨once.distinct, settles, once.fresh⟩
  | begins job startedAt mine =>
    apply unchanged rfl
    · intro other same
      cases same
      exact idle (popped_status ledger (congrArg TaskRole.poppedJob mine))
    · rfl
  | beginsInline job startedAt named accepted =>
    apply unchanged rfl
    · intro other same member
      cases same
      obtain ⟨known, found, -⟩ := once.settled member
      rw [unrecorded_status (fresh job accepted)] at found
      cases found
    · rfl
  | executes job mine =>
    have own : (board.role thread).runningJob = some job := congrArg TaskRole.runningJob mine
    constructor
    · exact List.nodup_cons.mpr ⟨once.fresh mine, once.distinct⟩
    · intro id member
      rcases List.mem_cons.mp member with rfl | earlier
      · exact ⟨.running, ledger.hands.running own, by simp⟩
      · exact settles earlier
    · intro other another starts member
      change Function.update board.role thread (.ran job) other = _ at starts
      by_cases here : other = thread
      · subst here
        rw [Function.update_self] at starts
        cases starts
      · rw [Function.update_of_ne here] at starts
        rcases List.mem_cons.mp member with same | earlier
        · exact others_differ ledger.hands.runningApart own here
            (congrArg TaskRole.runningJob starts) same
        · exact once.fresh starts earlier
  | draws _ _ _ | enqueues _ _ _ _ _ | offers _ _ _ _ _ _ | putsBack _ _ | transfers _ _ _ _ _
  | takes _ _ _ _ _ | finishes _ _ _ | reserves _ _ _ _ | cancels _ _ _ | stopsWaiting _ _ _ _
  | resolves _ _ _ _ | misses _ _ _ | delivers _ _ _ _ =>
    apply unchanged rfl
    · intro job impossible
      cases impossible
    · rfl

/-- An offer ends by putting the job back or after its envelope was written. -/
theorem move_ends_offer (ledger : Ledger board) (move : Move node service op thread board after)
    {holder : Index} {job : LocalJob} (offers : board.role holder = .offering job)
    (ends : after.role holder ≠ .offering job) :
    job ∈ after.node.jobs.queue ∨ (status after job.id = some .transferred ∧
      ∃ requester now, stolenEnvelope node job requester now ∈ after.sent) := by
  have mine : holder = thread := by
    by_contra different
    apply ends
    rw [← offers]
    cases move with
    | looks => rfl
    | _ => exact Function.update_of_ne different _ _
  subst mine
  cases move with
  | looks => exact absurd offers ends
  | putsBack own held =>
    rw [offers] at held
    cases held
    exact Or.inl (List.mem_append_right _ List.mem_cons_self)
  | transfers own requester now held sent =>
    rw [offers] at held
    cases held
    have earlier := popped_status ledger (congrArg TaskRole.poppedJob offers)
    exact Or.inr ⟨(status_mark_transferred earlier job.id).trans (if_pos rfl), requester, now,
      sent⟩
  | enqueues _ held =>
    rw [offers] at held
    rcases held with impossible | impossible <;> cases impossible
  | draws _ held | offers _ _ _ held | takes _ _ held | begins _ _ held | beginsInline _ _ held
  | executes _ held | finishes _ _ held | reserves _ _ held | cancels _ _ held
  | stopsWaiting _ _ held | resolves _ _ held | misses _ held | delivers _ _ held =>
    rw [offers] at held
    cases held
end Steps

section Runs
variable {platform : Platform} [DecidableEq Index]
variable {services : Index → Service} {state : NodeState} {before after : ServiceCrew Index}

theorem run_conserves
    (run : ServiceRun platform Conserving (opening platform node services state) after) :
    Conserved after.shared := by
  refine service_invariant ?_ ?_ ?_ run
  · refine ⟨start_ledger state, ⟨fun member => ?_, fun works => ?_⟩,
      ⟨List.nodup_nil, fun member => ?_, fun starts => ?_⟩⟩
    · cases member
    · cases works
    · cases member
    · cases starts
  · rintro thread op next before after allowed running move ⟨ledger, held, once⟩
    have fresh := fun job => allowed.1 thread op next job rfl running
    exact ⟨move_ledger ledger fresh move, move_held ledger held move,
      move_once ledger once fresh move⟩
  · rintro before after allowed dropped ⟨ledger, held, once⟩
    exact ⟨drop_ledger ledger dropped, drop_held held dropped allowed.2, drop_once once dropped⟩

theorem recorded_stays {before after : Option JobStatus} (step : StatusStep before after)
    (known : ∃ status, before = some status) : ∃ status, after = some status := by
  obtain ⟨status, rfl⟩ := known
  rcases step with same | ⟨missing, -⟩ | ⟨-, next | next⟩ | ⟨-, next | next⟩
  · exact ⟨status, same⟩
  · cases missing
  all_goals exact ⟨_, next⟩

/-- Over every run in which ids are not repeated and no task is dropped with a job in
its variables: every accepted job is in exactly one place and stays accepted, no
command is run twice, and an offer that ends leaves the job in the queue or, its
envelope written to the requester, recorded as transferred. -/
theorem jobs_are_in_one_place
    (run : ServiceRun platform Conserving (opening platform node services state) before) :
    (∀ id ∈ before.shared.node.jobs.jobs, ∃! place, InPlace before.shared id place) ∧
    before.shared.executed.Nodup ∧
    ∀ actor after, Step (machine platform Index) actor before after →
      DropsAtAwait actor before after → Conserving actor before after →
      (∀ id ∈ before.shared.node.jobs.jobs, id ∈ after.shared.node.jobs.jobs) ∧
      ∀ thread job, before.shared.role thread = .offering job →
        after.shared.role thread ≠ .offering job →
        job ∈ after.shared.node.jobs.queue ∨
        (after.shared.node.jobs.status job.id = some .transferred ∧
          ∃ requester now, stolenEnvelope node job requester now ∈ after.shared.sent) := by
  obtain ⟨ledger, held, once⟩ := run_conserves run
  refine ⟨fun id recorded => ?_, once.distinct, fun actor after taken suspended allowed => ⟨?_, ?_⟩⟩
  · obtain ⟨place, there⟩ := place_exists ledger held recorded
    exact ⟨place, there, fun other here => place_unique ledger here there⟩
  · intro id recorded
    have step := step_status (fun _ _ _ conserving => conserving.1) run taken suspended allowed id
    exact recorded_status.mpr (recorded_stays step (recorded_status.mp recorded))
  · intro thread job offers ends
    cases actor with
    | none =>
      have kept := allowed.2 rfl thread (Or.inl (by rw [offers]; rfl))
      exact absurd (kept.trans offers) ends
    | some actor =>
      obtain ⟨op, next, running, move⟩ := step_moves (run_all_secured run) taken
      exact move_ends_offer ledger move offers ends
end Runs

/-! A handler that offers a job to a Sister it knows. -/

def requestEnvelope : Envelope := Envelope.new sampleNetwork .jobRequest 2 1 []

def offeringServices : Fin 2 → Service
  | 0 => .submitLocal "true"
  | 1 => .handler requestEnvelope none

def offeringStart : ServiceCrew (Fin 2) :=
  opening samplePlatform developmentNode offeringServices (ControlChannel.peeredState [])

def offeredJob : LocalJob := { LocalJob.new "job-1" "true" with creator := 1 }

theorem request_dispatch :
    dispatchEnvelope samplePlatform developmentNode requestEnvelope none =
      dispatchJobRequest samplePlatform developmentNode requestEnvelope := by
  rfl

/-- The job is submitted, and the handler has it in hand and is about to send it. -/
theorem offering_reached {condition : Condition (Fin 2)} {fits : Board (Fin 2) → ServiceOp → Prop}
    (allowed : ∀ thread (before after : ServiceCrew (Fin 2)) op next,
      before.task thread = .call op next → fits before.shared op →
      condition (some thread) before after)
    (accepts : ∀ board : Board (Fin 2), board.node.jobs = .new →
      fits board (.runtime (.enqueue offeredJob)))
    (fit : ∀ board op, op.accepts = none → fits board op) :
    ∃ crew next, ServiceRun samplePlatform condition offeringStart crew ∧
      crew.shared.node.jobs = { Jobs.new.enqueue offeredJob with queue := [] } ∧
      crew.shared.role 0 = .free ∧ crew.shared.role 1 = .offering offeredJob ∧
      crew.task 1 = .call (.runtime (.peerGet 2)) next := by
  have submits : Reaches (fun board op result after => fits board op ∧
      Acts samplePlatform 0 board op result after) (offeringStart.task 0) offeringStart.shared
      (.done none) _ :=
    .next ⟨fit _ _ rfl, acts_with "job-1" List.not_mem_nil rfl⟩
      (.next ⟨accepts _ rfl, acts_with () trivial rfl⟩ (.here _ _))
  have submitted := run_alone (allowed 0) submits
  let shared := (offeringStart.shared.record 0 .newJobId "job-1" offeringStart.shared.node).record 0
    (.runtime (.enqueue offeredJob)) ()
    { offeringStart.shared.node with jobs := Jobs.new.enqueue offeredJob }
  have offers : ∃ next after, Reaches (fun board op result after => fits board op ∧
      Acts samplePlatform 1 board op result after) (offeringStart.task 1) shared
      (.call (.runtime (.peerGet 2)) next) after ∧
      after.node.jobs = { Jobs.new.enqueue offeredJob with queue := [] } ∧
      after.role 0 = .free ∧ after.role 1 = .offering offeredJob := by
    refine ⟨_, _, .next ⟨fit _ _ rfl,
      acts_with (some (ControlChannel.sampleRow [])) trivial ⟨?_, rfl⟩⟩
      (.next ⟨fit _ _ rfl, acts_with (some offeredJob) trivial ⟨_, rfl, rfl⟩⟩
      (.next ⟨fit _ _ rfl, acts_with 5 trivial ⟨rfl, rfl⟩⟩ (.here _ _))), rfl, rfl, rfl⟩
    exact (ControlChannel.peered_row []).symm
  obtain ⟨next, after, sends, jobs, idle, holds⟩ := offers
  exact ⟨_, next, submitted.trans (run_alone (allowed 1) sends), jobs, idle, holds, rfl⟩

theorem fresh_on_empty (board : Board (Fin 2)) (empty : board.node.jobs = .new) :
    FreshOp board (.runtime (.enqueue offeredJob)) := by
  intro job _
  rw [empty]
  exact Finmap.notMem_empty

theorem fresh_without_job (board : Board (Fin 2)) (op : ServiceOp) (none : op.accepts = none) :
    FreshOp board op := by
  intro job accepted
  rw [none] at accepted
  cases accepted

theorem offered_status_queued : ({ Jobs.new.enqueue offeredJob with queue := [] } : Jobs).status
    "job-1" = some .queued := (status_enqueue Jobs.new offeredJob "job-1").trans (if_pos rfl)

/-- While the handler sends, the job is in its hands and nowhere else. -/
theorem offered_job_in_one_place : ∃ crew : ServiceCrew (Fin 2),
    ServiceRun samplePlatform Conserving offeringStart crew ∧
    "job-1" ∈ crew.shared.node.jobs.jobs ∧ InPlace crew.shared "job-1" .offered ∧
    ∃! place, InPlace crew.shared "job-1" place := by
  have allowed : ∀ thread (before after : ServiceCrew (Fin 2)) op next,
      before.task thread = .call op next → FreshOp before.shared op →
      Conserving (some thread) before after := by
    intro thread before after op next running fit
    refine ⟨fresh_op_allowed thread before after op next running fit, ?_⟩
    intro impossible
    cases impossible
  obtain ⟨crew, next, run, jobs, -, holds, -⟩ :=
    offering_reached allowed fresh_on_empty fresh_without_job
  have recorded : "job-1" ∈ crew.shared.node.jobs.jobs := by
    rw [jobs]
    exact recorded_status.mpr ⟨.queued, offered_status_queued⟩
  exact ⟨crew, run, recorded, ⟨1, offeredJob, holds, rfl⟩,
    (jobs_are_in_one_place run).1 "job-1" recorded⟩

/-- The handler is dropped while it sends: the job is recorded as queued and is nowhere. -/
theorem dropped_offer_loses_job : ∃ crew : ServiceCrew (Fin 2),
    ServiceRun samplePlatform AcceptsFresh offeringStart crew ∧
    crew.shared.node.jobs.status "job-1" = some .queued ∧
    ∀ place, ¬ InPlace crew.shared "job-1" place := by
  obtain ⟨crew, next, run, jobs, idle, holds, sends⟩ :=
    offering_reached fresh_op_allowed fresh_on_empty fresh_without_job
  let role : Fin 2 → TaskRole := fun _ => .free
  let lost : Board (Fin 2) := { crew.shared with role := role }
  have freed : ∀ thread : Fin 2, ¬ thread = 1 → role thread = crew.shared.role thread := by
    intro thread other
    have first : thread = 0 := by omega
    rw [first, idle]
  have halted : (machine samplePlatform (Fin 2)).halts (· = 1) crew.shared lost :=
    ⟨crew.shared.node, role, rfl, fun _ _ => rfl, freed, rfl⟩
  have status : JobLedger.status lost "job-1" = some .queued := by
    change crew.shared.node.jobs.status "job-1" = _
    rw [jobs]
    exact offered_status_queued
  refine ⟨_, run.tail ⟨none, .halts halted, ?_, ?_⟩, status, ?_⟩
  · intro _ thread changed
    have second : thread = 1 := by
      by_contra other
      exact changed (freed thread other)
    subst second
    exact ⟨_, next, sends, rfl⟩
  · intro thread op next job impossible
    cases impossible
  · intro place there
    cases place with
    | queued =>
      obtain ⟨job, member, -⟩ := there
      rw [jobs] at member
      cases member
    | offered =>
      obtain ⟨thread, job, impossible, -⟩ := there
      cases impossible
    | running =>
      obtain ⟨thread, job, impossible | impossible | impossible, -⟩ := there <;> cases impossible
    | finished =>
      rcases there with done | done <;> rw [status] at done <;> cases done
    | transferred =>
      rw [InPlace, status] at there
      cases there
end Misaka.JobConservation
