import Misaka.Protocol

/-!
Local job metadata, the queue of jobs waiting to run and the waiters for
results of jobs submitted elsewhere. A waiter is a one-shot channel; only its
identity is kept.
-/

namespace Misaka.JobManager
open Identity Protocol

inductive JobStatus where
  | queued | running | transferred | completed | failed
deriving DecidableEq

structure LocalJob where
  id : String
  command : String
  status : JobStatus
  startedAt : Option UInt64
  finishedAt : Option UInt64
  resultOutput : Option String
  creator : SisterId
  creatorAddr : Option String
  authorization : Option CommandAuthorization
deriving DecidableEq

def LocalJob.new (id command : String) : LocalJob where
  id := id
  command := command
  status := .queued
  startedAt := none
  finishedAt := none
  resultOutput := none
  creator := 0
  creatorAddr := none
  authorization := none

structure Waiter where
  channel : Nat
deriving DecidableEq

structure Jobs where
  queue : List LocalJob
  jobs : Finmap fun _ : String => LocalJob
  pending : Finmap fun _ : String => Waiter

def Jobs.enqueue (jobs : Jobs) (job : LocalJob) : Jobs :=
  { jobs with queue := jobs.queue ++ [job], jobs := jobs.jobs.insert job.id job }

def Jobs.pushBack (jobs : Jobs) (job : LocalJob) : Jobs :=
  { jobs with queue := jobs.queue ++ [job] }

/-- `job_transferable`: an authorized job may only go to the Sister it names. -/
def transferable (job : LocalJob) (requester : SisterId) (allowUnauthenticated : Bool) : Bool :=
  match job.authorization with
  | some authorization => authorization.target == some (.sister requester)
  | none => allowUnauthenticated

-- `JobQueue::pop_where`: the first match leaves, the others keep their order.
def popWhere (wanted : LocalJob → Bool) : List LocalJob → Option (LocalJob × List LocalJob)
  | [] => none
  | job :: rest =>
    if wanted job then some (job, rest)
    else (popWhere wanted rest).map fun popped => (popped.1, job :: popped.2)

def Jobs.popTransferable (jobs : Jobs) (requester : SisterId) (allowUnauthenticated : Bool) :
    Option LocalJob × Jobs :=
  match popWhere (transferable · requester allowUnauthenticated) jobs.queue with
  | some (job, rest) => (some job, { jobs with queue := rest })
  | none => (none, jobs)

def Jobs.markTransferred (jobs : Jobs) (id : String) : Jobs :=
  match jobs.jobs.lookup id with
  | some job => { jobs with jobs := jobs.jobs.insert id { job with status := .transferred } }
  | none => jobs

def Jobs.resolvePending (jobs : Jobs) (id : String) : Option Waiter × Jobs :=
  (jobs.pending.lookup id, { jobs with pending := jobs.pending.erase id })

/-- `JobManager::new`. -/
def Jobs.new : Jobs := ⟨[], ∅, ∅⟩

variable (jobs : Jobs)

-- Work an inline executor already owns: recorded, never queued.
def Jobs.startInline (job : LocalJob) (startedAt : UInt64) : Jobs :=
  let running := { job with status := .running, startedAt := some startedAt }
  { jobs with jobs := jobs.jobs.insert job.id running }

def Jobs.pop : Option LocalJob × Jobs :=
  match jobs.queue with
  | job :: rest => (some job, { jobs with queue := rest })
  | [] => (none, jobs)

variable (id : String)

-- `if let Some(job) = jobs.get_mut(id)`.
def Jobs.modify (change : LocalJob → LocalJob) : Jobs :=
  match jobs.jobs.lookup id with
  | some job => { jobs with jobs := jobs.jobs.insert id (change job) }
  | none => jobs

def Jobs.markRunning (startedAt : UInt64) : Jobs :=
  jobs.modify id fun job => { job with status := .running, startedAt := some startedAt }

def Jobs.markFinished (result : JobResultData) : Jobs :=
  jobs.modify id fun job =>
    { job with
      status := if result.success then .completed else .failed
      finishedAt := some result.finishedAt
      resultOutput := some result.output }

def Jobs.reservePending (waiter : Waiter) : Jobs :=
  { jobs with pending := jobs.pending.insert id waiter }

def Jobs.cancelPending : Jobs :=
  { jobs with pending := jobs.pending.erase id }

def Jobs.countQueued : Nat :=
  jobs.jobs.entries.countP fun entry => entry.2.status = .queued

/-- The status recorded under an id. -/
def Jobs.status (id : String) : Option JobStatus :=
  (jobs.jobs.lookup id).map (·.status)

variable {job : LocalJob}

theorem pop_where_wanted {wanted : LocalJob → Bool} {queue rest : List LocalJob}
    (popped : popWhere wanted queue = some (job, rest)) :
    wanted job = true ∧ queue.Perm (job :: rest) := by
  induction queue generalizing rest with
  | nil => cases popped
  | cons first queue ih =>
    rw [popWhere] at popped
    split at popped
    · rename_i selected
      cases popped
      exact ⟨selected, List.Perm.refl _⟩
    · simp only [Option.map_eq_some_iff, Prod.exists, Prod.mk.injEq] at popped
      obtain ⟨found, tail, popped, rfl, rfl⟩ := popped
      obtain ⟨selected, same⟩ := ih popped
      exact ⟨selected, (same.cons first).trans (List.Perm.swap _ _ _)⟩

variable {jobs after : Jobs} {requester : SisterId} {allowUnauthenticated : Bool}

theorem pop_transferable_some
    (popped : jobs.popTransferable requester allowUnauthenticated = (some job, after)) :
    transferable job requester allowUnauthenticated = true ∧
      jobs.queue.Perm (job :: after.queue) := by
  unfold Jobs.popTransferable at popped
  split at popped
  · rename_i found rest taken
    cases popped
    exact pop_where_wanted taken
  · cases popped

variable {popped : Option LocalJob}

theorem pop_transferable_count
    (popping : jobs.popTransferable requester allowUnauthenticated = (popped, after))
    (job : LocalJob) : after.queue.count job ≤ jobs.queue.count job := by
  cases popped with
  | some taken =>
    rw [(pop_transferable_some popping).2.count_eq job]
    exact List.count_le_count_cons
  | none =>
    unfold Jobs.popTransferable at popping
    split at popping
    · cases popping
    · cases popping
      exact Nat.le_refl _

theorem pop_some (popped : jobs.pop = (some job, after)) :
    jobs.queue = job :: after.queue ∧ after = { jobs with queue := after.queue } := by
  unfold Jobs.pop at popped
  split at popped
  · rename_i first rest waiting
    cases popped
    exact ⟨waiting, rfl⟩
  · cases popped

theorem pop_none (popped : jobs.pop = (none, after)) : after = jobs := by
  unfold Jobs.pop at popped
  split at popped
  · cases popped
  · cases popped
    rfl

theorem pop_transferable_rest
    (popping : jobs.popTransferable requester allowUnauthenticated = (popped, after)) :
    after = { jobs with queue := after.queue } := by
  unfold Jobs.popTransferable at popping
  split at popping
  · cases popping
    rfl
  · cases popping
    rfl

theorem pop_transferable_none
    (popping : jobs.popTransferable requester allowUnauthenticated = (none, after)) :
    after = jobs := by
  unfold Jobs.popTransferable at popping
  split at popping
  · cases popping
  · cases popping
    rfl

@[simp] theorem modify_queue (jobs : Jobs) (id : String) (change : LocalJob → LocalJob) :
    (jobs.modify id change).queue = jobs.queue := by
  unfold Jobs.modify
  split <;> rfl

@[simp] theorem modify_pending (jobs : Jobs) (id : String) (change : LocalJob → LocalJob) :
    (jobs.modify id change).pending = jobs.pending := by
  unfold Jobs.modify
  split <;> rfl

theorem status_modify (jobs : Jobs) (id other : String) (change : LocalJob → LocalJob) :
    (jobs.modify id change).status other =
      if other = id then (jobs.jobs.lookup id).map (fun job => (change job).status)
      else jobs.status other := by
  unfold Jobs.modify Jobs.status
  split
  · rename_i job recorded
    by_cases same : other = id
    · subst same
      simp [recorded]
    · simp [same, Finmap.lookup_insert_of_ne]
  · rename_i missing
    by_cases same : other = id
    · subst same
      simp [missing]
    · simp [same]

variable {jobs : Jobs}

theorem status_marked {id other : String} {change : LocalJob → LocalJob}
    {earlier status : JobStatus} (recorded : jobs.status id = some earlier)
    (marks : ∀ job, (change job).status = status) :
    (jobs.modify id change).status other =
      if other = id then some status else jobs.status other := by
  rw [status_modify]
  split
  · rw [Jobs.status] at recorded
    cases found : jobs.jobs.lookup id with
    | none => simp [found] at recorded
    | some job => simp [marks]
  · rfl

variable {id : String} {earlier : JobStatus}

theorem status_mark_running (recorded : jobs.status id = some earlier) (startedAt : UInt64)
    (other : String) :
    (jobs.markRunning id startedAt).status other =
      if other = id then some .running else jobs.status other :=
  status_marked recorded fun _ => rfl

theorem status_mark_finished (recorded : jobs.status id = some earlier) (result : JobResultData)
    (other : String) :
    (jobs.markFinished id result).status other =
      if other = id then some (if result.success then .completed else .failed)
      else jobs.status other :=
  status_marked recorded fun _ => rfl

theorem status_mark_transferred (recorded : jobs.status id = some earlier) (other : String) :
    (jobs.markTransferred id).status other =
      if other = id then some .transferred else jobs.status other :=
  have changed : jobs.markTransferred id =
      jobs.modify id fun job => { job with status := .transferred } := rfl
  changed ▸ status_marked recorded fun _ => rfl

theorem status_enqueue (jobs : Jobs) (job : LocalJob) (id : String) :
    (jobs.enqueue job).status id = if id = job.id then some job.status else jobs.status id := by
  unfold Jobs.status Jobs.enqueue
  by_cases same : id = job.id
  · subst same
    simp
  · simp [same, Finmap.lookup_insert_of_ne]

theorem status_start_inline (jobs : Jobs) (job : LocalJob) (startedAt : UInt64) (id : String) :
    (jobs.startInline job startedAt).status id =
      if id = job.id then some .running else jobs.status id := by
  unfold Jobs.status Jobs.startInline
  by_cases same : id = job.id
  · subst same
    simp
  · simp [same, Finmap.lookup_insert_of_ne]

theorem recorded_status :
    id ∈ jobs.jobs ↔ ∃ status, jobs.status id = some status := by
  rw [← Finmap.lookup_isSome, Option.isSome_iff_exists, Jobs.status]
  simp

/-- Counting the queued records is counting the ids that are recorded as queued. -/
theorem count_queued_ids {ids : List String} (distinct : ids.Nodup)
    (listed : ∀ id, jobs.status id = some .queued ↔ id ∈ ids) :
    jobs.countQueued = ids.length := by
  let queued := jobs.jobs.entries.filter fun entry => entry.2.status = .queued
  have once : (queued.map Sigma.fst).Nodup :=
    Multiset.nodup_of_le (Multiset.map_le_map (Multiset.filter_le _ _))
      jobs.jobs.nodupKeys.nodup_keys
  have same : queued.map Sigma.fst = (ids : Multiset String) := by
    refine (Multiset.Nodup.ext once (Multiset.coe_nodup.mpr distinct)).mpr fun id => ?_
    rw [Multiset.mem_coe, ← listed, Jobs.status, Option.map_eq_some_iff]
    simp only [queued, Multiset.mem_map, Multiset.mem_filter]
    constructor
    · rintro ⟨⟨id, job⟩, ⟨recorded, waiting⟩, rfl⟩
      exact ⟨job, Finmap.mem_lookup_iff.mpr recorded, waiting⟩
    · rintro ⟨job, recorded, waiting⟩
      exact ⟨⟨id, job⟩, ⟨Finmap.mem_lookup_iff.mp recorded, waiting⟩, rfl⟩
  calc jobs.countQueued = Multiset.card queued := Multiset.countP_eq_card_filter _ _
    _ = Multiset.card (queued.map Sigma.fst) := (Multiset.card_map _ _).symm
    _ = ids.length := by rw [same, Multiset.coe_card]

theorem mark_transferred_queue (jobs : Jobs) (id : String) :
    (jobs.markTransferred id).queue = jobs.queue := by
  unfold Jobs.markTransferred
  split <;> rfl
end Misaka.JobManager
