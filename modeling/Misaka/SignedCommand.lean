import Misaka.JobDispatch

/-!
Which command a signed authorization lets a Sister run. The constraint check
asks every listed constraint to be the command, so an authorization that lists
none constrains nothing: it stands for any command, not for one.
-/

namespace Misaka.SignedCommand
open Identity Protocol JobManager AuthorizationStores EffectTask NodeRuntime AuthenticatedSession
open Dispatch JobDispatch

section Acceptance
variable (platform : Platform) (node : NodeConfig) (authorization : CommandAuthorization)

-- Some dispatch queues a job with this full command under the authorization.
def RunsUnder (command : String) : Prop :=
  ∃ envelope peer trace final event job,
    Traces (NodeStep platform) (dispatchEnvelope platform node envelope peer) trace final ∧
    event ∈ trace ∧ event.op = .enqueue job ∧ job.authorization = some authorization ∧
    job.command = command

-- Some message decodes to a job with this full command and the authorization attached.
def Carries (command : String) : Prop :=
  ∃ data job, platform.jobData data = .ok job ∧ job.executor = 0 ∧
    job.authorization = some authorization ∧ job.fullCommand = command

variable {platform node authorization} {command : String}

theorem constraints_name_command {constraint : String}
    (checked : constraintsOk authorization command = true)
    (listed : constraint ∈ authorization.constraints) : constraint = "command=" ++ command := by
  have stripped := List.all_eq_true.mp checked constraint listed
  rw [Option.any_eq_true] at stripped
  obtain ⟨rest, leads, same⟩ := stripped
  rw [strip_leading_some.mp leads, beq_iff_eq.mp same]

theorem unconstrained_accepts (empty : authorization.constraints = []) (command : String) :
    constraintsOk authorization command = true := by
  rw [constraintsOk, empty, List.all_nil]

variable (closed : node.allowUnauthenticatedOperations = false)
include closed

/-- What a run that queued a job under the authorization had established. -/
theorem runs_under_judged (runs : RunsUnder platform node authorization command) :
    ∃ authority now trace, Judged platform node command node.identity.id authorization authority
        now trace ∧
      Answered trace (.recordNonce node.dataDir authorization) (.ok ()) ∧
      ∀ event ∈ trace, NodeStep platform event.before event.op event.result event.after := by
  obtain ⟨envelope, peer, trace, final, event, job, run, member, queued, carried, rfl⟩ := runs
  obtain ⟨later, earlier, split⟩ := List.append_of_mem member
  have owed := (traced_event_guarded (dispatch_guarded closed envelope peer) run split).1
  rw [queued] at owed
  obtain ⟨found, authority, now, attached, judged, recorded⟩ := owed
  obtain rfl : found = authorization := Option.some.inj (attached.symm.trans carried)
  refine ⟨authority, now, earlier, judged, recorded, ?_⟩
  intro other present
  exact traced_event_step run (by simp [split, present])

theorem accepted_command_listed (constrained : authorization.constraints ≠ [])
    (runs : RunsUnder platform node authorization command) :
    "command=" ++ command ∈ authorization.constraints := by
  obtain ⟨_, _, _, judged, _⟩ := runs_under_judged closed runs
  obtain ⟨constraint, listed⟩ := List.exists_mem_of_ne_nil _ constrained
  exact constraints_name_command judged.constrained listed ▸ listed

theorem accepted_command_unique (constrained : authorization.constraints ≠ [])
    {first second : String} (runs : RunsUnder platform node authorization first)
    (other : RunsUnder platform node authorization second) : first = second := by
  have listed := accepted_command_listed closed constrained runs
  obtain ⟨_, _, _, judged, _⟩ := runs_under_judged closed other
  exact String.append_right_inj _ |>.mp (constraints_name_command judged.constrained listed)

/-- Without constraints, whatever let one command run lets any other run: the
same answers of the stores lead the second job into the queue. -/
theorem unconstrained_runs_any (empty : authorization.constraints = []) {accepted : String}
    (runs : RunsUnder platform node authorization accepted)
    (carries : Carries platform authorization command) :
    RunsUnder platform node authorization command := by
  obtain ⟨authority, now, trace, judged, ⟨spending, spent, recorded⟩, steps⟩ :=
    runs_under_judged closed runs
  obtain ⟨loading, loaded, load⟩ := judged.installed
  obtain ⟨reading, read, clock⟩ := judged.timely
  obtain ⟨revocations, ⟨listing, listed, list⟩, clean⟩ := judged.unrevoked
  obtain ⟨data, job, decoded, executor, carried, rfl⟩ := carries
  have acceptable : Acceptable platform node job authorization authority now revocations :=
    ⟨carried, Or.inl executor, judged.verified, judged.permission, judged.network, judged.targeted,
      unconstrained_accepts empty _, clean⟩
  have queue : NodeStep platform spent (.enqueue (localJob job)) ()
      { spent with jobs := spent.jobs.enqueue (localJob job) } := rfl
  have run : Traces (NodeStep platform)
      (dispatchEnvelope platform node (Envelope.new node.networkId .job 0 0 data) none) _
      (.done none) :=
    dispatch_accepts acceptable rfl rfl rfl decoded (steps _ load) (steps _ clock) (steps _ list)
      (steps _ recorded) queue
  exact ⟨_, _, _, _, _, localJob job, run, List.mem_cons_self, rfl, carried, rfl⟩

omit closed

/-- The constraint list pins the command exactly when it is not empty. -/
theorem command_determined_iff (closed : node.allowUnauthenticatedOperations = false)
    (acceptable : ∃ command, RunsUnder platform node authorization command)
    {first second : String} (different : first ≠ second)
    (carriesFirst : Carries platform authorization first)
    (carriesSecond : Carries platform authorization second) :
    ((∀ command, RunsUnder platform node authorization command →
        "command=" ++ command ∈ authorization.constraints) ↔ authorization.constraints ≠ []) ∧
    ((∀ command other, RunsUnder platform node authorization command →
        RunsUnder platform node authorization other → command = other) ↔
      authorization.constraints ≠ []) := by
  obtain ⟨accepted, runs⟩ := acceptable
  constructor
  · constructor
    · intro listed
      exact List.ne_nil_of_mem (listed accepted runs)
    · intro constrained command runs
      exact accepted_command_listed closed constrained runs
  · constructor
    · intro unique empty
      exact different (unique first second (unconstrained_runs_any closed empty runs carriesFirst)
        (unconstrained_runs_any closed empty runs carriesSecond))
    · intro constrained command other runs others
      exact accepted_command_unique closed constrained runs others

variable {constraints : List String}

theorem sample_runs_under
    (decoded : (jobPlatform constraints).jobData (sampleJob constraints command).encode =
      .ok (sampleJob constraints command))
    (constrained : constraintsOk (sampleAuthorization .jobSubmit constraints) command = true) :
    RunsUnder (jobPlatform constraints) sampleNode (sampleAuthorization .jobSubmit constraints)
      command :=
  ⟨_, _, _, _, _, localJob (sampleJob constraints command),
    sample_job_run decoded constrained, List.mem_cons_self, rfl, rfl, rfl⟩

theorem sample_carries
    (decoded : (jobPlatform constraints).jobData (sampleJob constraints command).encode =
      .ok (sampleJob constraints command)) :
    Carries (jobPlatform constraints) (sampleAuthorization .jobSubmit constraints) command :=
  ⟨_, sampleJob constraints command, decoded, rfl, rfl, rfl⟩

theorem constrained_sample_determined :
    ((∀ command, RunsUnder (jobPlatform ["command=ls"]) sampleNode
        (sampleAuthorization .jobSubmit ["command=ls"]) command →
        "command=" ++ command ∈ ["command=ls"]) ↔ ["command=ls"] ≠ []) ∧
    ((∀ command other, RunsUnder (jobPlatform ["command=ls"]) sampleNode
        (sampleAuthorization .jobSubmit ["command=ls"]) command →
        RunsUnder (jobPlatform ["command=ls"]) sampleNode
          (sampleAuthorization .jobSubmit ["command=ls"]) other → command = other) ↔
      ["command=ls"] ≠ []) :=
  command_determined_iff rfl ⟨"ls", sample_runs_under (first_job_decoded _) (by decide)⟩
    (by decide : "ls" ≠ "rm") (sample_carries (first_job_decoded _))
    (sample_carries (by decide +kernel))

/-- One authorization without constraints runs both commands and lists neither. -/
theorem unconstrained_sample_runs_both :
    RunsUnder (jobPlatform []) sampleNode (sampleAuthorization .jobSubmit []) "ls" ∧
    RunsUnder (jobPlatform []) sampleNode (sampleAuthorization .jobSubmit []) "rm" ∧
    "command=ls" ∉ (sampleAuthorization .jobSubmit []).constraints :=
  ⟨sample_runs_under (first_job_decoded _) rfl, sample_runs_under (by decide +kernel) rfl,
    by decide⟩
end Acceptance
end Misaka.SignedCommand
