import Misaka.ServiceRoles

/-!
Runs of the services of a node: any number of handlers, executors and submissions,
interleaved in any way, and dropped at any point where they await something. Every
step is one of the moves listed here, and a drop takes the variables of the dropped
tasks away; what both keep holds in every state of every run.
-/

namespace Misaka.ServiceMoves
open Identity Protocol JobManager EffectTask NodeRuntime RelyGuarantee JobServices ServiceRoles
variable {Index : Type} {state : NodeState}

/-! Everything a step of a service can do to the board. -/
section Moves
variable {platform : Platform} {node : NodeConfig} [DecidableEq Index]

inductive Move (node : NodeConfig) (service : Service) (op : ServiceOp) (thread : Index)
    (board : Board Index) : Board Index → Prop where
  | looks (state : NodeState) (envelopes : List Envelope) (same : state.jobs = board.node.jobs) :
      Move node service op thread board
        { board with node := state, sent := envelopes ++ board.sent }
  | draws (id : String) (held : board.role thread = .free) (fresh : id ∉ board.drawn) :
      Move node service op thread board
        { board with
          role := Function.update board.role thread (.named id)
          drawn := id :: board.drawn }
  | enqueues (job : LocalJob)
      (held : board.role thread = .free ∨ board.role thread = .named job.id)
      (accepted : op.accepts = some job) (queued : job.status = .queued)
      (placed : Placed node job) :
      Move node service op thread board
        (board.manage thread .free (board.node.jobs.enqueue job))
  | offers (job : LocalJob) (requester : SisterId) (after : Jobs)
      (held : board.role thread = .free) (asked : service.requester = some requester)
      (popping : board.node.jobs.popTransferable requester node.allowUnauthenticatedOperations =
        (some job, after)) :
      Move node service op thread board
        { board.manage thread (.offering job) after with popped := job :: board.popped }
  | putsBack (job : LocalJob) (held : board.role thread = .offering job) :
      Move node service op thread board
        { board.manage thread .free (board.node.jobs.pushBack job) with
          popped := board.popped.erase job }
  | transfers (job : LocalJob) (requester : SisterId) (now : UInt64)
      (held : board.role thread = .offering job)
      (sent : stolenEnvelope node job requester now ∈ board.sent) :
      Move node service op thread board
        { board.manage thread .free (board.node.jobs.markTransferred job.id) with
          popped := board.popped.eraseP (·.id == job.id) }
  | takes (job : LocalJob) (after : Jobs) (held : board.role thread = .free)
      (worker : service.requester = none)
      (popping : board.node.jobs.pop = (some job, after)) :
      Move node service op thread board
        { board.manage thread (.taken job) after with popped := job :: board.popped }
  | begins (job : LocalJob) (startedAt : UInt64) (held : board.role thread = .taken job) :
      Move node service op thread board
        { board.manage thread (.started job) (board.node.jobs.markRunning job.id startedAt) with
          popped := board.popped.eraseP (·.id == job.id) }
  | beginsInline (job : LocalJob) (startedAt : UInt64) (held : board.role thread = .named job.id)
      (accepted : op.accepts = some job) :
      Move node service op thread board
        (board.manage thread (.started job) (board.node.jobs.startInline job startedAt))
  | executes (job : LocalJob) (held : board.role thread = .started job) :
      Move node service op thread board
        { board with
          role := Function.update board.role thread (.ran job)
          executed := job.id :: board.executed }
  | finishes (job : LocalJob) (result : JobResultData) (held : board.role thread = .ran job) :
      Move node service op thread board
        (board.manage thread .free (board.node.jobs.markFinished job.id result))
  | reserves (id : String) (waiter : Waiter) (held : board.role thread = .named id)
      (fresh : ∀ entry ∈ board.reserved, entry.2 ≠ waiter) :
      Move node service op thread board
        { board.manage thread (.submitting id waiter)
            (board.node.jobs.reservePending id waiter) with
          reserved := (id, waiter) :: board.reserved }
  | cancels (id : String) (waiter : Waiter) (held : board.role thread = .submitting id waiter) :
      Move node service op thread board
        (board.manage thread .free (board.node.jobs.cancelPending id))
  | stopsWaiting (id : String) (waiter : Waiter)
      (held : board.role thread = .submitting id waiter)
      (past : (∃ data, (waiter, data) ∈ board.delivered) ∨
        ∀ id, board.node.jobs.pending.lookup id ≠ some waiter) :
      Move node service op thread board
        { board with role := Function.update board.role thread .free }
  | resolves (id : String) (waiter : Waiter) (held : board.role thread = .free)
      (found : board.node.jobs.pending.lookup id = some waiter) :
      Move node service op thread board
        (board.manage thread (.carrying id waiter) (board.node.jobs.cancelPending id))
  | misses (id : String) (held : board.role thread = .free)
      (absent : board.node.jobs.pending.lookup id = none) :
      Move node service op thread board
        (board.manage thread .free (board.node.jobs.cancelPending id))
  | delivers (waiter : Waiter) (result : JobResultData)
      (held : board.role thread = .carrying result.jobId waiter)
      (own : result.creator = node.identity.id) :
      Move node service op thread board
        { board with
          role := Function.update board.role thread .free
          delivered := (waiter, result) :: board.delivered }

variable {service : Service} {thread : Index} {board : Board Index} {op : ServiceOp}

theorem record_unchanged {result : op.Result}
    (same : nextRole op result (board.role thread) = board.role thread)
    (kept : board.record thread op result state =
      { board with
        node := state
        role := Function.update board.role thread (nextRole op result (board.role thread))
        sent := written op result ++ board.sent }) :
    board.record thread op result state =
      { board with node := state, sent := written op result ++ board.sent } := by
  rw [kept, same, Function.update_eq_self]

theorem quiet_move {op : RuntimeOp} {result : op.Result} (quiet : QuietOp op)
    (effect : NodeStep platform board.node op result state) :
    Move node service (.runtime op) thread board
      (board.record thread (.runtime op) result state) := by
  have unchanged : board.record thread (.runtime op) result state =
      { board with node := state, sent := written (.runtime op) result ++ board.sent } := by
    apply record_unchanged (quiet_role quiet result _)
    cases op <;> first | rfl | exact quiet.elim
  rw [unchanged]
  exact .looks state _ (quiet_jobs quiet effect)

theorem runtime_move {op : RuntimeOp} {result : op.Result}
    (legal : Legal node service board.sent (board.role thread) (.runtime op))
    (effect : NodeStep platform board.node op result state) :
    Move node service (.runtime op) thread board
      (board.record thread (.runtime op) result state) := by
  cases op with
  | enqueue job =>
    obtain ⟨held, queued, placed⟩ := legal
    cases effect
    exact .enqueues job held rfl queued placed
  | popTransferable requester allowed =>
    obtain ⟨held, asked, rfl⟩ := legal
    obtain ⟨jobs, popping, rfl⟩ := effect
    cases result with
    | some job => exact .offers job requester jobs held asked popping
    | none =>
      cases pop_transferable_none popping
      have unchanged : board.record thread (.runtime (.popTransferable requester
          node.allowUnauthenticatedOperations)) none board.node =
          { board with node := board.node, sent := [] ++ board.sent } :=
        record_unchanged rfl rfl
      exact unchanged ▸ .looks board.node [] rfl
  | pushBack job =>
    cases effect
    exact .putsBack job legal
  | markTransferred id =>
    obtain ⟨job, requester, now, held, rfl, sent⟩ := legal
    cases effect
    exact .transfers job requester now held sent
  | resolvePending id =>
    obtain ⟨jobs, resolving, rfl⟩ := effect
    have found : board.node.jobs.pending.lookup id = result := congrArg Prod.fst resolving
    have left : board.node.jobs.cancelPending id = jobs := congrArg Prod.snd resolving
    subst left
    cases result with
    | some waiter => exact .resolves id waiter legal found
    | none =>
      have missed : Move node service (.runtime (.resolvePending id)) thread board
          (board.manage thread .free (board.node.jobs.cancelPending id)) :=
        .misses id legal found
      rw [← legal] at missed
      exact missed
  | sendResult waiter data =>
    obtain ⟨held, own⟩ := legal
    cases effect
    exact .delivers waiter data held own
  | _ => exact quiet_move trivial effect

theorem service_move {result : op.Result}
    (legal : Legal node service board.sent (board.role thread) op)
    (answered : Answers board op result) (effect : NodeEffect platform board.node op result state) :
    Move node service op thread board (board.record thread op result state) := by
  cases op with
  | runtime op => exact runtime_move legal effect
  | newJobId =>
    cases effect
    exact .draws result legal answered
  | spawnResponseListener =>
    cases effect
    have unchanged : board.record thread .spawnResponseListener result board.node =
        { board with node := board.node, sent := [] ++ board.sent } := record_unchanged rfl rfl
    exact unchanged ▸ .looks board.node [] rfl
  | pop =>
    obtain ⟨held, worker⟩ := legal
    obtain ⟨jobs, popping, rfl⟩ := effect
    cases result with
    | some job => exact .takes job jobs held worker popping
    | none =>
      cases pop_none popping
      have unchanged : board.record thread .pop none board.node =
          { board with node := board.node, sent := [] ++ board.sent } :=
        record_unchanged rfl rfl
      exact unchanged ▸ .looks board.node [] rfl
  | markRunning id startedAt =>
    obtain ⟨job, held, rfl⟩ := legal
    cases effect
    rw [Board.record, held]
    exact .begins job startedAt held
  | executeBlocking command =>
    obtain ⟨job, held, rfl⟩ := legal
    cases effect
    rw [Board.record, held]
    exact .executes job held
  | markFinished id data =>
    obtain ⟨job, held, rfl⟩ := legal
    cases effect
    exact .finishes job data held
  | startInline job startedAt =>
    cases effect
    exact .beginsInline job startedAt legal rfl
  | reservePending id =>
    cases effect
    exact .reserves id result legal answered
  | cancelPending id =>
    obtain ⟨waiter, held⟩ := legal
    cases effect
    exact .cancels id waiter held
  | awaitResult waiter =>
    obtain ⟨id, held⟩ := legal
    cases effect
    cases result with
    | result data => exact .stopsWaiting id waiter held (Or.inl ⟨data, answered⟩)
    | closed => exact .stopsWaiting id waiter held (Or.inr answered.2.1)
    | timedOut =>
      have unchanged : board.record thread (.awaitResult waiter) .timedOut board.node =
          { board with node := board.node, sent := [] ++ board.sent } :=
        record_unchanged rfl rfl
      exact unchanged ▸ .looks board.node [] rfl
end Moves

/-! Runs. -/
section Runs
variable (platform : Platform) (node : NodeConfig) [DecidableEq Index]

abbrev ServiceCrew (Index : Type) :=
  Crew Index ServiceOp ServiceOp.Result MisakaError (Option JobResultData) Unit (Board Index)

def Suspended (task : ServiceTask MisakaError (Option JobResultData)) : Prop :=
  ∃ op next, task = .call op next ∧ op.awaits = true

def DropsAtAwait (actor : Option Index) (before after : ServiceCrew Index) : Prop :=
  actor = none → ∀ thread, after.shared.role thread ≠ before.shared.role thread →
    Suspended (before.task thread)

abbrev Condition (Index : Type) := Option Index → ServiceCrew Index → ServiceCrew Index → Prop

-- Runs without any condition.
def Unrestricted : Condition Index := fun _ _ _ => True

def ServiceRun (condition : Condition Index) : ServiceCrew Index → ServiceCrew Index → Prop :=
  Run (machine platform Index) fun actor before after =>
    DropsAtAwait actor before after ∧ condition actor before after

def opening (services : Index → Service) (state : NodeState) : ServiceCrew Index :=
  Crew.start (machine platform Index) (Board.start Index state) fun thread =>
    (services thread).program platform node

/-- What dropping tasks does: their variables are gone, and nobody is dropped with
a waiter in hand. -/
def Drops (before after : Board Index) : Prop :=
  ∃ state role, state.jobs = before.node.jobs ∧
    after = { before with node := state, role := role } ∧
    ∀ thread, role thread = before.role thread ∨
      (role thread = .free ∧ ∀ id waiter, before.role thread ≠ .carrying id waiter)

variable {platform node} {services : Index → Service}
variable {condition : Condition Index} {start before after : ServiceCrew Index}

theorem services_compatible :
    Compatible (machine platform Index) (terms node services)
      fun actor (before after : ServiceCrew Index) =>
        DropsAtAwait actor before after ∧ condition actor before after where
  acting := by
    intro actor before after _ taken _ _ other different op next _
    obtain ⟨op, next, outcome, -, result, state, -, -, -, recorded⟩ := step_progress taken
    rw [recorded]
    refine ⟨?_, fun envelope member => List.mem_append_right _ member⟩
    exact Function.update_of_ne different _ _
  halting := by
    intro before after _ taken _ other op next running
    obtain ⟨gone, ⟨state, role, -, -, kept, same⟩, staying⟩ := step_halted taken
    rw [same]
    exact ⟨kept other (staying other op next running), fun envelope member => member⟩

theorem opening_secured :
    AllSecured (machine platform Index) (terms node services)
      (opening platform node services state) := by
  intro thread
  apply secured_start (performs_program (services thread) rfl)
  exact ⟨rfl, fun _ member => by cases member⟩

theorem run_all_secured
    (run : ServiceRun platform condition (opening platform node services state) before) :
    AllSecured (machine platform Index) (terms node services) before :=
  run_secured services_compatible opening_secured run

variable (secured : AllSecured (machine platform Index) (terms node services) before)
include secured

theorem step_moves {thread : Index}
    (taken : Step (machine platform Index) (some thread) before after) :
    ∃ op next, before.task thread = .call op next ∧
      Move node (services thread) op thread before.shared after.shared := by
  obtain ⟨op, next, outcome, running, legal, result, state, -, answered, effect, recorded⟩ :=
    step_guarded secured taken
  refine ⟨op, next, running, ?_⟩
  rw [recorded]
  exact service_move legal answered effect

theorem step_drops (taken : Step (machine platform Index) none before after)
    (suspended : DropsAtAwait none before after) : Drops before.shared after.shared := by
  obtain ⟨gone, ⟨state, role, jobs, freed, kept, same⟩, -⟩ := step_halted taken
  refine ⟨state, role, jobs, same, fun thread => ?_⟩
  by_cases unchanged : role thread = before.shared.role thread
  · exact Or.inl unchanged
  · right
    have removed : gone thread := by
      by_contra stays
      exact unchanged (kept thread stays)
    refine ⟨freed thread removed, fun id waiter carries => ?_⟩
    have differs : after.shared.role thread ≠ before.shared.role thread := by
      rw [same]
      exact unchanged
    obtain ⟨op, next, running, awaits⟩ := suspended rfl thread differs
    have acting := secured thread
    rw [running] at acting
    have legal := secured_guard acting
    simp only [terms, carries] at legal
    obtain ⟨result, rfl⟩ := legal_carrying legal
    cases awaits

omit secured

/-- What the moves of the services and the dropping of tasks keep holds in every
state of a run. -/
theorem service_invariant {invariant : Board Index → Prop}
    (begins : invariant (Board.start Index state))
    (moves : ∀ thread op next before after, condition (some thread) before after →
      before.task thread = .call op next →
      Move node (services thread) op thread before.shared after.shared →
      invariant before.shared → invariant after.shared)
    (drops : ∀ before after, condition none before after → Drops before.shared after.shared →
      invariant before.shared → invariant after.shared)
    (run : ServiceRun platform condition (opening platform node services state) after) :
    invariant after.shared := by
  refine run_invariant services_compatible opening_secured ?_ begins run
  rintro (_ | thread) earlier later secured taken ⟨suspended, allowed⟩ holds
  · exact drops earlier later allowed (step_drops secured taken suspended) holds
  · obtain ⟨op, next, running, moved⟩ := step_moves secured taken
    exact moves thread op next earlier later allowed running moved holds

/-- A task that has ended holds nothing. -/
theorem ended_holds_nothing
    (run : ServiceRun platform condition (opening platform node services state) after)
    (thread : Index) (ended : ∀ op next, after.task thread ≠ .call op next) :
    after.shared.role thread = .free := by
  have lasting : Lasting (machine platform Index)
      fun thread (board : Board Index) => board.role thread = .free := by
    constructor
    · rintro actor before work op outcome after ⟨result, state, -, -, -, rfl⟩ other different free
      exact (Function.update_of_ne different _ _).trans free
    · rintro gone before after ⟨state, role, -, freed, kept, rfl⟩ thread removed
      by_cases dropped : gone thread
      · exact freed thread dropped
      · exact (kept thread dropped).trans (removed.resolve_left dropped)
  refine run_final services_compatible lasting opening_secured (fun thread => ?_) run thread ended
  apply finishing_start (performs_program (services thread) rfl)
  exact ⟨rfl, fun _ member => by cases member⟩
end Runs

/-! Runs in which one task goes on by itself. -/
section Alone
variable {platform : Platform} {condition : Condition Index}

def AnyOp (_ : Board Index) (_ : ServiceOp) : Prop := True

theorem any_op_allowed (thread : Index) (before after : ServiceCrew Index) (op : ServiceOp)
    (next : op.Result → ServiceTask MisakaError (Option JobResultData))
    (_ : before.task thread = .call op next) (_ : AnyOp before.shared op) :
    Unrestricted (some thread) before after := trivial

variable [DecidableEq Index]

def Acts (platform : Platform) (thread : Index) (board : Board Index) (op : ServiceOp)
    (result : op.Result) (after : Board Index) : Prop :=
  Answers board op result ∧ ∃ state, NodeEffect platform board.node op result state ∧
    after = board.record thread op result state

variable {thread : Index} {board : Board Index}

theorem acts_with {op : ServiceOp} {after : NodeState} (result : op.Result)
    (answered : Answers board op result) (effect : NodeEffect platform board.node op result after) :
    Acts platform thread board op result (board.record thread op result after) :=
  ⟨answered, after, effect, rfl⟩

theorem run_alone {fits : Board Index → ServiceOp → Prop} {crew : ServiceCrew Index}
    {task : ServiceTask MisakaError (Option JobResultData)}
    (allowed : ∀ (before after : ServiceCrew Index) op next, before.task thread = .call op next →
      fits before.shared op → condition (some thread) before after)
    (run : Reaches (fun board op result after => fits board op ∧
        Acts platform thread board op result after) (crew.task thread) crew.shared task board) :
    ServiceRun platform condition crew (crew.advance thread task () board) := by
  have moves : Reaches (fun before op result after => fits before op ∧
      (machine platform Index).progress thread before () op (.inr result) after)
      (crew.task thread) crew.shared task board := by
    refine reaches_mono ?_ run
    rintro before op result after ⟨fit, answered, state, effect, rfl⟩
    exact ⟨fit, result, state, rfl, answered, effect, rfl⟩
  refine run_solo ?_ rfl moves
  intro before after op next running fit
  refine ⟨fun impossible => ?_, allowed before after op next running fit⟩
  cases impossible
end Alone
end Misaka.ServiceMoves
