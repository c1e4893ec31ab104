import Misaka.Dispatch
import Misaka.RelyGuarantee

/-!
Everything on a node that touches the job manager: the handlers of inbound
envelopes, the executor loop, and the three ways to submit a job. Any number of
them run at the same time over one node, and any of them may be dropped where it
awaits something. Beside the node the board keeps what has happened (which jobs
were popped and not yet marked, which commands ran, which envelopes went out,
which results reached a waiter) and what each task holds in its local variables.
-/

namespace Misaka.JobServices
open Bincode Identity Protocol PeerKnowledge JobManager EffectTask NodeRuntime
open AuthenticatedSession ControlChannel HumanAuthorization Dispatch RelyGuarantee

structure CommandResult where
  stdout : String
  stderr : String
  exitCode : Int32
deriving DecidableEq

def CommandResult.fullOutput (result : CommandResult) : String :=
  if result.stderr.isEmpty then result.stdout else result.stdout ++ "\n" ++ result.stderr

def CommandResult.success (result : CommandResult) : Bool := result.exitCode == 0

/-- How waiting for a result ends. -/
inductive Waited where
  | result (data : JobResultData)
  | closed
  | timedOut
deriving DecidableEq

inductive ServiceOp where
  | runtime (op : RuntimeOp)
  | newJobId
  | spawnResponseListener
  | pop
  | markRunning (id : String) (startedAt : UInt64)
  | executeBlocking (command : String)
  | markFinished (id : String) (result : JobResultData)
  | startInline (job : LocalJob) (startedAt : UInt64)
  | reservePending (id : String)
  | cancelPending (id : String)
  | awaitResult (waiter : Waiter)

abbrev ServiceOp.Result : ServiceOp → Type
  | .runtime op => op.Result
  | .newJobId => String
  | .spawnResponseListener => Except MisakaError SocketAddr
  | .pop => Option LocalJob
  | .executeBlocking _ => CommandResult
  | .reservePending _ => Waiter
  | .awaitResult _ => Waited
  | _ => Unit

-- The job an operation brings into the manager.
def ServiceOp.accepts : ServiceOp → Option LocalJob
  | .runtime (.enqueue job) => some job
  | .startInline job _ => some job
  | _ => none

-- A future can be dropped only where it is suspended.
def ServiceOp.awaits : ServiceOp → Bool
  | .runtime .nowSecs | .runtime .random32 | .runtime .newUuid | .runtime (.sign _ _) => false
  | .runtime (.loadAuthority _) | .runtime (.loadRevocations _) => false
  | .runtime (.recordNonce _ _) | .runtime (.spawnPeerRecords _) => false
  | .runtime (.popTransferable _ _) | .runtime (.pushBack _) => false
  | .runtime (.resolvePending _) | .runtime (.sendResult _ _) => false
  | .newJobId | .pop | .reservePending _ | .cancelPending _ => false
  | _ => true

abbrev ServiceTask (Err Val : Type) := Task ServiceOp ServiceOp.Result Err Val

abbrev runtimeResult (op : RuntimeOp) (result : (ServiceOp.runtime op).Result) : op.Result :=
  result

section Code
variable (platform : Platform) (node : NodeConfig)

def runtime {Err Val : Type} (task : RuntimeTask Err Val) : ServiceTask Err Val :=
  lift ServiceOp.runtime runtimeResult task

/-- The envelope a job is handed to a requester in. -/
def stolenEnvelope (job : LocalJob) (requester : SisterId) (now : UInt64) : Envelope :=
  Envelope.new node.networkId .job node.identity.id requester
    (stolenJob node job requester now).encode

def jobResult (id : String) (creator : SisterId) (result : CommandResult)
    (started finished : UInt64) : JobResultData where
  jobId := id
  creator := creator
  executor := node.identity.id
  output := result.fullOutput
  exitCode := result.exitCode
  success := result.success
  startedAt := started
  finishedAt := finished

-- Over Iroh there is no fallback to the TCP callback address.
def returnResult (job : LocalJob) (result : JobResultData) : RuntimeTask MisakaError Unit :=
  let envelope := Envelope.new node.networkId .jobResponse node.identity.id job.creator
    result.encode
  match node.streamBackend with
  | .iroh => do
      let _ ← (attempt (sendFireToPeer platform node job.creator envelope) :
        RuntimeTask MisakaError (Except MisakaError Unit))
  | .directTcp =>
    match job.creatorAddr.bind fun addr => (platform.parseSocketAddr addr).toOption with
    | some addr => do
        let _ ← (attempt (sendFire addr envelope) :
          RuntimeTask MisakaError (Except MisakaError Unit))
    | none => pure ()

def executeJob (job : LocalJob) : ServiceTask MisakaError Unit := do
  let started ← perform (ServiceOp.runtime .nowSecs)
  perform (ServiceOp.markRunning job.id started)
  let result ← perform (ServiceOp.executeBlocking job.command)
  let finished ← perform (ServiceOp.runtime .nowSecs)
  let data := jobResult node job.id job.creator result (job.startedAt.getD started) finished
  perform (ServiceOp.markFinished job.id data)
  if job.creator ≠ node.identity.id then runtime (returnResult platform node job data)
  else pure ()

/-- One turn of `executor::run`. -/
def executorTurn : ServiceTask MisakaError Unit := do
  match ← perform ServiceOp.pop with
  | some job => executeJob platform node job
  | none => pure ()

/-- `SisterNode::execute_and_record`. -/
def executeAndRecord (id command : String) : ServiceTask MisakaError JobResultData := do
  let started ← perform (ServiceOp.runtime .nowSecs)
  let job := { LocalJob.new id command with creator := node.identity.id }
  perform (ServiceOp.startInline job started)
  let result ← perform (ServiceOp.executeBlocking command)
  let finished ← perform (ServiceOp.runtime .nowSecs)
  let data := jobResult node id node.identity.id result started finished
  perform (ServiceOp.markFinished id data)
  pure data

def runLocalSync (command : String) : ServiceTask MisakaError JobResultData := do
  let id ← perform ServiceOp.newJobId
  executeAndRecord node id command

def submitLocal (command : String) : ServiceTask MisakaError Unit := do
  let id ← perform ServiceOp.newJobId
  let job := { LocalJob.new id command with creator := node.identity.id }
  perform (ServiceOp.runtime (.enqueue job))

-- Where the result is to be sent: only direct TCP needs a listener of its own.
def callbackAddr (executor : SisterId) : ServiceTask MisakaError String :=
  if executor = node.identity.id then pure node.listenAddr
  else
    match node.streamBackend with
    | .iroh => pure node.listenAddr
    | .directTcp => do
        let spawned ← perform ServiceOp.spawnResponseListener
        let addr ← orError id spawned
        pure addr.text

def deliverJob (executor : SisterId) (envelope : Envelope) : RuntimeTask MisakaError Unit :=
  match node.streamBackend with
  | .iroh => sendFireToPeer platform node executor envelope
  | .directTcp => do
      let row ← perform (RuntimeOp.peerGet executor)
      let addr ← orFail (addrOf platform row)
        (.other ("no address for executor #" ++ toString executor.toNat))
      sendFire addr envelope

def awaitJob (id : String) (waiter : Waiter) : ServiceTask MisakaError JobResultData := do
  match ← perform (ServiceOp.awaitResult waiter) with
  | .result data => pure data
  | .closed => .fail (.other ("job " ++ id ++ " canceled"))
  | .timedOut => do
      perform (ServiceOp.cancelPending id)
      .fail (.other ("job " ++ id ++ " timed out"))

/-- `SisterNode::submit_to_sister_authorized`. -/
def submitToSisterAuthorized (executor : SisterId) (command : String)
    (authorization : Option CommandAuthorization) : ServiceTask MisakaError JobResultData := do
  let myListen ← callbackAddr node executor
  let id ← perform ServiceOp.newJobId
  let now ← perform (ServiceOp.runtime .nowSecs)
  let job : JobData :=
    { id := id
      creator := node.identity.id
      executor := executor
      creatorAddr := myListen
      command := command
      arguments := []
      createdAt := now
      authorization := authorization }
  if executor = node.identity.id then executeAndRecord node id command
  else do
    let waiter ← perform (ServiceOp.reservePending id)
    let envelope := Envelope.new node.networkId .job node.identity.id executor job.encode
    match ← attempt (runtime (deliverJob platform node executor envelope)) with
    | .ok _ => awaitJob id waiter
    | .error error => do
        perform (ServiceOp.cancelPending id)
        .fail error

inductive Service where
  | handler (envelope : Envelope) (peer : Option AuthenticatedPeer)
  | executor (turns : Nat)
  | submitLocal (command : String)
  | runLocalSync (command : String)
  | submitToSister (sister : SisterId) (command : String)
      (authorization : Option CommandAuthorization)

/-- What a service does, with the result it gives to its caller. -/
def Service.program : Service → ServiceTask MisakaError (Option JobResultData)
  | .handler envelope peer => do
      let _ ← runtime (dispatchEnvelope platform node envelope peer)
      pure none
  | .executor turns => do
      forEach (List.replicate turns ()) fun _ => executorTurn platform node
      pure none
  | .submitLocal command => do
      JobServices.submitLocal node command
      pure none
  | .runLocalSync command => do
      let data ← JobServices.runLocalSync node command
      pure (some data)
  | .submitToSister sister command authorization => do
      let data ← submitToSisterAuthorized platform node sister command authorization
      pure (some data)

-- Whom a service may hand jobs of the queue to.
def Service.requester : Service → Option SisterId
  | .handler envelope _ => some envelope.sender
  | _ => none
end Code

/-! The board. -/
section Boards

/-- What a task holds: the id it has drawn, a job it has popped or is running, the
place of its waiter, or a waiter it has taken out to send a result to. -/
inductive TaskRole where
  | free
  | named (id : String)
  | offering (job : LocalJob)
  | taken (job : LocalJob)
  | started (job : LocalJob)
  | ran (job : LocalJob)
  | submitting (id : String) (waiter : Waiter)
  | carrying (id : String) (waiter : Waiter)
deriving DecidableEq

-- The job of a task that has popped it and not marked it yet.
def TaskRole.poppedJob : TaskRole → Option LocalJob
  | .offering job | .taken job => some job
  | _ => none

-- The job of a task that has marked it running.
def TaskRole.runningJob : TaskRole → Option LocalJob
  | .started job | .ran job => some job
  | _ => none

structure Board (Index : Type) where
  node : NodeState
  role : Index → TaskRole
  -- Popped, and not yet put back or marked as running or transferred.
  popped : List LocalJob
  -- The jobs whose command was run.
  executed : List String
  sent : List Envelope
  drawn : List String
  reserved : List (String × Waiter)
  delivered : List (Waiter × JobResultData)

variable (op : ServiceOp)

def nextRole (result : op.Result) (role : TaskRole) : TaskRole :=
  match op, result, role with
  | .runtime (.enqueue _), _, _ => .free
  | .runtime (.popTransferable _ _), some job, _ => .offering job
  | .runtime (.pushBack _), _, _ => .free
  | .runtime (.markTransferred _), _, _ => .free
  | .runtime (.resolvePending id), some waiter, _ => .carrying id waiter
  | .runtime (.sendResult _ _), _, _ => .free
  | .newJobId, id, _ => .named id
  | .pop, some job, _ => .taken job
  | .markRunning _ _, _, .taken job => .started job
  | .executeBlocking _, _, .started job => .ran job
  | .markFinished _ _, _, _ => .free
  | .startInline job _, _, _ => .started job
  | .reservePending id, waiter, _ => .submitting id waiter
  | .cancelPending _, _, _ => .free
  | .awaitResult _, .result _, _ => .free
  | .awaitResult _, .closed, _ => .free
  | _, _, role => role

def nextPopped (result : op.Result) (popped : List LocalJob) : List LocalJob :=
  match op, result with
  | .runtime (.popTransferable _ _), some job => job :: popped
  | .pop, some job => job :: popped
  | .runtime (.pushBack job), _ => popped.erase job
  | .runtime (.markTransferred id), _ => popped.eraseP (·.id == id)
  | .markRunning id _, _ => popped.eraseP (·.id == id)
  | _, _ => popped

def nextExecuted (role : TaskRole) (executed : List String) : List String :=
  match op, role with
  | .executeBlocking _, .started job => job.id :: executed
  | _, _ => executed

-- The message that leaves the node with this operation.
def written (result : op.Result) : List Envelope :=
  match op, result with
  | .runtime (.write _ (.control request)), .ok _ => [request.envelope]
  | .runtime (.tcpWrite _ envelope), .ok _ => [envelope]
  | _, _ => []

def nextDrawn (result : op.Result) (drawn : List String) : List String :=
  match op, result with
  | .newJobId, id => id :: drawn
  | _, _ => drawn

def nextReserved (result : op.Result) (reserved : List (String × Waiter)) :
    List (String × Waiter) :=
  match op, result with
  | .reservePending id, waiter => (id, waiter) :: reserved
  | _, _ => reserved

def nextDelivered (delivered : List (Waiter × JobResultData)) :
    List (Waiter × JobResultData) :=
  match op with
  | .runtime (.sendResult waiter result) => (waiter, result) :: delivered
  | _ => delivered

variable {Index : Type} [DecidableEq Index]

def Board.record (board : Board Index) (thread : Index) (op : ServiceOp) (result : op.Result)
    (node : NodeState) : Board Index where
  node := node
  role := Function.update board.role thread (nextRole op result (board.role thread))
  popped := nextPopped op result board.popped
  executed := nextExecuted op (board.role thread) board.executed
  sent := written op result ++ board.sent
  drawn := nextDrawn op result board.drawn
  reserved := nextReserved op result board.reserved
  delivered := nextDelivered op board.delivered

def Board.manage (board : Board Index) (thread : Index) (role : TaskRole) (jobs : Jobs) :
    Board Index :=
  { board with
    node := { board.node with jobs := jobs }
    role := Function.update board.role thread role }

/-- A node that has just started: no job, no waiter, every task at its beginning. -/
def Board.start (Index : Type) (node : NodeState) : Board Index where
  node := { node with jobs := .new }
  role := fun _ => .free
  popped := []
  executed := []
  sent := []
  drawn := []
  reserved := []
  delivered := []

/-- What the environment may answer. An id is drawn once, a channel is made once. A
timed wait looks at its channel before its clock, and a channel is closed when its
sender is neither in the map nor in anyone's hands. -/
def Answers (board : Board Index) (op : ServiceOp) (result : op.Result) : Prop :=
  match op, result with
  | .newJobId, id => id ∉ board.drawn
  | .reservePending _, waiter => ∀ entry ∈ board.reserved, entry.2 ≠ waiter
  | .awaitResult waiter, .result data => (waiter, data) ∈ board.delivered
  | .awaitResult waiter, .timedOut => ∀ entry ∈ board.delivered, entry.1 ≠ waiter
  | .awaitResult waiter, .closed => (∀ entry ∈ board.delivered, entry.1 ≠ waiter) ∧
      (∀ id, board.node.jobs.pending.lookup id ≠ some waiter) ∧
      ∀ thread id, board.role thread ≠ .carrying id waiter
  | _, _ => True

def NodeEffect (platform : Platform) (before : NodeState) (op : ServiceOp) (result : op.Result)
    (after : NodeState) : Prop :=
  match op, result with
  | .runtime op, result => NodeStep platform before op result after
  | .pop, popped => ∃ jobs, before.jobs.pop = (popped, jobs) ∧ after = { before with jobs := jobs }
  | .markRunning id startedAt, _ =>
    after = { before with jobs := before.jobs.markRunning id startedAt }
  | .markFinished id result, _ =>
    after = { before with jobs := before.jobs.markFinished id result }
  | .startInline job startedAt, _ =>
    after = { before with jobs := before.jobs.startInline job startedAt }
  | .reservePending id, waiter =>
    after = { before with jobs := before.jobs.reservePending id waiter }
  | .cancelPending id, _ => after = { before with jobs := before.jobs.cancelPending id }
  | _, _ => after = before

/-- The services of one node. A halt drops some tasks, and whatever they held in
their variables with them; with no task dropped it is time passing, or one of the
node's other loops at work on anything but the jobs. -/
def machine (platform : Platform) (Index : Type) [DecidableEq Index] :
    Machine Index ServiceOp ServiceOp.Result MisakaError Unit (Board Index) where
  idle := ()
  cut := .other "aborted"
  progress thread before _ op outcome after := ∃ result node, outcome = .inr result ∧
    Answers before op result ∧ NodeEffect platform before.node op result node ∧
    after = before.record thread op result node
  halts gone before after := ∃ node role, node.jobs = before.node.jobs ∧
    (∀ thread, gone thread → role thread = .free) ∧
    (∀ thread, ¬ gone thread → role thread = before.role thread) ∧
    after = { before with node := node, role := role }
end Boards
end Misaka.JobServices
