import Misaka.AuthenticatedSession
import Misaka.RelyGuarantee

/-!
The connection manager. It records for every Sister whether a connection is being
opened, keeps one Iroh session a Sister for later streams, and otherwise races the
endpoints the peer table lists, over TCP and over Iroh. Calls of the manager share
its two maps; each map operation happens under its lock, and a call may be dropped
wherever it awaits something.
-/

namespace Misaka.ConnectionManager
open Identity PeerKnowledge NodeRuntime AuthenticatedSession EffectTask RelyGuarantee

inductive ConnectionState where
  | disconnected | connecting | connected
deriving DecidableEq

inductive ConnectionError where
  | unknownSister (sister : SisterId)
  | noStreamEndpoint (sister : SisterId)
  | invalidEndpoint (sister : SisterId) (endpoint reason : String)
  | connect (sister : SisterId) (source : NetworkError)
  | alreadyConnecting (sister : SisterId)
deriving DecidableEq

inductive PathKind where
  | lan | direct | iroh | relay
deriving DecidableEq

def PathKind.priority : PathKind → Nat
  | .lan => 10
  | .direct => 20
  | .iroh => 25
  | .relay => 30

structure EndpointCandidate where
  endpoint : NetworkEndpoint
  kind : PathKind
  priority : Nat
deriving DecidableEq

/-- `SisterConnector`, with the network of its peer service and the test of an address
for a loopback, private or link-local one. -/
structure SisterConnector where
  networkId : NetworkId
  irohBackend : Bool
  authenticatedSession : Option AuthenticatedSessionConfig
  isLan : SocketAddr → Bool

structure ConnectedStream where
  stream : NetworkStream
  irohSession : Option Session
deriving DecidableEq

/-- What a call does outside its own variables. A result `none` of `openCached` is an
error or a timeout; `nextCompleted` is the attempt of a race that ends next. -/
inductive ManagerOp where
  | recordConnecting (sister : SisterId)
  | setState (sister : SisterId) (state : ConnectionState)
  | cachedSession (sister : SisterId)
  | removeSession (sister : SisterId)
  | insertSession (sister : SisterId) (session : Session)
  | isClosed (session : Session)
  | close (session : Session)
  | openCached (session : Session)
  | peerGet (sister : SisterId)
  | nextCompleted (attempts : List EndpointCandidate)
  | connectTcp (addr : SocketAddr) (network : NetworkId)
  | connectSession (addr : EndpointAddr) (network : NetworkId)
  | openStream (session : Session)
  | authenticateClient (auth : AuthenticatedSessionConfig) (stream : NetworkStream)
      (expectedSisterId : Option SisterId) (expectedSisterPublicKey : Option PublicKey)

abbrev ManagerOp.Result : ManagerOp → Type
  | .recordConnecting _ => Bool
  | .cachedSession _ => Option Session
  | .isClosed _ => Bool
  | .openCached _ => Option NetworkStream
  | .peerGet _ => Option PeerState
  | .nextCompleted _ => EndpointCandidate
  | .connectTcp _ _ => Except NetworkError NetworkStream
  | .connectSession _ _ => Except NetworkError Session
  | .openStream _ => Except NetworkError NetworkStream
  | .authenticateClient _ _ _ _ => Except NetworkError NetworkStream
  | _ => Unit

abbrev ManagerTask (Err Val : Type) := Task ManagerOp ManagerOp.Result Err Val

section Code
variable (platform : Platform) (connector : SisterConnector)

def tcpCandidate (addr : SocketAddr) : EndpointCandidate :=
  let kind : PathKind := if connector.isLan addr then .lan else .direct
  ⟨.tcp addr, kind, kind.priority⟩

/-- `EndpointCandidate::for_endpoint`. -/
def forEndpoint : NetworkEndpoint → EndpointCandidate
  | .tcp addr => tcpCandidate connector addr
  | .iroh addr => ⟨.iroh addr, .iroh, 25⟩

def rankCandidates (candidates : List EndpointCandidate) : List EndpointCandidate :=
  candidates.mergeSort fun left right => left.priority ≤ right.priority

-- The endpoints that can be read, and the error of the last one that cannot.
def readEndpoints (sister : SisterId) :
    List String → List EndpointCandidate × Option ConnectionError
  | [] => ([], none)
  | raw :: rest =>
    let (candidates, error) := readEndpoints sister rest
    match parseEndpoint platform raw with
    | .ok endpoint => (forEndpoint connector endpoint :: candidates, error)
    | .error reason => (candidates, error.or (some (.invalidEndpoint sister raw reason)))

/-- One attempt of the race. -/
def attemptCandidate (sister : SisterId) (candidate : EndpointCandidate) :
    ManagerTask NetworkError ConnectedStream :=
  match candidate.endpoint with
  | .tcp addr => do
      let stream ← perform (ManagerOp.connectTcp addr connector.networkId)
      let stream ← orError id stream
      pure ⟨stream, none⟩
  | .iroh addr =>
    if connector.irohBackend then do
      let session ← perform (ManagerOp.connectSession addr connector.networkId)
      let session ← orError id session
      let stream ← perform (ManagerOp.openStream session)
      let stream ← orError id stream
      match connector.authenticatedSession with
      | some auth => do
          let stream ← perform (ManagerOp.authenticateClient auth stream (some sister) none)
          let stream ← orError id stream
          pure ⟨stream, some session⟩
      | none => pure ⟨stream, some session⟩
    else .fail (.unsupportedEndpoint
      "Iroh candidate requires an explicitly configured Iroh backend")

/-- The attempts run side by side and share nothing: what they do together shows in the
order in which they end. The first stream wins and the others are dropped. -/
def race (sister : SisterId) : Nat → List EndpointCandidate → Option NetworkError →
    ManagerTask ConnectionError ConnectedStream
  | 0, _, lastError =>
    -- `expect`: there was an attempt.
    .fail ((lastError.map (.connect sister)).getD (.noStreamEndpoint sister))
  | left + 1, attempts, _ => do
      let candidate : EndpointCandidate ← perform (ManagerOp.nextCompleted attempts)
      match ← attempt (attemptCandidate connector sister candidate) with
      | .ok connected => pure connected
      | .error error => race sister left (attempts.erase candidate) (some error)

def connectToSisterWithSession (sister : SisterId) :
    ManagerTask ConnectionError ConnectedStream := do
  let row ← perform (ManagerOp.peerGet sister)
  let peer ← orFail row (.unknownSister sister)
  ensure (!peer.streamEndpoints.isEmpty) (.noStreamEndpoint sister)
  let (candidates, invalid) := readEndpoints platform connector sister peer.streamEndpoints
  ensure (!candidates.isEmpty) (invalid.getD (.noStreamEndpoint sister))
  race connector sister candidates.length (rankCandidates candidates) none

-- The fresh half of `open_stream`.
def openFresh (sister : SisterId) : ManagerTask ConnectionError NetworkStream := do
  match ← attempt (connectToSisterWithSession platform connector sister) with
  | .ok connected => do
      match connected.irohSession with
      | some session => perform (ManagerOp.insertSession sister session)
      | none => pure ()
      perform (ManagerOp.setState sister .connected)
      pure connected.stream
  | .error error => do
      perform (ManagerOp.setState sister .disconnected)
      .fail error

def openStream (sister : SisterId) : ManagerTask ConnectionError NetworkStream := do
  let refused : Bool ← perform (ManagerOp.recordConnecting sister)
  ensure (!refused) (.alreadyConnecting sister)
  match ← perform (ManagerOp.cachedSession sister) with
  | none => openFresh platform connector sister
  | some session => do
      let closed : Bool ← perform (ManagerOp.isClosed session)
      if closed then do
        perform (ManagerOp.removeSession sister)
        openFresh platform connector sister
      else do
        match ← perform (ManagerOp.openCached session) with
        | some stream => do
            perform (ManagerOp.setState sister .connected)
            pure stream
        | none => do
            perform (ManagerOp.close session)
            perform (ManagerOp.removeSession sister)
            openFresh platform connector sister

def markDisconnected (sister : SisterId) : ManagerTask ConnectionError Unit :=
  perform (ManagerOp.setState sister .disconnected)

inductive Call where
  | openStream (sister : SisterId)
  | markDisconnected (sister : SisterId)

/-- How a call ends without a value. -/
inductive CallError where
  | refused (error : ConnectionError)
  | dropped
deriving DecidableEq

def Call.program : Call → ManagerTask CallError (Option NetworkStream)
  | .openStream sister => do
      let stream ← mapError .refused (ConnectionManager.openStream platform connector sister)
      pure (some stream)
  | .markDisconnected sister => do
      mapError .refused (ConnectionManager.markDisconnected sister)
      pure none
end Code

/-! The manager and its surroundings. -/
section Boards

abbrev Performed := (op : ManagerOp) × op.Result

/-- The two maps of the manager, the peer table, the sessions that are closed, and what
each call has done so far, latest first. -/
structure Board (Index : Type) where
  states : SisterId → Option ConnectionState
  sessions : SisterId → Option Session
  peers : PeerStateTable
  closed : Session → Bool
  history : Index → List Performed

def Answers {Index : Type} (platform : Platform) (board : Board Index) (op : ManagerOp)
    (result : op.Result) : Prop :=
  match op, result with
  | .recordConnecting sister, refused => refused = (board.states sister == some .connecting)
  | .cachedSession sister, found => found = board.sessions sister
  | .isClosed session, closed => closed = board.closed session
  | .peerGet sister, row => row = board.peers.get sister
  | .nextCompleted attempts, candidate => candidate ∈ attempts
  | .authenticateClient auth stream pin keyPin, .ok opened => ∃ trace,
      Traces (NodeStep platform) (authenticateClient platform auth stream pin keyPin) trace
        (.done opened)
  | .authenticateClient auth stream pin keyPin, .error error => ∃ trace,
      Traces (NodeStep platform) (authenticateClient platform auth stream pin keyPin) trace
        (.fail error)
  | _, _ => True

variable (op : ManagerOp)

def nextStates (result : op.Result) (states : SisterId → Option ConnectionState) :
    SisterId → Option ConnectionState :=
  match op, result with
  | .recordConnecting sister, false => Function.update states sister (some .connecting)
  | .setState sister state, _ => Function.update states sister (some state)
  | _, _ => states

def nextSessions (sessions : SisterId → Option Session) :
    SisterId → Option Session :=
  match op with
  | .removeSession sister => Function.update sessions sister none
  | .insertSession sister session => Function.update sessions sister (some session)
  | _ => sessions

def nextClosed (closed : Session → Bool) : Session → Bool :=
  match op with
  | .close session => Function.update closed session true
  | _ => closed

variable {Index : Type} [DecidableEq Index]

def Board.record (board : Board Index) (thread : Index) (op : ManagerOp) (result : op.Result) :
    Board Index where
  states := nextStates op result board.states
  sessions := nextSessions op board.sessions
  peers := board.peers
  closed := nextClosed op board.closed
  history := Function.update board.history thread (⟨op, result⟩ :: board.history thread)

/-- A halt drops some calls; with no call dropped it is the peer table changing, or
sessions being closed from the other side. -/
def machine (platform : Platform) (Index : Type) [DecidableEq Index] :
    Machine Index ManagerOp ManagerOp.Result CallError Unit (Board Index) where
  idle := ()
  cut := .dropped
  progress thread before _ op outcome after := ∃ result, outcome = .inr result ∧
    Answers platform before op result ∧ after = before.record thread op result
  halts _ before after := ∃ peers closed, (∀ session, before.closed session = true →
    closed session = true) ∧ after = { before with peers := peers, closed := closed }

def Board.start (Index : Type) (peers : PeerStateTable) (closed : Session → Bool) :
    Board Index where
  states := fun _ => none
  sessions := fun _ => none
  peers := peers
  closed := closed
  history := fun _ => []

abbrev ManagerCrew (Index : Type) :=
  Crew Index ManagerOp ManagerOp.Result CallError (Option NetworkStream) Unit (Board Index)

abbrev Condition (Index : Type) := Option Index → ManagerCrew Index → ManagerCrew Index → Prop

def Unrestricted : Condition Index := fun _ _ _ => True

variable (platform : Platform)

def opening (connector : SisterConnector) (calls : Index → Call) (peers : PeerStateTable)
    (closed : Session → Bool) : ManagerCrew Index :=
  Crew.start (machine platform Index) (Board.start Index peers closed) fun thread =>
    (calls thread).program platform connector

def ManagerRun (condition : Condition Index) :
    ManagerCrew Index → ManagerCrew Index → Prop :=
  Run (machine platform Index) condition

theorem history_views :
    Views (machine platform Index) fun thread board => board.history thread where
  works := by
    rintro thread before work op left after ⟨result, impossible, -⟩
    cases impossible
  apart := by
    rintro actor before work op outcome after ⟨result, -, -, rfl⟩ other different
    exact Function.update_of_ne different _ _
  halting := by
    rintro gone before after ⟨peers, closed, -, rfl⟩ thread
    rfl
end Boards
end Misaka.ConnectionManager
