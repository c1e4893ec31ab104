import Misaka.ConnectionManager
import Misaka.ControlChannel

/-!
Runs of the connection manager: any number of calls, interleaved in any way and
dropped anywhere. The state recorded for a Sister is right as long as no open is
dropped half way and no disconnect is reported while one is under way; the streams
are authenticated as long as none comes from a TCP endpoint or from a session that
was kept.
-/

namespace Misaka.ConnectionRuns
open Identity PeerKnowledge NodeRuntime AuthenticatedSession EffectTask RelyGuarantee
open ConnectionManager
variable {platform : Platform} {connector : SisterConnector} {Err Val : Type} {op : ManagerOp}
variable {history : List Performed} {sister : SisterId} {Index : Type} {peers : PeerStateTable}
variable {closed : Session → Bool} {crew : ManagerCrew Index}

/-! What one call does to the state of its Sister. -/

-- The Sister whose connection the call has recorded and not yet settled.
def flight : List Performed → Option SisterId
  | [] => none
  | ⟨.recordConnecting sister, false⟩ :: _ => some sister
  | ⟨.setState _ _, _⟩ :: _ => none
  | _ :: earlier => flight earlier

def Records (history : List Performed) (op : ManagerOp) (result : op.Result)
    (longer : List Performed) : Prop := longer = ⟨op, result⟩ :: history

-- When a call may touch the states.
def Legal (history : List Performed) : ManagerOp → Prop
  | .recordConnecting _ => flight history = none
  | .setState sister state => flight history = some sister ∧ state ≠ .connecting ∨
      flight history = none ∧ state = .disconnected
  | _ => True

def StateOp : ManagerOp → Prop
  | .recordConnecting _ | .setState _ _ => True
  | _ => False

abbrev Settles (task : ManagerTask Err Val) (history : List Performed) : Prop :=
  Holds Records Legal task (fun longer _ => flight longer = none)
    (fun longer _ => flight longer = none) history

theorem flight_quiet {result : op.Result} (quiet : ¬ StateOp op) :
    flight (⟨op, result⟩ :: history) = flight history := by
  cases op <;> first | exact absurd trivial quiet | rfl

theorem quiet_legal (quiet : ¬ StateOp op) :
    Legal history op := by
  cases op <;> first | exact absurd trivial quiet | trivial

theorem quiet_keeps {task : ManagerTask Err Val} (quiet : Only (fun op => ¬ StateOp op) task)
    (flying : flight history = some sister) :
    Holds Records Legal task (fun longer _ => flight longer = some sister)
      (fun longer _ => flight longer = some sister) history := by
  refine holds_keeps quiet (fun _ _ calm _ => quiet_legal calm) ?_ flying
  rintro earlier op result longer calm rfl known
  rw [flight_quiet calm, known]

-- A quiet operation, and then the rest.
theorem quiet_then {rest : op.Result → ManagerTask Err Val} (quiet : ¬ StateOp op)
    (flying : flight history = some sister)
    (later : ∀ result longer, flight longer = some sister → Settles (rest result) longer) :
    Settles (perform op >>= rest) history := by
  rw [Settles, holds_bind, holds_perform]
  refine ⟨quiet_legal quiet, ?_⟩
  rintro result longer rfl
  apply later result
  rw [flight_quiet quiet, flying]

theorem settle {state : ConnectionState} {rest : Unit → ManagerTask Err Val}
    (flying : flight history = some sister) (final : state ≠ .connecting)
    (ends : ∀ longer, flight longer = none → Settles (rest ()) longer) :
    Settles (perform (.setState sister state) >>= rest) history := by
  rw [Settles, holds_bind, holds_perform]
  refine ⟨Or.inl ⟨flying, final⟩, ?_⟩
  rintro result longer rfl
  exact ends _ rfl

theorem attempt_quiet (sister : SisterId) (candidate : EndpointCandidate) :
    Only (fun op => ¬ StateOp op) (attemptCandidate connector sister candidate) := by
  unfold attemptCandidate
  split
  · refine only_perform_bind id fun opened => only_bind (by simp) fun stream => ?_
    simp
  · split
    · refine only_perform_bind id fun connected => only_bind (by simp) fun session => ?_
      refine only_perform_bind id fun opened => only_bind (by simp) fun stream => ?_
      split
      · refine only_perform_bind id fun answer => only_bind (by simp) fun final => ?_
        simp
      · simp
    · simp

theorem race_quiet (sister : SisterId) (left : Nat) (attempts : List EndpointCandidate)
    (lastError : Option NetworkError) :
    Only (fun op => ¬ StateOp op) (race connector sister left attempts lastError) := by
  induction left generalizing attempts lastError with
  | zero => simp [race]
  | succ left ih =>
    refine only_perform_bind id fun candidate => ?_
    refine only_bind (only_attempt (attempt_quiet sister candidate)) fun outcome => ?_
    cases outcome with
    | ok connected => simp
    | error error => exact ih _ _

theorem connect_quiet (sister : SisterId) :
    Only (fun op => ¬ StateOp op) (connectToSisterWithSession platform connector sister) := by
  refine only_perform_bind id fun row => only_bind (by simp) fun peer => ?_
  refine only_bind (by simp) fun _ => only_bind (by simp) fun _ => ?_
  exact race_quiet sister _ _ _

theorem open_fresh_settles (flying : flight history = some sister) :
    Settles (openFresh platform connector sister) history := by
  unfold openFresh
  rw [Settles, holds_bind, holds_attempt]
  refine holds_mono (quiet_keeps (connect_quiet sister) flying) ?_ ?_
  · intro longer connected still
    dsimp only
    cases connected.irohSession with
    | some session =>
      apply quiet_then id still
      intro _ later kept
      apply settle kept (by decide)
      intro final ended
      exact (holds_pure _).mpr ended
    | none =>
      apply settle still (by decide)
      intro final ended
      exact (holds_pure _).mpr ended
  · intro longer error still
    apply settle still (by decide)
    intro final ended
    exact (holds_fail _).mpr ended

theorem open_stream_settles (sister : SisterId) (idle : flight history = none) :
    Settles (ConnectionManager.openStream platform connector sister) history := by
  unfold ConnectionManager.openStream
  rw [Settles, holds_bind, holds_perform]
  refine ⟨idle, ?_⟩
  rintro (_ | _) longer rfl
  · change Settles (perform (.cachedSession sister) >>= _) _
    apply quiet_then id rfl
    rintro (_ | session) history flying
    · exact open_fresh_settles flying
    · apply quiet_then id flying
      rintro (_ | _) history flying
      · apply quiet_then id flying
        rintro (_ | stream) history flying
        · apply quiet_then id flying
          intro _ history flying
          apply quiet_then id flying
          intro _ history flying
          exact open_fresh_settles flying
        · apply settle flying (by decide)
          intro final ended
          exact (holds_pure _).mpr ended
      · apply quiet_then id flying
        intro _ history flying
        exact open_fresh_settles flying
  · exact (holds_fail _).mpr idle

theorem program_settles (call : Call) : Settles (call.program platform connector) [] := by
  cases call with
  | openStream sister =>
    change Settles (mapError _ (ConnectionManager.openStream platform connector sister) >>= _) _
    rw [Settles, holds_bind, holds_map_error]
    refine holds_mono (open_stream_settles sister rfl) ?_ fun _ _ ended => ended
    intro longer stream ended
    exact (holds_pure _).mpr ended
  | markDisconnected sister =>
    change Settles (mapError _ (ConnectionManager.markDisconnected sister) >>= _) _
    rw [Settles, holds_bind]
    refine (holds_perform _).mpr ⟨Or.inr ⟨rfl, rfl⟩, ?_⟩
    rintro result longer rfl
    exact (holds_pure _).mpr rfl

/-! The states of all Sisters. -/
section States
variable {calls : Index → Call}
variable {before after : ManagerCrew Index} {thread : Index}
variable {result : op.Result} {next : op.Result → ManagerTask CallError (Option NetworkStream)}

/-- The call has recorded that it is connecting to the Sister, and goes on. -/
def InFlight (crew : ManagerCrew Index) (thread : Index) (sister : SisterId) : Prop :=
  flight (crew.shared.history thread) = some sister ∧ ∃ op next, crew.task thread = .call op next

/-- No open is dropped while it is in flight, and no other call sets the state of a Sister
then. -/
def KeepsOpens : Condition Index := fun actor before after =>
  (actor = none → ∀ thread sister, InFlight before thread sister → InFlight after thread sister) ∧
  ∀ thread sister state next, actor = some thread →
    before.task thread = .call (.setState sister state) next →
    ¬ InFlight before thread sister → ∀ other, ¬ InFlight before other sister

structure Consistent (crew : ManagerCrew Index) : Prop where
  connecting : ∀ sister, crew.shared.states sister = some .connecting ↔
    ∃ thread, InFlight crew thread sister
  one : ∀ {sister first second}, InFlight crew first sister → InFlight crew second sister →
    first = second

theorem running_in_flight (running : crew.task thread = .call op next) :
    InFlight crew thread sister ↔ flight (crew.shared.history thread) = some sister :=
  ⟨fun flies => flies.1, fun flies => ⟨flies, op, next, running⟩⟩

/-- A step that leaves a Sister's state and the flights to it alone. -/
theorem consistent_same (consistent : Consistent before)
    (states : after.shared.states sister = before.shared.states sister)
    (flights : ∀ thread, InFlight after thread sister ↔ InFlight before thread sister) :
    (after.shared.states sister = some .connecting ↔ ∃ thread, InFlight after thread sister) ∧
      ∀ first second, InFlight after first sister → InFlight after second sister →
        first = second := by
  constructor
  · rw [states, consistent.connecting sister]
    simp only [flights]
  · intro first second flies fliesToo
    exact consistent.one ((flights first).mp flies) ((flights second).mp fliesToo)

theorem consistent_of (each : ∀ sister,
    (crew.shared.states sister = some .connecting ↔ ∃ thread, InFlight crew thread sister) ∧
      ∀ first second, InFlight crew first sister → InFlight crew second sister →
        first = second) : Consistent crew :=
  ⟨fun sister => (each sister).1, fun {sister first second} => (each sister).2 first second⟩

variable [DecidableEq Index]

theorem run_settles {condition : Condition Index}
    (run : ManagerRun platform condition (opening platform connector calls peers closed) crew)
    (thread : Index) : crew.task thread = .fail .dropped ∨
      Settles (crew.task thread) (crew.shared.history thread) := by
  refine run_holds (history_views platform) ?_ (fun thread => program_settles (calls thread)) run
    thread
  rintro thread op next result shared crew - ⟨answer, same, -, rfl⟩ -
  cases same
  exact Function.update_self _ _ _

-- The crew after a call has performed one operation.
def performed (crew : ManagerCrew Index) (thread : Index) (op : ManagerOp) (result : op.Result)
    (next : op.Result → ManagerTask CallError (Option NetworkStream)) : ManagerCrew Index :=
  crew.advance thread (next result) () (crew.shared.record thread op result)

theorem performed_other {other : Index} (different : other ≠ thread) :
    InFlight (performed crew thread op result next) other sister ↔ InFlight crew other sister := by
  unfold InFlight performed Crew.advance Board.record
  simp only [Function.update_of_ne different]

theorem performed_self (running : crew.task thread = .call op next)
    (settles : Settles (crew.task thread) (crew.shared.history thread)) :
    InFlight (performed crew thread op result next) thread sister ↔
      flight (⟨op, result⟩ :: crew.shared.history thread) = some sister := by
  rw [running, Settles, holds_call] at settles
  have rest := settles.2 result _ rfl
  unfold InFlight performed Crew.advance Board.record
  simp only [Function.update_self]
  refine ⟨fun flies => flies.1, fun flies => ⟨flies, ?_⟩⟩
  -- A call that has ended has settled its state.
  cases going : next result with
  | call op' next' => exact ⟨op', next', rfl⟩
  | done value =>
    rw [going, holds_done] at rest
    rw [rest] at flies
    cases flies
  | fail error =>
    rw [going, holds_fail] at rest
    rw [rest] at flies
    cases flies

theorem quiet_consistent (consistent : Consistent crew) (quiet : ¬ StateOp op)
    (running : crew.task thread = .call op next)
    (settles : Settles (crew.task thread) (crew.shared.history thread)) :
    Consistent (performed crew thread op result next) := by
  apply consistent_of
  intro sister
  apply consistent_same consistent
  · cases op <;> first | exact absurd trivial quiet | rfl
  · intro other
    by_cases same : other = thread
    · subst same
      rw [performed_self running settles, running_in_flight running, flight_quiet quiet]
    · exact performed_other same

variable {asked : SisterId}

theorem record_consistent {next : Bool → ManagerTask CallError (Option NetworkStream)}
    {refused : Bool} (consistent : Consistent crew)
    (running : crew.task thread = .call (.recordConnecting asked) next)
    (settles : Settles (crew.task thread) (crew.shared.history thread))
    (answered : refused = (crew.shared.states asked == some .connecting)) :
    Consistent (performed crew thread (.recordConnecting asked) refused next) := by
  have idle : flight (crew.shared.history thread) = none := by
    rw [running, Settles, holds_call] at settles
    exact settles.1
  apply consistent_of
  intro sister
  cases refused with
  | true =>
    refine consistent_same consistent rfl fun other => ?_
    by_cases same : other = thread
    · subst same
      rw [performed_self running settles, running_in_flight running]
      rfl
    · exact performed_other same
  | false =>
    have calm : ¬ crew.shared.states asked = some .connecting := by
      intro connecting
      rw [connecting] at answered
      cases answered
    by_cases this : sister = asked
    · subst this
      have mine : InFlight (performed crew thread (.recordConnecting sister) false next) thread
          sister := (performed_self running settles).mpr rfl
      have alone : ∀ other, InFlight (performed crew thread (.recordConnecting sister) false next)
          other sister → other = thread := by
        intro other flies
        by_contra different
        rw [performed_other different] at flies
        exact calm ((consistent.connecting sister).mpr ⟨other, flies⟩)
      refine ⟨iff_of_true (Function.update_self _ _ _) ⟨thread, mine⟩, ?_⟩
      intro first second flies fliesToo
      exact (alone first flies).trans (alone second fliesToo).symm
    · apply consistent_same consistent
      · exact Function.update_of_ne this _ _
      · intro other
        by_cases same : other = thread
        · subst same
          rw [performed_self running settles, running_in_flight running, idle]
          simp [flight, Ne.symm this]
        · exact performed_other same

theorem set_consistent {state : ConnectionState}
    {next : Unit → ManagerTask CallError (Option NetworkStream)} (consistent : Consistent crew)
    (running : crew.task thread = .call (.setState asked state) next)
    (settles : Settles (crew.task thread) (crew.shared.history thread))
    (apart : ¬ InFlight crew thread asked → ∀ other, ¬ InFlight crew other asked) :
    Consistent (performed crew thread (.setState asked state) () next) := by
  have legal : Legal (crew.shared.history thread) (.setState asked state) := by
    rw [running, Settles, holds_call] at settles
    exact settles.1
  have final : state ≠ .connecting := by
    rcases legal with ⟨-, final⟩ | ⟨-, rfl⟩
    · exact final
    · decide
  have grounded : ∀ sister, ¬ InFlight (performed crew thread (.setState asked state) () next)
      thread sister := by
    intro sister flies
    have impossible := (performed_self running settles).mp flies
    cases impossible
  apply consistent_of
  intro sister
  by_cases this : sister = asked
  · subst this
    have nobody : ∀ other, ¬ InFlight (performed crew thread (.setState sister state) () next)
        other sister := by
      intro other flies
      by_cases same : other = thread
      · exact grounded sister (same ▸ flies)
      · rw [performed_other same] at flies
        by_cases mine : InFlight crew thread sister
        · exact same (consistent.one flies mine)
        · exact apart mine other flies
    refine ⟨iff_of_false ?_ fun ⟨other, flies⟩ => nobody other flies, ?_⟩
    · intro connecting
      change Function.update crew.shared.states sister (some state) sister = _ at connecting
      rw [Function.update_self] at connecting
      cases connecting
      exact final rfl
    · intro first _ flies
      exact absurd flies (nobody first)
  · apply consistent_same consistent
    · exact Function.update_of_ne this _ _
    · intro other
      by_cases same : other = thread
      · subst same
        refine iff_of_false (grounded sister) ?_
        rw [running_in_flight running]
        rcases legal with ⟨flying, -⟩ | ⟨idle, -⟩
        · rw [flying]
          simp [Ne.symm this]
        · rw [idle]
          simp
      · exact performed_other same

theorem halt_consistent (consistent : Consistent before)
    (taken : Step (machine platform Index) none before after)
    (kept : ∀ thread sister, InFlight before thread sister → InFlight after thread sister) :
    Consistent after := by
  cases taken with
  | @halts _ gone _ shared left =>
    obtain ⟨peers, closed, -, rfl⟩ := left
    apply consistent_of
    intro sister
    refine consistent_same consistent rfl fun thread => ⟨?_, kept thread sister⟩
    rintro ⟨flies, op, next, running⟩
    refine ⟨flies, op, next, ?_⟩
    by_cases removed : gone thread
    · simp [removed] at running
    · simpa [removed] using running

theorem run_consistent
    (run : ManagerRun platform KeepsOpens (opening platform connector calls peers closed) crew) :
    Consistent crew := by
  induction run with
  | refl =>
    refine ⟨fun sister => ?_, ?_⟩
    · refine iff_of_false (fun impossible => by cases impossible) ?_
      rintro ⟨thread, impossible, -⟩
      cases impossible
    · rintro sister first second ⟨impossible, -⟩
      cases impossible
  | tail earlier last ih =>
    obtain ⟨actor, taken, kept, marked⟩ := last
    cases actor with
    | none => exact halt_consistent ih taken (kept rfl)
    | some thread =>
      cases taken with
      | works _ done =>
        obtain ⟨answer, impossible, -⟩ := done
        cases impossible
      | @finishes _ _ op next _ _ running done =>
        obtain ⟨result, same, answered, rfl⟩ := done
        cases same
        have settles := (run_settles earlier thread).resolve_left fun dropped => by
          rw [running] at dropped
          cases dropped
        cases op with
        | recordConnecting asked => exact record_consistent ih running settles answered
        | setState asked state =>
          exact set_consistent ih running settles fun grounded =>
            marked thread asked state next rfl running grounded
        | _ => exact quiet_consistent ih id running settles

/-- In every run in which no open is dropped in flight and no other call sets the state of
its Sister meanwhile, a Sister is recorded as connecting exactly while an open to it is in
flight, and two opens to one Sister never overlap. -/
theorem connecting_while_one_open
    (run : ManagerRun platform KeepsOpens (opening platform connector calls peers closed) crew)
    (sister : SisterId) :
    (crew.shared.states sister = some .connecting ↔ ∃ thread, InFlight crew thread sister) ∧
    ∀ first second, InFlight crew first sister → InFlight crew second sister → first = second := by
  have consistent := run_consistent run
  exact ⟨consistent.connecting sister, fun first second => consistent.one⟩
end States

/-! What one open does before it returns a stream. -/
section Streams
variable {auth : AuthenticatedSessionConfig}

def NoTcp (platform : Platform) (row : PeerState) : Prop :=
  ∀ endpoint ∈ row.streamEndpoints, ∀ addr, parseEndpoint platform endpoint ≠ .ok (.tcp addr)

/-- What the call learns: the row lists no TCP endpoint, a session it finds is closed. -/
def Learns (platform : Platform) (op : ManagerOp) (result : op.Result) : Prop :=
  match op, result with
  | .peerGet _, some row => NoTcp platform row
  | .isClosed _, closed => closed = true
  | .nextCompleted attempts, candidate => candidate ∈ attempts
  | .authenticateClient auth stream pin keyPin, .ok opened => ∃ trace,
      Traces (NodeStep platform) (authenticateClient platform auth stream pin keyPin) trace
        (.done opened)
  | _, _ => True

def LearningStep (platform : Platform) (history : List Performed) (op : ManagerOp)
    (result : op.Result) (longer : List Performed) : Prop :=
  Records history op result longer ∧ Learns platform op result

/-- Among the operations of the call is the whole of `authenticate_client` on this very
stream, pinned to the Sister. -/
def Authenticated (platform : Platform) (auth : AuthenticatedSessionConfig) (sister : SisterId)
    (history : List Performed) (stream : NetworkStream) : Prop :=
  (⟨.authenticateClient auth stream (some sister) none, .ok stream⟩ : Performed) ∈ history ∧
  ∃ trace, Traces (NodeStep platform)
    (authenticateClient platform auth stream (some sister) none) trace (.done stream)

theorem authenticated_longer {stream : NetworkStream} {latest : Performed}
    (known : Authenticated platform auth sister history stream) :
    Authenticated platform auth sister (latest :: history) stream :=
  ⟨List.mem_cons_of_mem _ known.1, known.2⟩

theorem completed_same {stream opened : NetworkStream} {pin : Option SisterId}
    {keyPin : Option PublicKey} {trace : NodeTrace}
    (completed : Traces (NodeStep platform) (authenticateClient platform auth stream pin keyPin)
      trace (.done opened)) : opened = stream :=
  (reaches_done (authenticate_client_spec platform auth stream pin keyPin) completed).1

theorem learns_then {rest : op.Result → ManagerTask Err Val} {post : List Performed → Val → Prop}
    (later : ∀ result, Learns platform op result →
      Holds (LearningStep platform) (fun _ _ => True) (rest result) post (fun _ _ => True) (⟨op,
      result⟩ :: history)) :
    Holds (LearningStep platform) (fun _ _ => True) (perform op >>= rest) post (fun _ _ => True)
      history := by
  rw [holds_bind, holds_perform]
  refine ⟨trivial, ?_⟩
  rintro result longer ⟨rfl, learnt⟩
  exact later result learnt

theorem attempt_authenticates (configured : connector.authenticatedSession = some auth)
    {candidate : EndpointCandidate} (iroh : ∀ addr, candidate.endpoint ≠ .tcp addr) :
    Holds (LearningStep platform) (fun _ _ => True) (attemptCandidate connector sister candidate)
      (fun longer connected => Authenticated platform auth sister longer connected.stream)
      (fun _ _ => True) history := by
  unfold attemptCandidate
  split
  · rename_i addr tcp
    exact absurd tcp (iroh addr)
  · split
    · apply learns_then
      rintro (error | session) -
      · exact (holds_fail _).mpr trivial
      apply learns_then
      rintro (error | stream) -
      · exact (holds_fail _).mpr trivial
      simp only [configured]
      apply learns_then
      rintro (error | opened) learnt
      · exact (holds_fail _).mpr trivial
      obtain ⟨trace, completed⟩ := learnt
      cases completed_same completed
      exact (holds_done _).mpr ⟨List.mem_cons_self, trace, completed⟩
    · exact (holds_fail _).mpr trivial

theorem race_authenticates (configured : connector.authenticatedSession = some auth) (left : Nat)
    {attempts : List EndpointCandidate} {lastError : Option NetworkError}
    (iroh : ∀ candidate ∈ attempts, ∀ addr, candidate.endpoint ≠ .tcp addr) :
    Holds (LearningStep platform) (fun _ _ => True) (race connector sister left attempts lastError)
      (fun longer connected => Authenticated platform auth sister longer connected.stream)
      (fun _ _ => True) history := by
  induction left generalizing attempts lastError history with
  | zero => exact (holds_fail _).mpr trivial
  | succ left ih =>
    apply learns_then
    intro candidate member
    rw [holds_bind, holds_attempt]
    refine holds_mono (attempt_authenticates configured (iroh candidate member)) ?_ ?_
    · intro longer connected known
      exact (holds_pure _).mpr known
    · intro longer error _
      exact ih fun other remaining => iroh other (List.mem_of_mem_erase remaining)

theorem read_endpoints_iroh {endpoints : List String}
    (none : ∀ endpoint ∈ endpoints, ∀ addr, parseEndpoint platform endpoint ≠ .ok (.tcp addr)) :
    ∀ candidate ∈ (readEndpoints platform connector sister endpoints).1, ∀ addr,
      candidate.endpoint ≠ .tcp addr := by
  induction endpoints with
  | nil =>
    intro candidate impossible
    cases impossible
  | cons raw rest ih =>
    obtain ⟨first, others⟩ := List.forall_mem_cons.mp none
    have later := ih others
    rw [readEndpoints]
    cases parsed : parseEndpoint platform raw with
    | error reason => exact later
    | ok endpoint =>
      refine List.forall_mem_cons.mpr ⟨?_, later⟩
      cases endpoint with
      | tcp addr => exact absurd parsed (first addr)
      | iroh addr =>
        intro other impossible
        cases impossible

variable (configured : connector.authenticatedSession = some auth)
include configured

theorem connect_authenticates :
    Holds (LearningStep platform) (fun _ _ => True)
      (connectToSisterWithSession platform connector sister)
      (fun longer connected => Authenticated platform auth sister longer connected.stream)
      (fun _ _ => True) history := by
  apply learns_then
  rintro (_ | row) learnt
  · exact (holds_fail _).mpr trivial
  rw [or_fail_some, done_bind, holds_bind, holds_ensure]
  refine ⟨fun _ => ?_, fun _ => trivial⟩
  rw [holds_bind, holds_ensure]
  refine ⟨fun _ => ?_, fun _ => trivial⟩
  apply race_authenticates configured
  intro candidate member
  exact read_endpoints_iroh learnt candidate (List.mem_mergeSort.mp member)

theorem fresh_authenticates :
    Holds (LearningStep platform) (fun _ _ => True) (openFresh platform connector sister)
      (fun longer stream => Authenticated platform auth sister longer stream) (fun _ _ => True)
      history := by
  unfold openFresh
  rw [holds_bind, holds_attempt]
  refine holds_mono (connect_authenticates configured) ?_ ?_
  · intro longer connected known
    dsimp only
    cases connected.irohSession with
    | some session =>
      apply learns_then
      intro _ _
      apply learns_then
      intro _ _
      exact (holds_pure _).mpr (authenticated_longer (authenticated_longer known))
    | none =>
      apply learns_then
      intro _ _
      exact (holds_pure _).mpr (authenticated_longer known)
  · intro longer error _
    apply learns_then
    intro _ _
    exact (holds_fail _).mpr trivial

theorem open_authenticates :
    Holds (LearningStep platform) (fun _ _ => True)
      (ConnectionManager.openStream platform connector sister)
      (fun longer stream => Authenticated platform auth sister longer stream) (fun _ _ => True)
      history := by
  apply learns_then
  rintro (_ | _) -
  · change Holds _ _ (perform (ManagerOp.cachedSession sister) >>= _) _ _ _
    apply learns_then
    rintro (_ | session) -
    · exact fresh_authenticates configured
    · apply learns_then
      rintro closed rfl
      apply learns_then
      intro _ _
      exact fresh_authenticates configured
  · exact (holds_fail _).mpr trivial

omit configured

/-- The peer table lists no TCP endpoint for a Sister when a call looks it up, and a session
that a call finds in the map is closed. -/
def DialsAuthenticated (platform : Platform) : Condition Index := fun actor before _ =>
  (∀ thread sister next, actor = some thread → before.task thread = .call (.peerGet sister) next →
    ∀ row ∈ before.shared.peers.get sister, NoTcp platform row) ∧
  ∀ thread session next, actor = some thread → before.task thread = .call (.isClosed session) next →
    before.shared.closed session = true

theorem answers_learn {thread : Index}
    {next : op.Result → ManagerTask CallError (Option NetworkStream)} {result : op.Result}
    {after : ManagerCrew Index} (running : crew.task thread = .call op next)
    (answered : Answers platform crew.shared op result)
    (allowed : DialsAuthenticated platform (some thread) crew after) :
    Learns platform op result := by
  cases op with
  | peerGet sister =>
    cases result with
    | none => trivial
    | some row => exact allowed.1 thread sister next rfl running row answered.symm
  | isClosed session => exact answered.trans (allowed.2 thread session next rfl running)
  | nextCompleted attempts => exact answered
  | authenticateClient auth stream pin keyPin =>
    cases result with
    | ok opened => exact answered
    | error error => trivial
  | _ => trivial

variable [DecidableEq Index] {calls : Index → Call}

/-- In every run in which no TCP endpoint is listed when a Sister is looked up and every
session found in the map is closed, each stream returned for a Sister has itself completed
`authenticate_client` pinned to that Sister. -/
theorem returned_streams_authenticated (configured : connector.authenticatedSession = some auth)
    (run : ManagerRun platform (DialsAuthenticated platform)
      (opening platform connector calls peers closed) crew)
    {thread : Index} {stream : NetworkStream} (opens : calls thread = .openStream sister)
    (returned : crew.task thread = .done (some stream)) :
    Authenticated platform auth sister (crew.shared.history thread) stream := by
  let post : Index → List Performed → Option NetworkStream → Prop := fun thread history value =>
    ∀ sister stream, calls thread = .openStream sister → value = some stream →
      Authenticated platform auth sister history stream
  have begins : ∀ thread, Holds (LearningStep platform) (fun _ _ => True)
      ((calls thread).program platform connector) (post thread) (fun _ _ => True) [] := by
    intro thread
    cases call : calls thread with
    | openStream sister =>
      change Holds _ _ (mapError _ (ConnectionManager.openStream platform connector sister) >>= _)
        _ _ _
      rw [holds_bind, holds_map_error]
      refine holds_mono (open_authenticates configured) ?_ fun _ _ _ => trivial
      intro longer stream known
      refine (holds_pure _).mpr ?_
      intro other found same value
      cases call.symm.trans same
      cases value
      exact known
    | markDisconnected sister =>
      refine holds_mono (holds_trivial _) ?_ fun _ _ _ => trivial
      intro longer value _ other found same
      cases call.symm.trans same
  have known := run_holds (history_views platform) ?_ begins run thread
  · rw [returned] at known
    rcases known with impossible | known
    · cases impossible
    · exact (holds_done _).mp known sister stream opens rfl
  · rintro thread op next result shared crew running ⟨answer, same, answered, rfl⟩ allowed
    cases same
    exact ⟨Function.update_self _ _ _, answers_learn running answered allowed⟩
end Streams

/-! Sister 3 is listed with one Iroh endpoint, and answers the handshake. -/
section Deployment

def dialledRow : PeerState :=
  { ControlChannel.sampleRow ["iroh://" ++ endpointAddrJson sampleAddr] with id := 3 }

def dialledPeers : PeerStateTable := ⟨Finmap.singleton 3 dialledRow, ∅⟩

def sampleConnector : SisterConnector where
  networkId := sampleNetwork
  irohBackend := true
  authenticatedSession := some sampleSession
  isLan := fun _ => true

def irohCandidate : EndpointCandidate := ⟨.iroh sampleAddr, .iroh, 25⟩

def dialStart (calls : Fin 2 → Call) : ManagerCrew (Fin 2) :=
  opening thirdPlatform sampleConnector calls dialledPeers fun _ => false

def AnyOp (_ : Board (Fin 2)) (_ : ManagerOp) : Prop := True

theorem any_op_allowed (thread : Fin 2) (before after : ManagerCrew (Fin 2)) (op : ManagerOp)
    (next : op.Result → ManagerTask CallError (Option NetworkStream))
    (_ : before.task thread = .call op next) (_ : AnyOp before.shared op) :
    Unrestricted (some thread) before after := trivial

-- One operation of a call that acts alone.
abbrev Acts (thread : Fin 2) (before : Board (Fin 2)) (op : ManagerOp) (result : op.Result)
    (after : Board (Fin 2)) : Prop :=
  (machine thirdPlatform (Fin 2)).progress thread before () op (.inr result) after

theorem acts_with {thread : Fin 2} {board : Board (Fin 2)} (result : op.Result)
    (answered : Answers thirdPlatform board op result) :
    Acts thread board op result (board.record thread op result) :=
  ⟨result, rfl, answered, rfl⟩

theorem dialled_endpoint : parseEndpoint thirdPlatform ("iroh://" ++ endpointAddrJson sampleAddr) =
    .ok (.iroh sampleAddr) := sample_endpoint_parses rfl

theorem dialled_found : dialledPeers.get 3 = some dialledRow := Finmap.lookup_singleton_eq

theorem dialled_candidates :
    readEndpoints thirdPlatform sampleConnector 3 dialledRow.streamEndpoints =
      ([irohCandidate], none) := by
  rfl

theorem dialled_no_tcp (sister : SisterId) :
    ∀ row ∈ dialledPeers.get sister, NoTcp thirdPlatform row := by
  intro row found endpoint member addr tcp
  have listed : sister ∈ dialledPeers.peers := Finmap.mem_of_lookup_eq_some found
  cases (Finmap.mem_singleton sister 3 _).mp listed
  cases dialled_found.symm.trans found
  rw [List.mem_singleton.mp member] at tcp
  cases tcp

section Alone
variable {fits : Board (Fin 2) → ManagerOp → Prop} {calls : Fin 2 → Call} {board : Board (Fin 2)}

-- The attempt over Iroh connects and authenticates the stream.
theorem race_reached (listed : board.peers = dialledPeers)
    (fit : ∀ board op, board.peers = dialledPeers → (∀ session, op ≠ .isClosed session) →
      fits board op) :
    ∃ after, Reaches (fun before op result after => fits before op ∧ Acts 0 before op result after)
        (race sampleConnector 3 1 [irohCandidate] none) board
        (.done ⟨sampleStream, some ⟨0⟩⟩) after ∧
      after.peers = board.peers ∧ after.states = board.states ∧ after.closed = board.closed ∧
      after.history 1 = board.history 1 := by
  let chosen := board.record 0 (.nextCompleted [irohCandidate]) irohCandidate
  let connected := chosen.record 0 (.connectSession sampleAddr sampleNetwork) (.ok ⟨0⟩)
  let opened := connected.record 0 (.openStream ⟨0⟩) (.ok sampleStream)
  let authenticated := opened.record 0
    (.authenticateClient sampleSession sampleStream (some 3) none) (.ok sampleStream)
  have chooses : Acts 0 board (.nextCompleted [irohCandidate]) irohCandidate chosen :=
    acts_with _ List.mem_cons_self
  have connects : Acts 0 chosen (.connectSession sampleAddr sampleNetwork) (.ok ⟨0⟩) connected :=
    acts_with _ trivial
  have opens : Acts 0 connected (.openStream ⟨0⟩) (.ok sampleStream) opened := acts_with _ trivial
  have shakes : Acts 0 opened (.authenticateClient sampleSession sampleStream (some 3) none)
      (.ok sampleStream) authenticated :=
    acts_with _ ⟨_, sample_handshake third_responds sampleState [] rfl rfl rfl⟩
  refine ⟨authenticated, .next ⟨fit _ _ listed (by simp), chooses⟩ ?_, rfl, rfl, rfl, rfl⟩
  refine .next ⟨fit _ _ listed (by simp), connects⟩ ?_
  refine .next ⟨fit _ _ listed (by simp), opens⟩ ?_
  exact .next ⟨fit _ _ listed (by simp), shakes⟩ (.here _ _)

theorem connect_reached (listed : board.peers = dialledPeers)
    (fit : ∀ board op, board.peers = dialledPeers → (∀ session, op ≠ .isClosed session) →
      fits board op) :
    ∃ after, Reaches (fun before op result after => fits before op ∧ Acts 0 before op result after)
        (connectToSisterWithSession thirdPlatform sampleConnector 3) board
        (.done ⟨sampleStream, some ⟨0⟩⟩) after ∧
      after.peers = board.peers ∧ after.states = board.states ∧ after.closed = board.closed ∧
      after.history 1 = board.history 1 := by
  let middle := board.record 0 (.peerGet 3) (some dialledRow)
  have found : Answers thirdPlatform board (.peerGet 3) (some dialledRow) := by
    rw [← dialled_found, ← listed]
    rfl
  obtain ⟨after, races, kept⟩ := @race_reached fits middle listed fit
  refine ⟨after, ?_, kept⟩
  refine .next ⟨fit _ _ listed (by simp), acts_with (some dialledRow) found⟩ ?_
  change Reaches _ (race sampleConnector 3 1 (rankCandidates [irohCandidate]) none) middle _ _
  rw [show rankCandidates [irohCandidate] = [irohCandidate] from List.mergeSort_singleton _]
  exact races

-- The first open keeps the session it has made.
theorem first_open_reached (opens : calls 0 = .openStream 3)
    (fit : ∀ board op, board.peers = dialledPeers → (∀ session, op ≠ .isClosed session) →
      fits board op) :
    ∃ after, Reaches (fun before op result after => fits before op ∧ Acts 0 before op result after)
        ((dialStart calls).task 0) (dialStart calls).shared (.done (some sampleStream)) after ∧
      after.sessions 3 = some ⟨0⟩ ∧ after.states 3 = some .connected ∧
      after.closed ⟨0⟩ = false ∧ after.history 1 = [] := by
  let recorded := (dialStart calls).shared.record 0 (.recordConnecting 3) false
  let missed := recorded.record 0 (.cachedSession 3) none
  obtain ⟨connected, connects, listed, -, open_, kept⟩ := @connect_reached fits missed rfl fit
  let cached := connected.record 0 (.insertSession 3 ⟨0⟩) ()
  let settled := cached.record 0 (.setState 3 .connected) ()
  have records : Acts 0 (dialStart calls).shared (.recordConnecting 3) false recorded :=
    acts_with _ rfl
  have misses : Acts 0 recorded (.cachedSession 3) none missed := acts_with _ rfl
  have caches : Acts 0 connected (.insertSession 3 ⟨0⟩) () cached := acts_with _ trivial
  have settles : Acts 0 cached (.setState 3 .connected) () settled := acts_with _ trivial
  have program : (dialStart calls).task 0 =
      mapError .refused (ConnectionManager.openStream thirdPlatform sampleConnector 3) >>=
        fun stream => pure (some stream) := by
    change (calls 0).program thirdPlatform sampleConnector = _
    rw [opens]
    rfl
  refine ⟨settled, ?_, ?_, ?_, ?_, ?_⟩
  · rw [program]
    refine reaches_bind (reaches_map_error ?_) (.here _ _)
    refine .next ⟨fit _ _ rfl (by simp), records⟩ (.next ⟨fit _ _ rfl (by simp), misses⟩ ?_)
    change Reaches _ (openFresh thirdPlatform sampleConnector 3) missed _ _
    refine reaches_bind (reaches_attempt connects) ?_
    exact .next ⟨fit _ _ listed (by simp), caches⟩
      (.next ⟨fit _ _ listed (by simp), settles⟩ (.here _ _))
  · change Function.update connected.sessions 3 (some ⟨0⟩) 3 = _
    rw [Function.update_self]
  · change Function.update connected.states 3 (some .connected) 3 = _
    rw [Function.update_self]
  · change connected.closed ⟨0⟩ = false
    rw [open_]
    rfl
  · exact kept
end Alone

def openTwice (_ : Fin 2) : Call := .openStream 3

theorem first_stream_authenticated : ∃ crew : ManagerCrew (Fin 2),
    ManagerRun thirdPlatform (DialsAuthenticated thirdPlatform) (dialStart openTwice) crew ∧
    crew.task 0 = .done (some sampleStream) ∧
    Authenticated thirdPlatform sampleSession 3 (crew.shared.history 0) sampleStream := by
  let fits : Board (Fin 2) → ManagerOp → Prop := fun board op =>
    board.peers = dialledPeers ∧ ∀ session, op ≠ .isClosed session
  have allowed : ∀ (before after : ManagerCrew (Fin 2)) op next, before.task 0 = .call op next →
      fits before.shared op → DialsAuthenticated thirdPlatform (some 0) before after := by
    rintro before after op next running ⟨listed, fresh⟩
    refine ⟨?_, ?_⟩
    · rintro thread sister rest - -
      rw [listed]
      exact dialled_no_tcp sister
    · rintro thread session rest same asking
      cases same
      cases running.symm.trans asking
      exact absurd rfl (fresh session)
  obtain ⟨after, reached, -⟩ := @first_open_reached fits openTwice rfl
    fun board op listed fresh => ⟨listed, fresh⟩
  have run := run_solo allowed rfl reached
  exact ⟨_, run, rfl, returned_streams_authenticated rfl run rfl rfl⟩

/-- A later open takes a stream from the session that was kept, and returns it as it is. -/
theorem second_stream_unauthenticated : ∃ (crew : ManagerCrew (Fin 2)) (stream : NetworkStream),
    ManagerRun thirdPlatform Unrestricted (dialStart openTwice) crew ∧
    crew.task 1 = .done (some stream) ∧
    ¬ Authenticated thirdPlatform sampleSession 3 (crew.shared.history 1) stream := by
  obtain ⟨kept, reached, session, state, open_, fresh⟩ :=
    @first_open_reached AnyOp openTwice rfl fun _ _ _ _ => trivial
  have first := run_solo (any_op_allowed 0) rfl reached
  let stream : NetworkStream := ⟨1, none⟩
  let recorded := kept.record 1 (.recordConnecting 3) false
  let found := recorded.record 1 (.cachedSession 3) (some ⟨0⟩)
  let asked := found.record 1 (.isClosed ⟨0⟩) false
  let opened := asked.record 1 (.openCached ⟨0⟩) (some stream)
  let settled := opened.record 1 (.setState 3 .connected) ()
  have records : Acts 1 kept (.recordConnecting 3) false recorded := by
    apply acts_with
    change false = (kept.states 3 == some .connecting)
    rw [state]
    rfl
  have finds : Acts 1 recorded (.cachedSession 3) (some ⟨0⟩) found := acts_with _ session.symm
  have asks : Acts 1 found (.isClosed ⟨0⟩) false asked := acts_with _ open_.symm
  have opens : Acts 1 asked (.openCached ⟨0⟩) (some stream) opened := acts_with _ trivial
  have settles : Acts 1 opened (.setState 3 .connected) () settled := acts_with _ trivial
  have second : Reaches (fun before op result after => AnyOp before op ∧
      Acts 1 before op result after) ((dialStart openTwice).task 1) kept (.done (some stream))
      settled :=
    .next ⟨trivial, records⟩ (.next ⟨trivial, finds⟩ (.next ⟨trivial, asks⟩
      (.next ⟨trivial, opens⟩ (.next ⟨trivial, settles⟩ (.here _ _)))))
  refine ⟨_, stream, first.trans (run_solo (any_op_allowed 1) rfl second), rfl, ?_⟩
  rintro ⟨member, -⟩
  have whole : settled.history 1 = [⟨.setState 3 .connected, ()⟩,
      ⟨.openCached ⟨0⟩, some stream⟩, ⟨.isClosed ⟨0⟩, false⟩, ⟨.cachedSession 3, some ⟨0⟩⟩,
      ⟨.recordConnecting 3, false⟩] := by
    simp [settled, opened, asked, found, recorded, Board.record, fresh]
  change _ ∈ settled.history 1 at member
  rw [whole] at member
  simp at member

def LeavesStates (_ : Board (Fin 2)) (op : ManagerOp) : Prop :=
  ∀ sister state, op ≠ .setState sister state

-- The first open has recorded that it is connecting, and looks Sister 3 up.
theorem lookup_reached {condition : Condition (Fin 2)}
    (allowed : ∀ (before after : ManagerCrew (Fin 2)) op next, before.task 0 = .call op next →
      LeavesStates before.shared op → condition (some 0) before after) :
    ∃ crew next, ManagerRun thirdPlatform condition (dialStart openTwice) crew ∧
      crew.shared.states 3 = some .connecting ∧ crew.shared.history 1 = [] ∧
      crew.task 0 = .call (.peerGet 3) next := by
  let recorded := (dialStart openTwice).shared.record 0 (.recordConnecting 3) false
  let missed := recorded.record 0 (.cachedSession 3) none
  have records : Acts 0 (dialStart openTwice).shared (.recordConnecting 3) false recorded :=
    acts_with _ rfl
  have misses : Acts 0 recorded (.cachedSession 3) none missed := acts_with _ rfl
  have looks : ∃ next, Reaches (fun before op result after => LeavesStates before op ∧
      Acts 0 before op result after) ((dialStart openTwice).task 0) (dialStart openTwice).shared
      (.call (.peerGet 3) next) missed :=
    ⟨_, .next ⟨by simp [LeavesStates], records⟩
      (.next ⟨by simp [LeavesStates], misses⟩ (.here _ _))⟩
  obtain ⟨next, looks⟩ := looks
  exact ⟨_, next, run_solo allowed rfl looks, rfl, rfl, rfl⟩

theorem open_in_flight_connecting : ∃ crew : ManagerCrew (Fin 2),
    ManagerRun thirdPlatform KeepsOpens (dialStart openTwice) crew ∧
    crew.shared.states 3 = some .connecting ∧ ∃ thread, InFlight crew thread 3 := by
  have keeping : ∀ (before after : ManagerCrew (Fin 2)) op next, before.task 0 = .call op next →
      LeavesStates before.shared op → KeepsOpens (some 0) before after := by
    intro before after op next running leaves
    constructor
    · intro impossible
      cases impossible
    · rintro thread sister state rest same sets
      cases same
      cases running.symm.trans sets
      exact absurd rfl (leaves sister state)
  obtain ⟨crew, next, run, connecting, -⟩ := lookup_reached keeping
  exact ⟨crew, run, connecting, (connecting_while_one_open run 3).1.mp connecting⟩

/-- Dropped there, the open is over and the Sister stays recorded as connecting. -/
theorem dropped_open_stays_connecting : ∃ crew : ManagerCrew (Fin 2),
    ManagerRun thirdPlatform Unrestricted (dialStart openTwice) crew ∧
    crew.shared.states 3 = some .connecting ∧ ∀ thread sister, ¬ InFlight crew thread sister := by
  obtain ⟨crew, next, run, connecting, fresh, -⟩ := lookup_reached
    fun before after op next running _ => any_op_allowed 0 before after op next running trivial
  have halted : (machine thirdPlatform (Fin 2)).halts (· = 0) crew.shared crew.shared :=
    ⟨_, _, fun _ kept => kept, rfl⟩
  refine ⟨_, run.tail ⟨none, .halts halted, trivial⟩, connecting, ?_⟩
  rintro thread sister ⟨flies, op, rest, running⟩
  by_cases first : thread = 0
  · subst first
    simp at running
  · have second : thread = 1 := by omega
    subst second
    rw [fresh] at flies
    cases flies
end Deployment
end Misaka.ConnectionRuns
