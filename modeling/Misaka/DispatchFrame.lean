import Misaka.Dispatch

/-!
What dispatching an envelope leaves alone. A peer speaks only for its own row;
a record enters the map only by proving itself; a pending result is resolved
only by a payload that names this Sister as the job's creator; and an envelope
of another Network or from another sender reaches no operation at all.
-/

namespace Misaka.DispatchFrame
open Bincode Identity Protocol PeerKnowledge JobManager EffectTask NodeRuntime AuthenticatedSession
open Dispatch

section Vocabulary
variable (platform : Platform) (node : NodeConfig)

def DispatchOp (envelope : Envelope) (peer : Option AuthenticatedPeer) (op : RuntimeOp) : Prop :=
  BookOp platform node envelope peer op ∨ JobOp op

variable {platform node}

theorem only_dispatch_envelope (envelope : Envelope) (peer : Option AuthenticatedPeer) :
    Only (DispatchOp platform node envelope peer)
      (dispatchEnvelope platform node envelope peer) := by
  have books : ∀ {task : RuntimeTask MisakaError (Option Envelope)},
      Only (BookOp platform node envelope peer) task →
      Only (DispatchOp platform node envelope peer) task :=
    fun vocabulary => only_mono vocabulary fun _ keeps => Or.inl keeps
  have jobs : ∀ {task : RuntimeTask MisakaError (Option Envelope)}, Only JobOp task →
      Only (DispatchOp platform node envelope peer) task :=
    fun vocabulary => only_mono vocabulary fun _ works => Or.inr works
  apply only_ensure_bind
  intro _
  apply only_ensure_bind
  intro _
  unfold dispatchMessage
  split
  · simp
  · exact books (only_dispatch_hello envelope peer)
  · exact books (only_dispatch_state envelope peer)
  · exact jobs (only_dispatch_job envelope)
  · exact books (only_dispatch_job_response envelope peer)
  · exact jobs (only_mono (only_dispatch_job_request envelope) steal_op_is_job_op)
  · exact books (only_dispatch_peer_records envelope peer)
  · simp
end Vocabulary

/-! One step at a time: each table changes by one operation only, and that
operation is what the vocabulary ties down. -/
section Steps
variable {platform : Platform} {node : NodeConfig} {envelope : Envelope} {peer : AuthenticatedPeer}
variable {before after : NodeState} {op : RuntimeOp} {result : op.Result}

theorem same_rows_refl (id : SisterId) (table : PeerStateTable) : SameRowsBut id table table :=
  fun _ _ => ⟨rfl, rfl⟩

theorem step_keeps_rows (permitted : DispatchOp platform node envelope (some peer) op)
    (taken : NodeStep platform before op result after) :
    SameRowsBut peer.sisterId before.peers after.peers := by
  rcases node_step_cases taken with rfl | ⟨_, _, _, _, rfl⟩ | ⟨state, instant, rfl, rfl⟩ |
    ⟨_, _, _, _, _, _, rfl⟩ | ⟨_, _, rfl⟩
  · exact same_rows_refl _ _
  · exact same_rows_refl _ _
  · rcases permitted with ⟨_, own⟩ | impossible
    · rw [← own peer rfl]
      exact upsert_same_rows_but before.peers state instant
    · exact absurd impossible id
  · exact same_rows_refl _ _
  · exact same_rows_refl _ _

/-- The stored record proves itself and is bound to the endpoint it advertises. -/
structure Inserted (platform : Platform) (node : NodeConfig) (record : PeerRecord)
    (before after : SisterMap PeerRecord) : Prop where
  admitted : Admitted platform.verifies node.networkId before record
  endpoint : ∃ addr, parseEndpoint platform record.endpointAddr = .ok (.iroh addr) ∧
    addr.id = record.transportBinding.irohEndpointId
  stored : after = before.insert record.sisterId record

theorem record_endpoint_iroh {record : PeerRecord}
    (matched : recordEndpointMatches platform record = true) :
    ∃ addr, parseEndpoint platform record.endpointAddr = .ok (.iroh addr) ∧
      addr.id = record.transportBinding.irohEndpointId := by
  unfold recordEndpointMatches at matched
  split at matched
  · rename_i addr parsed
    exact ⟨addr, parsed, beq_iff_eq.mp matched⟩
  · cases matched

theorem step_keeps_records (permitted : DispatchOp platform node envelope (some peer) op)
    (taken : NodeStep platform before op result after) :
    after.records = before.records ∨
      ∃ record, Inserted platform node record before.records after.records := by
  rcases node_step_cases taken with rfl | ⟨_, _, _, _, rfl⟩ | ⟨_, _, _, rfl⟩ |
    ⟨network, record, stored, records, rfl, stores, rfl⟩ | ⟨_, _, rfl⟩
  · exact Or.inl rfl
  · exact Or.inl rfl
  · exact Or.inl rfl
  · rcases permitted with ⟨rfl, _, _, matched⟩ | impossible
    · rcases upsert_peer_record_cases platform.verifies node.networkId before.records record with
        refused | ⟨admitted, inserted⟩
      · rw [refused] at stores
        exact Or.inl (Prod.mk.inj stores).2.symm
      · rw [inserted] at stores
        exact Or.inr ⟨record, admitted, record_endpoint_iroh matched, (Prod.mk.inj stores).2.symm⟩
    · exact absurd impossible id
  · exact Or.inl rfl

theorem jobs_step_pending {jobs changed : Jobs} (change : JobsStep jobs op changed) :
    changed.pending = jobs.pending ∨
      ∃ id, op = .resolvePending id ∧ changed.pending = jobs.pending.erase id := by
  unfold JobsStep at change
  split at change
  · exact Or.inl (change ▸ rfl)
  · obtain ⟨popped, popping⟩ := change
    unfold Jobs.popTransferable at popping
    split at popping <;> cases popping <;> exact Or.inl rfl
  · exact Or.inl (change ▸ rfl)
  · subst change
    unfold Jobs.markTransferred
    split <;> exact Or.inl rfl
  · obtain ⟨waiter, resolving⟩ := change
    cases resolving
    exact Or.inr ⟨_, rfl, rfl⟩
  · exact absurd change id

theorem step_keeps_pending (permitted : DispatchOp platform node envelope (some peer) op)
    (taken : NodeStep platform before op result after) :
    after.jobs.pending = before.jobs.pending ∨
      ∃ answer, OwnResult platform node envelope answer ∧
        after.jobs.pending = before.jobs.pending.erase answer.jobId := by
  rcases node_step_cases taken with rfl | ⟨_, _, _, _, rfl⟩ | ⟨_, _, _, rfl⟩ |
    ⟨_, _, _, _, _, _, rfl⟩ | ⟨jobs, change, rfl⟩
  · exact Or.inl rfl
  · exact Or.inl rfl
  · exact Or.inl rfl
  · exact Or.inl rfl
  · rcases jobs_step_pending change with same | ⟨resolved, rfl, erased⟩
    · exact Or.inl same
    · rcases permitted with ⟨answer, own, rfl⟩ | impossible
      · exact Or.inr ⟨answer, own, erased⟩
      · exact absurd impossible id
end Steps

section Runs
variable {platform : Platform} {node : NodeConfig}

theorem mismatched_envelope_fails (platform : Platform) {envelope : Envelope}
    {peer : AuthenticatedPeer}
    (mismatched : envelope.networkId ≠ node.networkId ∨ envelope.sender ≠ peer.sisterId) :
    ∃ error, dispatchEnvelope platform node envelope (some peer) = .fail error := by
  by_cases network : envelope.networkId = node.networkId
  · have spoofed : (peer.sisterId == envelope.sender) = false := by
      rcases mismatched with foreign | spoofed
      · exact absurd network foreign
      · exact beq_eq_false_iff_ne.mpr spoofed.symm
    refine ⟨.protocol "envelope sender does not match the authenticated peer", ?_⟩
    simp [dispatchEnvelope, network, senderMatchesPeer, spoofed]
  · have foreign : (envelope.networkId == node.networkId) = false :=
      beq_eq_false_iff_ne.mpr network
    refine ⟨foreignNetwork node "envelope" envelope.networkId, ?_⟩
    simp [dispatchEnvelope, foreign]

/-- The frame of a dispatch for an authenticated peer, over every step of every
run, whatever the envelope carries. -/
theorem dispatch_frame {envelope : Envelope} {peer : AuthenticatedPeer} {trace : NodeTrace}
    {final : RuntimeTask MisakaError (Option Envelope)}
    (run : Traces (NodeStep platform) (dispatchEnvelope platform node envelope (some peer)) trace
      final) :
    (∀ event ∈ trace,
      SameRowsBut peer.sisterId event.before.peers event.after.peers ∧
      (event.after.records = event.before.records ∨
        ∃ record, Inserted platform node record event.before.records event.after.records) ∧
      (event.after.jobs.pending = event.before.jobs.pending ∨
        ∃ answer, OwnResult platform node envelope answer ∧
          event.after.jobs.pending = event.before.jobs.pending.erase answer.jobId) ∧
      (∀ waiter answer, event.op = .sendResult waiter answer →
        OwnResult platform node envelope answer)) ∧
    (envelope.networkId ≠ node.networkId ∨ envelope.sender ≠ peer.sisterId → trace = []) := by
  constructor
  · intro event member
    obtain ⟨permitted, taken⟩ :=
      traced_event_allowed (only_dispatch_envelope envelope (some peer)) run member
    refine ⟨step_keeps_rows permitted taken, step_keeps_records permitted taken,
      step_keeps_pending permitted taken, ?_⟩
    intro waiter answer delivered
    rw [delivered] at permitted
    rcases permitted with own | impossible
    · exact own
    · exact absurd impossible id
  · intro mismatched
    obtain ⟨error, refused⟩ := mismatched_envelope_fails platform mismatched
    rw [Traces, refused] at run
    cases run
    rfl

def sampleReport : StateData where
  networkId := sampleNetwork
  identity := ⟨2, "sister", "host", "linux", "0.1.0", 7778⟩
  listenAddr := "127.0.0.1:7778"
  streamAddr := none
  streamCertificate := none
  cpuUsage := 0
  memoryTotal := 16
  memoryUsed := 4
  runningJobs := 0
  queuedJobs := 0
  uptimeSecs := 60
  capabilities := []

def samplePeer : AuthenticatedPeer := ⟨2, Bytes.fill 32 6, 1⟩

theorem sample_report_keeps_rows :
    SameRowsBut 2 sampleState.peers (sampleState.peers.upsert (stateRow sampleReport) 0) := by
  let platform : Platform :=
    { samplePlatform with stateData := recognise StateData.encode [sampleReport] }
  let envelope := Envelope.new sampleNetwork .state 2 1 sampleReport.encode
  have run : Traces (NodeStep platform)
      (dispatchEnvelope platform sampleNode envelope (some samplePeer))
      [⟨sampleState, .peerUpsert (stateRow sampleReport), (), { sampleState with
        peers := sampleState.peers.upsert (stateRow sampleReport) 0 }⟩] (.done none) := by
    exact reaches_perform ⟨0, rfl⟩ (.here _ _)
  exact ((dispatch_frame run).1 _ List.mem_cons_self).1
end Runs
end Misaka.DispatchFrame
