import Misaka.KeyedRows
import Misaka.Protocol

/-!
What a node knows about other Sisters: the peer table of rows learnt from
handshakes and State messages, with the time each was last heard of, and the
map of self-signed peer records. The on-disk copies of both are best-effort
caches that no modelled decision reads back, and are left out.
-/

namespace Misaka.PeerKnowledge
open Identity KeyedRows

structure PeerState where
  networkId : NetworkId
  id : SisterId
  nickname : String
  hostname : String
  platform : String
  version : String
  streamEndpoints : List String
  streamCertificate : Option (List UInt8)
  addr : String
  cpuUsage : UInt32
  memoryTotal : UInt64
  memoryUsed : UInt64
  runningJobs : UInt64
  queuedJobs : UInt64
  uptimeSecs : UInt64
  capabilities : List String
deriving DecidableEq

abbrev SisterMap (Row : Type) := Finmap fun _ : SisterId => Row

structure PeerStateTable where
  peers : SisterMap PeerState
  lastSeen : SisterMap Nat

def PeerStateTable.get (table : PeerStateTable) (id : SisterId) : Option PeerState :=
  table.peers.lookup id

-- The observed fields always follow the report; the address, host, platform and
-- version of a known row stay as they were first learnt.
def PeerState.observe (known report : PeerState) : PeerState :=
  { known with
    cpuUsage := report.cpuUsage
    memoryTotal := report.memoryTotal
    memoryUsed := report.memoryUsed
    runningJobs := report.runningJobs
    queuedJobs := report.queuedJobs
    uptimeSecs := report.uptimeSecs
    capabilities := report.capabilities
    nickname := if report.nickname.isEmpty then known.nickname else report.nickname
    streamEndpoints :=
      if report.streamEndpoints.isEmpty then known.streamEndpoints else report.streamEndpoints
    streamCertificate :=
      if report.streamCertificate.isSome then report.streamCertificate
      else known.streamCertificate }

variable (table : PeerStateTable) (state : PeerState)

def PeerStateTable.upsert (now : Nat) :
    PeerStateTable where
  lastSeen := table.lastSeen.insert state.id now
  peers :=
    match table.peers.lookup state.id with
    | some known => table.peers.insert state.id (known.observe state)
    | none => table.peers.insert state.id state

theorem upsert_own_row (now : Nat) :
    (table.upsert state now).get state.id =
      some (((table.get state.id).map (·.observe state)).getD state) := by
  unfold PeerStateTable.upsert PeerStateTable.get
  split <;> simp_all [Finmap.lookup_insert]

theorem upsert_other_row (now : Nat) {id : SisterId} (other : id ≠ state.id) :
    (table.upsert state now).get id = table.get id := by
  unfold PeerStateTable.upsert PeerStateTable.get
  split <;> exact Finmap.lookup_insert_of_ne _ other

/-- Two tables that agree on every row but the given one. -/
def SameRowsBut (id : SisterId) (before after : PeerStateTable) : Prop :=
  ∀ other, other ≠ id →
    after.get other = before.get other ∧ after.lastSeen.lookup other = before.lastSeen.lookup other

theorem upsert_same_rows_but (table : PeerStateTable) (state : PeerState) (now : Nat) :
    SameRowsBut state.id table (table.upsert state now) := by
  intro other different
  exact ⟨upsert_other_row table state now different,
    Finmap.lookup_insert_of_ne table.lastSeen different⟩

section Pruning
variable (now timeout : Nat)

-- `duration_since` is zero for an instant in the future.
def PeerStateTable.alive (id : SisterId) : Bool :=
  (table.lastSeen.lookup id).any (now - · ≤ timeout)

/-- The removed ids come in no particular order; here they descend. -/
def PeerStateTable.pruneOffline : List SisterId × PeerStateTable :=
  let removed := (table.peers.keys.sort (· ≥ ·)).filter (!table.alive now timeout ·)
  (removed, {
    peers := retain (fun id _ => table.alive now timeout id) table.peers
    lastSeen := removed.foldl (fun seen id => seen.erase id) table.lastSeen })

inductive TableAction where
  | upsert (state : PeerState) (now : Nat)
  | pruneOffline (now timeout : Nat)

def PeerStateTable.act : TableAction → PeerStateTable
  | .upsert state now => table.upsert state now
  | .pruneOffline now timeout => (table.pruneOffline now timeout).2

variable (actions : List TableAction) (id : SisterId)

def afterActions : PeerStateTable :=
  actions.foldl PeerStateTable.act ⟨∅, ∅⟩

def lastUpsert : Option Nat :=
  actions.foldl (fun
    | last, .upsert state now => if state.id = id then some now else last
    | last, .pruneOffline _ _ => last) none

theorem mem_pruned : id ∈ (table.pruneOffline now timeout).1 ↔
    (table.get id).isSome = true ∧ table.alive now timeout id = false := by
  simp [PeerStateTable.pruneOffline, PeerStateTable.get, Finmap.mem_keys, Finmap.lookup_isSome]

theorem lookup_erased (removed : List SisterId) (seen : SisterMap Nat) :
    (removed.foldl (fun seen id => seen.erase id) seen).lookup id =
      if id ∈ removed then none else seen.lookup id := by
  induction removed generalizing seen with
  | nil => rfl
  | cons first rest ih =>
    rw [List.foldl_cons, ih]
    by_cases same : id = first
    · subst same
      simp [Finmap.lookup_erase]
    · simp [same, Finmap.lookup_erase_ne same]

theorem pruned_row : (table.pruneOffline now timeout).2.get id =
    if id ∈ (table.pruneOffline now timeout).1 then none else table.get id := by
  simp only [mem_pruned]
  refine (lookup_retain _ _ _).trans ?_
  change (table.get id).filter _ = _
  cases table.get id <;> cases table.alive now timeout id <;> rfl

/-- Both maps know the id or neither does; what they know is its own row and last upsert. -/
def Tracked : Prop :=
  (table.get id = none ∧ table.lastSeen.lookup id = none) ∨
    ∃ row time, table.get id = some row ∧ table.lastSeen.lookup id = some time ∧
      row.id = id ∧ lastUpsert actions id = some time

theorem actions_tracked : Tracked (afterActions actions) actions id := by
  induction actions using List.reverseRecOn with
  | nil => exact .inl ⟨rfl, rfl⟩
  | append_singleton actions action tracked =>
    rw [Tracked, lastUpsert, afterActions, List.foldl_concat, List.foldl_concat, ← afterActions]
    generalize afterActions actions = table at tracked
    cases action with
    | upsert state now =>
      by_cases same : id = state.id
      · subst same
        refine .inr ⟨_, now, upsert_own_row _ state now, Finmap.lookup_insert _, ?_, if_pos rfl⟩
        obtain ⟨absent, -⟩ | ⟨row, -, known, -, own, -⟩ := tracked <;> simp [*, PeerState.observe]
      · obtain ⟨row, seen⟩ := upsert_same_rows_but table state now id same
        simp only [if_neg (Ne.symm same)]
        exact row ▸ seen ▸ tracked
    | pruneOffline now timeout =>
      have row := pruned_row table now timeout id
      have seen := lookup_erased id (table.pruneOffline now timeout).1 table.lastSeen
      by_cases removed : id ∈ (table.pruneOffline now timeout).1
      · exact .inl ⟨row.trans (if_pos removed), seen.trans (if_pos removed)⟩
      · rw [if_neg removed] at row seen
        exact row ▸ seen ▸ tracked
end Pruning

section Records
variable (verifies : SignatureCheck)

/-- `PeerService::upsert_peer_record`, with the answer the caller gets. -/
def upsertPeerRecord (network : NetworkId) (records : SisterMap PeerRecord)
    (record : PeerRecord) : Bool × SisterMap PeerRecord :=
  if record.networkId ≠ network || !record.verify verifies then (false, records)
  else if (records.lookup record.sisterId).any (·.sequence > record.sequence) then (false, records)
  else (true, records.insert record.sisterId record)

/-- A record that was admitted for a Network: self-signed, of this Network, and
not older than what was stored for the same Sister. -/
structure Admitted (network : NetworkId) (records : SisterMap PeerRecord)
    (record : PeerRecord) : Prop where
  network : record.networkId = network
  verified : record.verify verifies = true
  newest : ∀ stored ∈ records.lookup record.sisterId, stored.sequence ≤ record.sequence

theorem upsert_peer_record_cases (network : NetworkId) (records : SisterMap PeerRecord)
    (record : PeerRecord) :
    upsertPeerRecord verifies network records record = (false, records) ∨
      Admitted verifies network records record ∧
        upsertPeerRecord verifies network records record =
          (true, records.insert record.sisterId record) := by
  unfold upsertPeerRecord
  split
  · exact Or.inl rfl
  · rename_i usable
    split
    · exact Or.inl rfl
    · rename_i fresh
      simp only [ne_eq, decide_not, Bool.or_eq_true, Bool.not_eq_true', decide_eq_false_iff_not,
        not_or, Decidable.not_not, Bool.not_eq_false, Option.any_eq_true, not_exists, not_and,
        decide_eq_true_eq] at usable fresh
      refine Or.inr ⟨⟨usable.1, usable.2, ?_⟩, rfl⟩
      intro stored known
      exact UInt64.not_lt.mp (fresh stored known)
end Records
end Misaka.PeerKnowledge
