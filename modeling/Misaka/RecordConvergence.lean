import Misaka.Dispatch
import Misaka.RankedMap

/-!
Peer records that reach a node: one by one through `upsert_peer_record`, and as
the answers of several Gateways merged in one round of discovery. Both keep the
highest sequence of a Sister. Between different records of the same sequence the
first takes the one that comes last, the second the one that comes first.
-/

namespace Misaka.RecordConvergence
open Bincode Identity NodeRuntime PeerKnowledge Dispatch RankedMap

section Rules
variable (platform : Platform) (network : NetworkId)

-- `repeated upsert_peer_record` of a node that knows no record yet.
def deliver (records : List PeerRecord) : SisterMap PeerRecord :=
  records.foldl (fun known record =>
    (upsertPeerRecord platform.verifies network known record).2) ∅

def peerRecordUsable (record : PeerRecord) : Bool :=
  if record.networkId ≠ network || !record.verify platform.verifies then false
  else recordEndpointMatches platform record

variable (merged : SisterMap PeerRecord)

def mergeGatewayCandidate (record : PeerRecord) :
    SisterMap PeerRecord :=
  match merged.lookup record.sisterId with
  | some current =>
    if record.sequence > current.sequence then merged.insert record.sisterId record else merged
  | none => merged.insert record.sisterId record

def mergeAnswer (records : List PeerRecord) :
    SisterMap PeerRecord :=
  records.foldl (fun merged record =>
    if !peerRecordUsable platform network record then merged
    else mergeGatewayCandidate merged record) merged

/-- One round of `gateway_loop`, over the answers of the Gateways that replied. -/
def mergeGateways (answers : List (List PeerRecord)) : SisterMap PeerRecord :=
  answers.foldl (mergeAnswer platform network) ∅

def ValidRecord (record : PeerRecord) : Prop :=
  record.networkId = network ∧ record.verify platform.verifies = true
end Rules

def sequenceOf (record : PeerRecord) : Nat := record.sequence.toNat

variable (current record : PeerRecord)

-- Equal sequences replace what is stored.
def upsertWins : Bool := !decide (current.sequence > record.sequence)

def mergeWins : Bool := decide (record.sequence > current.sequence)

theorem upsert_follows_sequence : FollowsRank sequenceOf upsertWins := by
  constructor
  · intro current record newer
    have unordered : ¬ record.sequence < current.sequence := by
      exact Nat.not_lt.mpr newer.le
    simpa [upsertWins] using unordered
  · intro current record older
    have ordered : record.sequence < current.sequence := UInt64.lt_iff_toNat_lt.mpr older
    simpa [upsertWins] using ordered

theorem merge_follows_sequence : FollowsRank sequenceOf mergeWins := by
  constructor
  · intro current record newer
    exact decide_eq_true (UInt64.lt_iff_toNat_lt.mpr newer)
  · intro current record older
    apply decide_eq_false
    exact Nat.not_lt.mpr older.le

section Folds
variable {platform : Platform} {network : NetworkId}

theorem upsert_absorbs {record : PeerRecord} (valid : ValidRecord platform network record)
    (known : SisterMap PeerRecord) :
    (upsertPeerRecord platform.verifies network known record).2 =
      absorb PeerRecord.sisterId upsertWins known record := by
  have admitted : (decide (record.networkId ≠ network) || !record.verify platform.verifies) =
      false := by
    simp [valid.1, valid.2]
  simp only [upsertPeerRecord, admitted, Bool.false_eq_true, if_false, absorb]
  cases known.lookup record.sisterId with
  | none => rfl
  | some current =>
    by_cases older : current.sequence > record.sequence
    · simp [older, upsertWins]
    · simp [older, upsertWins]

theorem deliver_absorbs {records : List PeerRecord}
    (valid : ∀ record ∈ records, ValidRecord platform network record) :
    deliver platform network records = absorbAll PeerRecord.sisterId upsertWins records := by
  exact List.foldl_ext _ _ _ fun known record member => upsert_absorbs (valid record member) known

theorem merge_absorbs (merged : SisterMap PeerRecord) (record : PeerRecord) :
    mergeGatewayCandidate merged record = absorb PeerRecord.sisterId mergeWins merged record := by
  unfold mergeGatewayCandidate absorb
  cases merged.lookup record.sisterId with
  | none => rfl
  | some current => simp [mergeWins]

theorem merge_answer_absorbs (merged : SisterMap PeerRecord) (records : List PeerRecord) :
    mergeAnswer platform network merged records =
      (records.filter (peerRecordUsable platform network)).foldl
        (absorb PeerRecord.sisterId mergeWins) merged := by
  induction records generalizing merged with
  | nil => rfl
  | cons record rest ih =>
    rw [mergeAnswer, List.foldl_cons, ← mergeAnswer, ih]
    by_cases usable : peerRecordUsable platform network record = true
    · simp [usable, merge_absorbs]
    · simp [usable]

-- The Gateways' answers are one long list of candidates.
theorem merge_gateways_absorb (answers : List (List PeerRecord)) :
    mergeGateways platform network answers =
      absorbAll PeerRecord.sisterId mergeWins
        (answers.flatten.filter (peerRecordUsable platform network)) := by
  unfold mergeGateways absorbAll
  generalize (∅ : SisterMap PeerRecord) = merged
  induction answers generalizing merged with
  | nil => rfl
  | cons records rest ih =>
    rw [List.foldl_cons, ih, merge_answer_absorbs, List.flatten_cons, List.filter_append,
      List.foldl_append]
end Folds

/-! Orders of delivery. -/
section Orders
variable {platform : Platform} {network : NetworkId} {records : List PeerRecord}

/-- Every record of the set arrives, in some order and any number of times, and
nothing else does. -/
def Covers (records order : List PeerRecord) : Prop := ∀ record, record ∈ order ↔ record ∈ records

/-- For each Sister of the set, a record of its highest sequence. -/
abbrev HoldsNewest (records : List PeerRecord) (known : SisterMap PeerRecord) : Prop :=
  Keeps PeerRecord.sisterId sequenceOf records known

/-- No Sister has two different records of its highest sequence. -/
abbrev Untied (records : List PeerRecord) : Prop := Unrivalled PeerRecord.sisterId sequenceOf records

variable {order : List PeerRecord}

theorem keeps_covered {known : SisterMap PeerRecord} (covers : Covers records order)
    (keeps : HoldsNewest order known) :
    HoldsNewest records known := by
  constructor
  · intro id record lookup
    obtain ⟨own, best⟩ := keeps.best lookup
    exact ⟨own, (best_of_same covers).mp best⟩
  · intro record member
    exact keeps.present record ((covers record).mpr member)

variable {record : PeerRecord}

theorem covers_snoc (member : record ∈ records) :
    Covers records (records ++ [record]) := by
  intro other
  rw [List.mem_append, List.mem_singleton]
  constructor
  · rintro (known | rfl)
    · exact known
    · exact member
  · exact Or.inl

variable {answers : List (List PeerRecord)}

theorem covers_candidates (covers : Covers records answers.flatten) :
    Covers (records.filter (peerRecordUsable platform network))
      (answers.flatten.filter (peerRecordUsable platform network)) := by
  intro record
  rw [List.mem_filter, List.mem_filter, covers record]

theorem deliver_holds_newest (valid : ∀ record ∈ records, ValidRecord platform network record)
    (covers : Covers records order) : HoldsNewest records (deliver platform network order) := by
  rw [deliver_absorbs fun record member => valid record ((covers record).mp member)]
  exact keeps_covered covers (absorb_all_keeps upsert_follows_sequence order)

theorem merge_holds_newest (covers : Covers records answers.flatten) :
    HoldsNewest (records.filter (peerRecordUsable platform network))
      (mergeGateways platform network answers) := by
  rw [merge_gateways_absorb]
  exact keeps_covered (covers_candidates covers) (absorb_all_keeps merge_follows_sequence _)

theorem upsert_takes_ties (current record : PeerRecord)
    (tied : sequenceOf current = sequenceOf record) : upsertWins current record = true := by
  have same : current.sequence = record.sequence := UInt64.toNat_inj.mp tied
  simp [upsertWins, same]

theorem merge_keeps_ties (current record : PeerRecord)
    (tied : sequenceOf current = sequenceOf record) : mergeWins current record = false := by
  have same : current.sequence = record.sequence := UInt64.toNat_inj.mp tied
  simp [mergeWins, same]

-- Of two tied records, the one that is delivered last stays.
theorem delivered_last (valid : ∀ record ∈ records, ValidRecord platform network record)
    (best : Best PeerRecord.sisterId sequenceOf records record) :
    (deliver platform network (records ++ [record])).lookup record.sisterId = some record := by
  have covers := covers_snoc best.member
  rw [deliver_absorbs fun other member => valid other ((covers other).mp member)]
  exact absorb_all_last upsert_follows_sequence upsert_takes_ties ((best_of_same covers).mpr best)

-- Of two tied candidates, the one whose Gateway is asked first stays.
theorem merged_first {rest : List (List PeerRecord)}
    (usable : peerRecordUsable platform network record = true)
    (covers : Covers records ([record] :: rest).flatten) (best : Best PeerRecord.sisterId sequenceOf
      (records.filter (peerRecordUsable platform network)) record) :
    (mergeGateways platform network ([record] :: rest)).lookup record.sisterId = some record := by
  have candidates : Covers (records.filter (peerRecordUsable platform network))
      (([record] :: rest).flatten.filter (peerRecordUsable platform network)) :=
    covers_candidates covers
  have kept := (best_of_same candidates).mpr best
  rw [List.flatten_cons, List.singleton_append, List.filter_cons_of_pos usable] at kept
  rw [merge_gateways_absorb, List.flatten_cons, List.singleton_append,
    List.filter_cons_of_pos usable]
  exact absorb_all_first merge_follows_sequence merge_keeps_ties kept
end Orders

/-! A Sister that is started twice issues its record twice, for one endpoint and
so with one sequence. -/

def issuedRecord (updatedAt : UInt64) : PeerRecord :=
  ⟨sampleNetwork, 2, Bytes.fill 32 8, "iroh://" ++ endpointAddrJson sampleAddr,
    ⟨sampleNetwork, 2, Bytes.fill 32 8, sampleEndpointId, 3, Bytes.fill 64 9⟩, 3, updatedAt,
    Bytes.fill 64 9⟩

theorem issued_record_valid (updatedAt : UInt64) :
    ValidRecord samplePlatform sampleNetwork (issuedRecord updatedAt) := by
  constructor
  · rfl
  · simp [PeerRecord.verify, TransportBinding.verify, issuedRecord, samplePlatform]

theorem issued_record_usable (updatedAt : UInt64) :
    peerRecordUsable samplePlatform sampleNetwork (issuedRecord updatedAt) = true := by
  have valid := issued_record_valid updatedAt
  have parsed : parseEndpoint samplePlatform (issuedRecord updatedAt).endpointAddr =
      .ok (.iroh sampleAddr) := sample_endpoint_parses rfl
  simp only [peerRecordUsable, valid.1, valid.2, ne_eq, not_true_eq_false, decide_false,
    Bool.not_true, Bool.or_false, Bool.false_eq_true, if_false, recordEndpointMatches, parsed]
  rfl

theorem issued_record_best (updatedAt : UInt64) {records : List PeerRecord}
    (member : issuedRecord updatedAt ∈ records)
    (issued : ∀ record ∈ records, sequenceOf record = 3) :
    Best PeerRecord.sisterId sequenceOf records (issuedRecord updatedAt) := by
  constructor
  · exact member
  · intro other known _
    rw [issued other known]
    exact Nat.le_refl 3
end Misaka.RecordConvergence
