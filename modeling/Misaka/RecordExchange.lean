import Misaka.ControlChannel
import Misaka.RecordConvergence
import Misaka.Sha256
import Misaka.SigningSeparation

/-!
How large the `PeerRecords` message of a node can get. A node sends every record it
knows in one control frame, and the text of an endpoint has no limit of its own, so
records that came in small messages may not fit one message together. They do if the
Sisters they come from share the frame: each has a number of bytes that its endpoint
text keeps to, and the numbers add up.
-/

namespace Misaka.RecordExchange
open Bincode Identity Protocol PeerKnowledge EffectTask NodeRuntime ControlChannel Dispatch
open RecordConvergence SigningSeparation
variable {platform : Platform} {node : NodeConfig} {known : SisterMap PeerRecord}

section Code
variable (platform : Platform) (node : NodeConfig) (known : SisterMap PeerRecord)

-- What `remember_peer_record` makes of the records it finds.
def remember (record : PeerRecord) : SisterMap PeerRecord :=
  if peerRecordUsable platform node.networkId record then
    (upsertPeerRecord platform.verifies node.networkId known record).2
  else known

-- The records in order of their ids.
def peerRecords : List PeerRecord :=
  (known.keys.sort (· ≤ ·)).filterMap known.lookup

-- The node's own record is sent last and instead of a stored one.
def recordsToSend : List PeerRecord :=
  match node.peerRecord with
  | some own => (peerRecords known).filter (·.sisterId ≠ own.sisterId) ++ [own]
  | none => peerRecords known

def peerRecordsEnvelope (records : List PeerRecord) (peer : SisterId) : Envelope :=
  Envelope.new node.networkId .peerRecords node.identity.id peer
    (PeerRecordsData.encode ⟨node.networkId, records⟩)

variable (known : SisterMap PeerRecord)

def sendPeerRecords (peer : SisterId) :
    RuntimeTask MisakaError Unit :=
  match recordsToSend node known with
  | [] => pure ()
  | records => sendFireToPeer platform node peer (peerRecordsEnvelope node records peer)

/-- The frame that `sendPeerRecords` writes. -/
def peerRecordsRequest (peer : SisterId) : ControlRequest :=
  ⟨peerRecordsEnvelope node (recordsToSend node known) peer, false⟩

/-- The maps a node reaches by taking up records of messages that fit their frame. Messages
may be handled at the same time, so the records are taken one by one. -/
inductive Known (allowed : PeerRecord → Prop) : SisterMap PeerRecord → Prop where
  | start : Known allowed ∅
  | learns {known : SisterMap PeerRecord} {request : ControlRequest} {data : PeerRecordsData}
      {record : PeerRecord} (before : Known allowed known)
      (fits : request.encode.length ≤ MAX_CONTROL_FRAME_LENGTH)
      (kind : request.envelope.msgType = .peerRecords)
      (decoded : platform.peerRecordsData request.envelope.data = .ok data)
      (network : data.networkId = node.networkId) (listed : record ∈ data.records)
      (permitted : peerRecordUsable platform node.networkId record = true → allowed record) :
      Known allowed (remember platform node known record)
end Code

/-! The task of the dispatcher does what `remember` says. -/

theorem remember_peer_record_spec (record : PeerRecord) {guard : NodeState → RuntimeOp → Prop}
    {before : NodeState} (met : ∀ op, guard before op) :
    Holds (NodeStep platform) guard (rememberPeerRecord platform node record)
      (fun after _ => after.records = remember platform node before.records record)
      (fun _ _ => False) before := by
  unfold rememberPeerRecord remember peerRecordUsable
  split
  · exact (holds_pure ()).mpr rfl
  · split
    · rename_i unusable
      have matched : recordEndpointMatches platform record = false := by simpa using unusable
      rw [matched]
      exact (holds_pure ()).mpr rfl
    · rename_i usable
      have matched : recordEndpointMatches platform record = true := by simpa using usable
      rw [matched, holds_bind, holds_perform]
      refine ⟨met _, ?_⟩
      rintro stored after ⟨records, upserted, rfl⟩
      apply (holds_pure ()).mpr
      simp only [upserted, if_true]

/-! What holds of every record a node takes up holds of every record it stores. -/
section Stores
variable {kept : PeerRecord → Prop}

-- Every record is stored under its own id.
def Stores (kept : PeerRecord → Prop) (known : SisterMap PeerRecord) : Prop :=
  ∀ id record, known.lookup id = some record → record.sisterId = id ∧ kept record

variable (stores : Stores kept known)
include stores

variable {record : PeerRecord}

theorem remember_stores
    (taken : peerRecordUsable platform node.networkId record = true → kept record) :
    Stores kept (remember platform node known record) := by
  unfold remember
  split
  · rename_i usable
    rcases upsert_peer_record_cases platform.verifies node.networkId known record with
      same | ⟨_, stored⟩
    · rw [same]
      exact stores
    · rw [stored]
      intro id found held
      by_cases same : id = record.sisterId
      · subst same
        rw [Finmap.lookup_insert] at held
        cases held
        exact ⟨rfl, taken usable⟩
      · rw [Finmap.lookup_insert_of_ne known same] at held
        exact stores id found held
  · exact stores

theorem stored_ids_sublist (ids : List SisterId) :
    ((ids.filterMap known.lookup).map PeerRecord.sisterId).Sublist ids := by
  induction ids with
  | nil => exact List.Sublist.slnil
  | cons id rest ih =>
    cases held : known.lookup id with
    | none =>
      simp only [List.filterMap_cons, held]
      exact ih.cons id
    | some record =>
      simp only [List.filterMap_cons, held, List.map_cons, (stores id record held).1]
      exact ih.cons_cons id

theorem peer_records_nodup :
    ((peerRecords known).map PeerRecord.sisterId).Nodup :=
  (stored_ids_sublist stores _).nodup (Finset.sort_nodup _ _)

theorem peer_records_kept (member : record ∈ peerRecords known) :
    kept record := by
  obtain ⟨id, _, held⟩ := List.mem_filterMap.mp member
  exact (stores id record held).2
end Stores

/-! Sizes. -/

-- All of a record but the text of its endpoint.
def FIXED_RECORD_LENGTH : Nat := 376

-- A control frame around no records.
def FIXED_FRAME_LENGTH : Nat := 127

theorem record_encode_length (record : PeerRecord) :
    (encodeRecord record).length = FIXED_RECORD_LENGTH + (utf8 record.endpointAddr).length := by
  simp only [encodeRecord, PeerRecord.signingBytes, List.length_append, u64_length, text_length,
    network_encode_length, signature_encode_length, binding_encode_length, bytes_length,
    FIXED_RECORD_LENGTH]
  omega

def totalLength (records : List PeerRecord) : Nat :=
  (records.map fun record => FIXED_RECORD_LENGTH + (utf8 record.endpointAddr).length).sum

theorem total_length_append (left right : List PeerRecord) :
    totalLength (left ++ right) = totalLength left + totalLength right := by
  simp only [totalLength, List.map_append, List.sum_append]

theorem records_encode_length (records : List PeerRecord) :
    (records.flatMap encodeRecord).length = totalLength records := by
  simp only [totalLength, List.length_flatMap, record_encode_length]

theorem request_encode_length (records : List PeerRecord) (peer : SisterId) :
    (ControlRequest.mk (peerRecordsEnvelope node records peer) false).encode.length =
      FIXED_FRAME_LENGTH + totalLength records := by
  simp only [ControlRequest.encode, Envelope.encode, peerRecordsEnvelope, Envelope.new,
    PeerRecordsData.encode, List.length_append, u16_length, u64_length, variant_length, Bincode.sequence,
    length64_length, byteString, Bincode.bool, network_encode_length, records_encode_length,
    List.length_singleton, FIXED_FRAME_LENGTH]
  omega

/-! Sisters that share a frame. -/
section Budgets
variable (node : NodeConfig) (sisters : Finset SisterId) (budget : SisterId → Nat)

-- The record is from one of the Sisters and keeps to its number of bytes.
def Within (record : PeerRecord) : Prop :=
  record.sisterId ∈ sisters ∧ (utf8 record.endpointAddr).length ≤ budget record.sisterId

def others : Finset SisterId :=
  match node.peerRecord with
  | some own => sisters.erase own.sisterId
  | none => sisters

/-- What the shares of the Sisters and the node's own record take in a frame. -/
def shares : Nat :=
  FIXED_FRAME_LENGTH + ∑ sister ∈ others node sisters, (FIXED_RECORD_LENGTH + budget sister) +
    totalLength node.peerRecord.toList

variable {node sisters budget}

theorem known_stores (reached : Known platform node (Within sisters budget) known) :
    Stores (Within sisters budget) known := by
  induction reached with
  | start =>
    intro id record held
    cases held
  | learns _ _ _ _ _ _ permitted ih => exact remember_stores ih permitted

/-- Records of different Sisters take no more than the shares of these. -/
theorem total_length_le {records : List PeerRecord}
    (distinct : (records.map PeerRecord.sisterId).Nodup)
    (within : ∀ record ∈ records, Within sisters budget record) :
    totalLength records ≤ ∑ sister ∈ sisters, (FIXED_RECORD_LENGTH + budget sister) := by
  have listed : (records.map PeerRecord.sisterId).toFinset ⊆ sisters := by
    intro sister member
    obtain ⟨record, listed, rfl⟩ := List.mem_map.mp (List.mem_toFinset.mp member)
    exact (within record listed).1
  calc totalLength records
      ≤ ((records.map PeerRecord.sisterId).map (FIXED_RECORD_LENGTH + budget ·)).sum := by
        rw [totalLength, List.map_map]
        apply List.sum_le_sum
        intro record member
        exact Nat.add_le_add_left (within record member).2 _
    _ = ∑ sister ∈ (records.map PeerRecord.sisterId).toFinset,
          (FIXED_RECORD_LENGTH + budget sister) :=
        (List.sum_toFinset _ distinct).symm
    _ ≤ ∑ sister ∈ sisters, (FIXED_RECORD_LENGTH + budget sister) :=
        Finset.sum_le_sum_of_subset listed

theorem records_to_send_le (stores : Stores (Within sisters budget) known) :
    FIXED_FRAME_LENGTH + totalLength (recordsToSend node known) ≤ shares node sisters budget := by
  unfold recordsToSend shares others
  cases node.peerRecord with
  | none =>
    have bounded := total_length_le (peer_records_nodup stores)
      fun record member => peer_records_kept stores member
    simp only [Option.toList_none, totalLength, List.map_nil, List.sum_nil] at bounded ⊢
    omega
  | some own =>
    have bounded : totalLength ((peerRecords known).filter (·.sisterId ≠ own.sisterId)) ≤
        ∑ sister ∈ sisters.erase own.sisterId, (FIXED_RECORD_LENGTH + budget sister) := by
      apply total_length_le
      · exact (List.filter_sublist.map _).nodup (peer_records_nodup stores)
      · intro record member
        obtain ⟨stored, different⟩ := List.mem_filter.mp member
        have within := peer_records_kept stores stored
        exact ⟨Finset.mem_erase.mpr ⟨of_decide_eq_true different, within.1⟩, within.2⟩
    simp only [Option.toList_some, total_length_append]
    omega

theorem peer_records_fit (room : shares node sisters budget ≤ MAX_CONTROL_FRAME_LENGTH)
    (reached : Known platform node (Within sisters budget) known) (peer : SisterId) :
    (peerRecordsRequest node known peer).encode.length ≤ MAX_CONTROL_FRAME_LENGTH := by
  rw [peerRecordsRequest, request_encode_length]
  exact Nat.le_trans (records_to_send_le (known_stores reached)) room
end Budgets

/-! Two records that came in messages of their own and do not fit one message. -/
section Samples

def blanks (count : Nat) : String := String.ofList (List.replicate count ' ')

-- serde_json skips the blanks after a document.
def paddedEndpoint (count : Nat) : String :=
  "iroh://" ++ (endpointAddrJson sampleAddr ++ blanks count)

variable (key : PublicKey) (message : List UInt8)

-- A signature that depends on the key and on every byte of the message.
def sampleSign : Signature :=
  ⟨(Sha256.sha256 (key.toList ++ message)).toList ++ (Sha256.sha256 (message ++ key.toList)).toList,
    by rw [List.length_append, bytes_length, bytes_length]⟩

def sampleVerifies (signature : Signature) : Bool :=
  signature = sampleSign key message

theorem sample_signature_verifies :
    sampleVerifies key message (sampleSign key message) = true := decide_eq_true rfl

open Classical in
noncomputable def paddingPlatform (messages : List PeerRecordsData) : Platform :=
  { samplePlatform with
    verifies := sampleVerifies
    parseEndpointAddr := fun text =>
      if ∃ count, text = endpointAddrJson sampleAddr ++ blanks count then .ok sampleAddr
      else .error "expected value"
    peerRecordsData := recognise PeerRecordsData.encode messages }

def signBinding (binding : TransportBinding) : TransportBinding :=
  { binding with
    signatureBySisterKey := sampleSign binding.sisterPublicKey binding.signingBytes }

def signRecord (record : PeerRecord) : PeerRecord :=
  { record with sisterSignature := sampleSign record.sisterPublicKey record.signingBytes }

-- The signature is not among the signed bytes.
theorem binding_bytes (binding : TransportBinding) (signature : Signature) :
    { binding with signatureBySisterKey := signature }.signingBytes = binding.signingBytes := rfl

theorem record_bytes (record : PeerRecord) (signature : Signature) :
    { record with sisterSignature := signature }.signingBytes = record.signingBytes := rfl

theorem signed_binding_verifies (binding : TransportBinding) :
    (signBinding binding).verify sampleVerifies = true := by
  exact sample_signature_verifies _ _

def paddedRecord (sister : SisterId) (count : Nat) : PeerRecord :=
  signRecord {
    networkId := sampleNetwork
    sisterId := sister
    sisterPublicKey := Bytes.fill 32 9
    endpointAddr := paddedEndpoint count
    transportBinding := signBinding
      ⟨sampleNetwork, sister, Bytes.fill 32 9, sampleEndpointId, 0, Bytes.fill 64 0⟩
    sequence := 0
    updatedAt := 0
    sisterSignature := Bytes.fill 64 0 }

variable (messages : List PeerRecordsData)

theorem padding_decodes :
    (paddingPlatform messages).peerRecordsData = recognise PeerRecordsData.encode messages := rfl

theorem padding_verifies :
    (paddingPlatform messages).verifies = sampleVerifies := rfl

theorem padded_verifies (sister : SisterId) (count : Nat) :
    (paddedRecord sister count).verify (paddingPlatform messages).verifies = true := by
  simp only [PeerRecord.verify, padding_verifies, Bool.and_eq_true]
  refine ⟨⟨⟨⟨⟨beq_self_eq_true sampleNetwork, beq_self_eq_true sister⟩,
    beq_self_eq_true (Bytes.fill 32 9)⟩, beq_self_eq_true (0 : UInt64)⟩,
    signed_binding_verifies _⟩, ?_⟩
  exact sample_signature_verifies _ _

theorem padded_usable (sister : SisterId) (count : Nat) :
    peerRecordUsable (paddingPlatform messages) sampleNetwork (paddedRecord sister count) =
      true := by
  have notTcp : stripLeading "tcp://" (paddedEndpoint count) = none := by
    cases stripped : stripLeading "tcp://" (paddedEndpoint count) with
    | none => rfl
    | some rest =>
      have same := congrArg String.toList (strip_leading_some.mp stripped)
      simp only [paddedEndpoint, String.toList_append] at same
      cases (List.cons.inj same).1
  have iroh : stripLeading "iroh://" (paddedEndpoint count) =
      some (endpointAddrJson sampleAddr ++ blanks count) := strip_leading_some.mpr rfl
  have parsed : parseEndpoint (paddingPlatform messages) (paddedEndpoint count) =
      .ok (.iroh sampleAddr) := by
    simp only [parseEndpoint, notTcp, iroh, paddingPlatform, if_pos (⟨count, rfl⟩ :
      ∃ other, endpointAddrJson sampleAddr ++ blanks count =
        endpointAddrJson sampleAddr ++ blanks other)]
  have verified := padded_verifies messages sister count
  have matched : recordEndpointMatches (paddingPlatform messages) (paddedRecord sister count) =
      true := by
    rw [recordEndpointMatches, show (paddedRecord sister count).endpointAddr =
      paddedEndpoint count from rfl, parsed]
    exact beq_self_eq_true sampleEndpointId
  rw [peerRecordUsable, verified, matched]
  rfl

theorem utf8_append_length (left right : String) :
    (utf8 (left ++ right)).length = (utf8 left).length + (utf8 right).length := by
  simp only [utf8, String.toList_append, List.flatMap_append, List.length_append]

theorem blanks_length (count : Nat) : (utf8 (blanks count)).length = count := by
  have blank : (String.utf8EncodeChar ' ').length = 1 := by decide
  simp only [utf8, blanks, String.toList_ofList, List.length_flatMap, List.map_replicate, blank,
    List.sum_replicate_nat, Nat.mul_one]

theorem padded_length (count : Nat) : (utf8 (paddedEndpoint count)).length = 91 + count := by
  have scheme : (utf8 "iroh://").length = 7 := by decide
  have json : (utf8 (endpointAddrJson sampleAddr)).length = 84 := by decide +kernel
  rw [paddedEndpoint, utf8_append_length, utf8_append_length, blanks_length, scheme, json]
  omega

variable (sister : SisterId)

theorem padded_total (count : Nat) :
    totalLength [paddedRecord sister count] = 467 + count := by
  have endpoint : (utf8 (paddedRecord sister count).endpointAddr).length = 91 + count :=
    padded_length count
  simp only [totalLength, List.map_cons, List.map_nil, List.sum_cons, List.sum_nil, endpoint,
    FIXED_RECORD_LENGTH]
  omega

def paddedMessage (count : Nat) : PeerRecordsData :=
  ⟨sampleNetwork, [paddedRecord sister count]⟩

theorem padded_message_length (count : Nat) :
    (paddedMessage sister count).encode.length = 519 + count := by
  have total := padded_total sister count
  have records := records_encode_length [paddedRecord sister count]
  simp only [PeerRecordsData.encode, paddedMessage, Bincode.sequence, length64_length, List.length_append,
    network_encode_length, records, total]
  omega

/-- A platform whose decoder knows two messages of different lengths. -/
noncomputable abbrev twoMessages (first second : Nat) : Platform :=
  paddingPlatform [paddedMessage 2 first, paddedMessage 3 second]

theorem first_decoded (first second : Nat) :
    (twoMessages first second).peerRecordsData (paddedMessage 2 first).encode =
      .ok (paddedMessage 2 first) := by
  rw [twoMessages, padding_decodes]
  exact recognise_first PeerRecordsData.encode (paddedMessage 2 first) [paddedMessage 3 second]

theorem second_decoded {first second : Nat} (different : first ≠ second) :
    (twoMessages first second).peerRecordsData (paddedMessage 3 second).encode =
      .ok (paddedMessage 3 second) := by
  have apart : ((paddedMessage 2 first).encode == (paddedMessage 3 second).encode) = false := by
    apply beq_eq_false_iff_ne.mpr
    intro same
    have lengths := congrArg List.length same
    rw [padded_message_length, padded_message_length] at lengths
    omega
  rw [twoMessages, padding_decodes]
  simp only [recognise, List.find?_cons, apart, beq_self_eq_true]

def paddedMap (first second : Nat) : SisterMap PeerRecord :=
  (Finmap.insert 2 (paddedRecord 2 first) ∅).insert 3 (paddedRecord 3 second)

theorem remember_padded (messages : List PeerRecordsData) (sister : SisterId) (count : Nat)
    (unknown : known.lookup sister = none) :
    remember (paddingPlatform messages) sampleNode known (paddedRecord sister count) =
      known.insert sister (paddedRecord sister count) := by
  have usable : peerRecordUsable (paddingPlatform messages) sampleNode.networkId
      (paddedRecord sister count) = true := padded_usable messages sister count
  have verified := padded_verifies messages sister count
  have unseen : known.lookup (paddedRecord sister count).sisterId = none := unknown
  rw [remember, if_pos usable, upsertPeerRecord, verified, unseen]
  rfl

/-- Both records are taken up, whatever padding their messages have room for. -/
theorem padded_known {allowed : PeerRecord → Prop} {first second : Nat} (different : first ≠ second)
    (firstFits : first < 4000000) (secondFits : second < 4000000)
    (permitted : allowed (paddedRecord 2 first)) (permitted' : allowed (paddedRecord 3 second)) :
    Known (twoMessages first second) sampleNode allowed (paddedMap first second) := by
  have fits : ∀ sister count, count < 4000000 →
      (ControlRequest.mk (peerRecordsEnvelope sampleNode [paddedRecord sister count] 1)
        false).encode.length ≤ MAX_CONTROL_FRAME_LENGTH := by
    intro sister count small
    rw [request_encode_length, padded_total, FIXED_FRAME_LENGTH, MAX_CONTROL_FRAME_LENGTH]
    omega
  have one : Known (twoMessages first second) sampleNode allowed
      (Finmap.insert 2 (paddedRecord 2 first) ∅) := by
    rw [← remember_padded _ 2 first rfl]
    exact .learns .start (fits 2 first firstFits) rfl (first_decoded first second) rfl
      List.mem_cons_self fun _ => permitted
  rw [paddedMap, ← remember_padded _ 3 second (Finmap.lookup_insert_of_ne _ (by decide))]
  exact .learns one (fits 3 second secondFits) rfl (second_decoded different) rfl
    List.mem_cons_self fun _ => permitted'

theorem padded_records (first second : Nat) :
    peerRecords (paddedMap first second) = [paddedRecord 2 first, paddedRecord 3 second] := by
  have keys : (paddedMap first second).keys = {2, 3} := by
    ext sister
    have absent : sister ∉ (∅ : SisterMap PeerRecord) := Finmap.notMem_empty
    simp [paddedMap, Finmap.mem_keys, absent, or_comm]
  have two : (paddedMap first second).lookup 2 = some (paddedRecord 2 first) := by
    rw [paddedMap, Finmap.lookup_insert_of_ne _ (by decide), Finmap.lookup_insert]
  have three : (paddedMap first second).lookup 3 = some (paddedRecord 3 second) := by
    rw [paddedMap, Finmap.lookup_insert]
  have sorted : ({2, 3} : Finset SisterId).sort (· ≤ ·) = [2, 3] := by
    rw [Finset.sort_insert (· ≤ ·) (by simp) (by decide), Finset.sort_singleton]
  rw [peerRecords, keys, sorted]
  simp only [List.filterMap_cons, List.filterMap_nil, two, three]

theorem padded_request_length (first second : Nat) (peer : SisterId) :
    (peerRecordsRequest sampleNode (paddedMap first second) peer).encode.length =
      1061 + first + second := by
  have sent : recordsToSend sampleNode (paddedMap first second) =
      [paddedRecord 2 first] ++ [paddedRecord 3 second] := padded_records first second
  rw [peerRecordsRequest, request_encode_length, sent, total_length_append, padded_total,
    padded_total, FIXED_FRAME_LENGTH]
  omega

theorem sample_records_fit :
    (peerRecordsRequest sampleNode (paddedMap 10 20) 2).encode.length ≤
      MAX_CONTROL_FRAME_LENGTH := by
  have within : ∀ sister count, sister ∈ ({2, 3} : Finset SisterId) → count ≤ 20 →
      Within {2, 3} (fun _ => 111) (paddedRecord sister count) := by
    intro sister count member small
    have endpoint : (utf8 (paddedRecord sister count).endpointAddr).length = 91 + count :=
      padded_length count
    exact ⟨member, endpoint.trans_le (by omega : 91 + count ≤ 111)⟩
  exact peer_records_fit (by decide) (padded_known (by decide) (by decide) (by decide)
    (within 2 10 (by decide) (by decide)) (within 3 20 (by decide) (by decide))) 2

/-- Each message fits the frame, the two records together do not, and nothing is sent. -/
theorem accepted_records_overflow :
    ∃ known, Known (twoMessages 3000000 3000001) sampleNode (fun _ => True) known ∧
      MAX_CONTROL_FRAME_LENGTH < (peerRecordsRequest sampleNode known 2).encode.length ∧
      ∀ stream, writeControlFrame (peerRecordsRequest sampleNode known 2).encode stream
          (.control (peerRecordsRequest sampleNode known 2)) =
        .fail (.authentication "control frame is too large") := by
  have past : MAX_CONTROL_FRAME_LENGTH <
      (peerRecordsRequest sampleNode (paddedMap 3000000 3000001) 2).encode.length := by
    rw [padded_request_length, MAX_CONTROL_FRAME_LENGTH]
    decide
  refine ⟨paddedMap 3000000 3000001, padded_known (by decide) (by decide) (by decide) trivial
    trivial, past, fun stream => ?_⟩
  rw [writeControlFrame, writeFrame, decide_eq_false (Nat.not_le.mpr past), ensure_false, fail_bind]
end Samples
end Misaka.RecordExchange
