import Misaka.Enrollment
import Misaka.JoinRecovery
import Misaka.RecordExchange
import Misaka.StreamDialogue

/-!
A whole enrollment: an authority that has taken up any peer records, a joiner with a
valid invite, the stream between them, the check of what comes back and the installation
in an empty directory. The authority sends along every record it has stored, in one frame.
With clocks that agree and nothing going wrong, the join goes through in every schedule
exactly if the request and the response fit their frames.
-/

namespace Misaka.EnrollmentDialogue
open Bincode Identity Protocol EnrollmentContracts EffectTask Enrollment StreamDialogue Duplex
open JoinTransaction RecordExchange SigningSeparation PeerKnowledge RecordConvergence
open NodeRuntime (Decoder NodeConfig)
open JoinRecovery (artifact install_runs)

/-! The joiner. -/
section Joiner

def EnrollmentRejectionKind.fromCore : EnrollmentRejection → EnrollmentRejectionKind
  | .invalidInvite => .invalidInvite
  | .expired => .expired
  | .wrongNetwork => .wrongNetwork
  | .invalidProof => .invalidProof
  | .protocolVersion => .protocol
  | .issuanceFailed => .issuanceFailed

structure JoinerCodecs where
  reply : Decoder ServerReply
  response : Decoder EnrollmentResponse

variable (codecs : JoinerCodecs) (invite : EnrollmentInvite) (sister : SisterId) (key : PublicKey)

def challengeOf : ServerReply → EnrollmentTask EnrollmentFailure EnrollmentChallenge
  | .rejected reason => .fail (.rejected (EnrollmentRejectionKind.fromCore reason))
  | .challenge challenge => pure challenge

def takeResponse (response : EnrollmentResponse) :
    EnrollmentTask EnrollmentFailure EnrollmentResponse :=
  match response.outcome with
  | .rejected reason => .fail (.rejected (EnrollmentRejectionKind.fromCore reason))
  | .accepted _ _ _ => pure response

-- The second half of `redeem`: the challenge has to be about this very request.
def answerChallenge (nonce : Bytes 32) (reply : ServerReply) :
    EnrollmentTask EnrollmentFailure EnrollmentResponse := do
  let challenge ← challengeOf reply
  let digest ← perform (.sha256 invite.signingBytes)
  ensure (challenge.protocolVersion == ENROLLMENT_PROTOCOL_VERSION &&
    challenge.networkId == invite.networkId && challenge.inviteDigest == digest &&
    challenge.sisterId == sister && challenge.sisterPublicKey == key &&
    challenge.recipientNonce == nonce) (.rejected .invalidInvite)
  let signature ← perform (.sign key challenge.signingBytes)
  writeFrame (EnrollmentProof.mk signature).encode
  let response ← readFrame codecs.response
  takeResponse response

def redeem : EnrollmentTask EnrollmentFailure EnrollmentResponse := do
  let nonce ← perform .random32
  writeFrame (EnrollmentRequest.mk ENROLLMENT_PROTOCOL_VERSION invite sister key nonce).encode
  let reply ← readFrame codecs.reply
  answerChallenge codecs invite sister key nonce reply
end Joiner

/-! The authority. -/
section Authority
variable (verifies : SignatureCheck)

/-- `PeerRecordStore::load_from_dir`, of a file that holds the records. -/
def loadFromDir (network : NetworkId) (records : List PeerRecord) : List PeerRecord :=
  recordMap (records.filter fun record =>
    record.networkId == network && record.verify verifies && record.sisterId != 0)

/-- `build_enrollment_server`, of what its stores have loaded. -/
def buildEnrollmentServer (network : NetworkId) (identity : SisterId)
    (peerRecord : Option PeerRecord) (keys : Option (NetworkAuthority × PublicKey))
    (binding : Option TransportBinding) (stored : List PeerRecord) : Option EnrollmentServer := do
  let (authority, authorityKey) ← keys
  if authority.networkId ≠ network then none
  else do
    let peerRecord ← peerRecord
    let binding ← binding
    if !binding.verify verifies || binding.networkId != network || !peerRecord.verify verifies then
      none
    else some {
      networkId := network
      authority := authority
      authorityKey := authorityKey
      sisterId := identity
      irohEndpointId := binding.irohEndpointId
      locator := peerRecord
      extraBootstrap := (loadFromDir verifies network stored).filter
        (·.sisterId ≠ peerRecord.sisterId) }

variable {verifies}

theorem server_built {network : NetworkId} {identity : SisterId} {own : PeerRecord}
    {authority : NetworkAuthority} {authorityKey : PublicKey} {binding : TransportBinding}
    {stored : List PeerRecord} (sameNetwork : authority.networkId = network)
    (bound : binding.verify verifies = true) (boundTo : binding.networkId = network)
    (verified : own.verify verifies = true) :
    buildEnrollmentServer verifies network identity (some own) (some (authority, authorityKey))
      (some binding) stored = some ⟨network, authority, authorityKey, identity,
        binding.irohEndpointId, own, (loadFromDir verifies network stored).filter
          (·.sisterId ≠ own.sisterId)⟩ := by
  simp [buildEnrollmentServer, sameNetwork, bound, boundTo, verified]

/-- The maps an authority reaches by taking up records, from messages or from Gateways. -/
inductive Accepted (platform : NodeRuntime.Platform) (node : NodeConfig) :
    SisterMap PeerRecord → Prop where
  | start : Accepted platform node ∅
  | accepts {known : SisterMap PeerRecord} (before : Accepted platform node known)
      (record : PeerRecord) : Accepted platform node (remember platform node known record)
end Authority

/-! The devices of the two ends and the stream between them. -/
section Devices

/-- What an end gets without its stream. Clock readings come from a list. -/
structure Device where
  random32 : Bytes 32
  sha256 : List UInt8 → Bytes 32
  allocate : Except String UInt64
  sign : PublicKey → List UInt8 → Signature

def Device.reacts (device : Device) :
    Reactor EnrollmentOp EnrollmentOp.Result (List UInt64) UInt8 UInt8
  | readings, .nowSecs, arrived, _ => some ⟨readings.headD 0, readings.tail, arrived, []⟩
  | readings, .random32, arrived, _ => some ⟨device.random32, readings, arrived, []⟩
  | readings, .sha256 message, arrived, _ => some ⟨device.sha256 message, readings, arrived, []⟩
  | readings, .allocate, arrived, _ => some ⟨device.allocate, readings, arrived, []⟩
  | readings, .sign key message, arrived, _ =>
    some ⟨device.sign key message, readings, arrived, []⟩
  | readings, .readExact count, arrived, closed =>
    if count ≤ arrived.length then
      some ⟨.ok (arrived.take count), readings, arrived.drop count, []⟩
    else if closed then some ⟨.error (.io "early eof"), readings, arrived, []⟩
    else none
  | readings, .writeAll bytes, arrived, _ => some ⟨.ok (), readings, arrived, bytes⟩
  | readings, .flush, arrived, _ => some ⟨.ok (), readings, arrived, []⟩

def frame (payload : List UInt8) : List UInt8 := bigEndian 4 payload.length ++ payload

theorem reacts_patient (device : Device) : Patient device.reacts := by
  intro readings op arrived reaction reacted more closed
  cases op with
  | readExact count =>
    simp only [Device.reacts] at reacted ⊢
    split at reacted
    · rename_i enough
      cases reacted
      have still : count ≤ (arrived ++ more).length := by
        rw [List.length_append]
        omega
      rw [if_pos still, List.take_append_of_le_length enough,
        List.drop_append_of_le_length enough]
    · cases reacted
  | _ =>
    cases reacted
    rfl

variable {device : Device} {Err Value : Type} {readings later : List UInt64}
variable {arrived sent : List UInt8}
variable {after : Half EnrollmentOp EnrollmentOp.Result Err Value (List UInt64) UInt8}

-- An operation that leaves the stream alone.
theorem works_local {op : EnrollmentOp} {result : op.Result}
    {rest : op.Result → EnrollmentTask Err Value}
    (reacted : device.reacts readings op arrived false = some ⟨result, later, arrived, []⟩)
    (works : Works device.reacts ⟨rest result, later, arrived⟩ sent after) :
    Works device.reacts ⟨perform op >>= rest, readings, arrived⟩ sent after :=
  works_call reacted works

variable {bytes : List UInt8}

theorem works_read_exact {count : Nat}
    {rest : Except StreamError (List UInt8) → EnrollmentTask Err Value}
    (long : bytes.length = count)
    (works : Works device.reacts ⟨rest (.ok bytes), readings, arrived⟩ sent after) :
    Works device.reacts ⟨perform (.readExact count) >>= rest, readings, bytes ++ arrived⟩ sent
      after := by
  have reacted : device.reacts readings (.readExact count) (bytes ++ arrived) false =
      some ⟨.ok bytes, readings, arrived, []⟩ := by
    have enough : count ≤ (bytes ++ arrived).length := by
      rw [List.length_append]
      omega
    simp only [Device.reacts, if_pos enough, List.take_left' long, List.drop_left' long]
  exact works_call reacted works

theorem works_write_all {rest : Except StreamError Unit → EnrollmentTask Err Value}
    (works : Works device.reacts ⟨rest (.ok ()), readings, arrived⟩ sent after) :
    Works device.reacts ⟨perform (.writeAll bytes) >>= rest, readings, arrived⟩ (bytes ++ sent)
      after := by
  have reacted : device.reacts readings (.writeAll bytes) arrived false =
      some ⟨.ok (), readings, arrived, bytes⟩ := rfl
  exact works_call reacted works

variable {payload : List UInt8} {decode : Decoder Value} {value : Value}

theorem works_read_frame (fits : payload.length ≤ MAX_ENROLLMENT_FRAME_LENGTH)
    (decodes : decode payload = .ok value) :
    Works device.reacts ⟨readFrame decode, readings, frame payload ++ arrived⟩ []
      ⟨.done value, readings, arrived⟩ := by
  have small : payload.length < 256 ^ 4 := fits.trans_lt (by decide)
  have header : ofBigEndian (bigEndian 4 payload.length) = payload.length :=
    of_big_endian_encoding 4 payload.length small
  have width : (bigEndian 4 payload.length).length = 4 := by
    rw [bigEndian, List.length_reverse, little_endian_length]
  apply works_read_exact width
  rw [or_error_ok, done_bind, header, decide_eq_true fits]
  apply works_read_exact rfl
  rw [or_error_ok, done_bind, decodes]
  exact .here _

-- The frame is all that has arrived.
theorem works_read_whole (fits : payload.length ≤ MAX_ENROLLMENT_FRAME_LENGTH)
    (decodes : decode payload = .ok value) :
    Works device.reacts ⟨readFrame decode, readings, frame payload⟩ []
      ⟨.done value, readings, []⟩ := by
  rw [← List.append_nil (frame payload)]
  exact works_read_frame fits decodes

theorem works_write_frame (fits : payload.length ≤ MAX_ENROLLMENT_FRAME_LENGTH) :
    Works device.reacts ⟨writeFrame payload, readings, arrived⟩ (frame payload)
      ⟨.done (), readings, arrived⟩ := by
  have framed : frame payload = bigEndian 4 payload.length ++ (payload ++ []) := by
    rw [frame, List.append_nil]
  rw [writeFrame, decide_eq_true fits, framed]
  apply works_write_all
  apply works_write_all
  exact works_local rfl (.here _)
end Devices

/-! One enrollment. -/
section Scenes

/-- The two parties and everything that is drawn or read while they talk. -/
structure Scene where
  nodePlatform : NodeRuntime.Platform
  node : NodeConfig
  known : SisterMap PeerRecord
  server : EnrollmentServer
  invite : EnrollmentInvite
  sister : SisterId
  key : PublicKey
  gateways : Option (List String)
  uuid : Bytes 16
  platform : Platform
  joinPlatform : JoinPlatform
  codecs : JoinerCodecs
  sign : PublicKey → List UInt8 → Signature
  recipientNonce : Bytes 32
  authorityNonce : Bytes 32
  serial : UInt64
  checkedAt : UInt64
  issuedAt : UInt64
  receivedAt : UInt64

variable (scene : Scene)

def Scene.request : EnrollmentRequest :=
  ⟨ENROLLMENT_PROTOCOL_VERSION, scene.invite, scene.sister, scene.key, scene.recipientNonce⟩

def Scene.challenge : EnrollmentChallenge :=
  EnrollmentChallenge.new scene.server.networkId (scene.platform.sha256 scene.invite.signingBytes)
    scene.sister scene.key scene.authorityNonce scene.recipientNonce

def Scene.proof : EnrollmentProof := ⟨scene.sign scene.key scene.challenge.signingBytes⟩

def Scene.draft : MembershipCertificate :=
  draftMembership scene.server scene.request scene.issuedAt scene.serial

def Scene.membership : MembershipCertificate :=
  { scene.draft with
    authoritySignature := scene.sign scene.server.authorityKey scene.draft.signingBytes }

def Scene.bundle : EnrollmentBundle :=
  ⟨scene.server.authority, scene.membership, bootstrap scene.server⟩

def Scene.response : EnrollmentResponse :=
  EnrollmentResponse.accepted scene.server.authority scene.membership (bootstrap scene.server)

def Scene.joiner : Device where
  random32 := scene.recipientNonce
  sha256 := scene.platform.sha256
  allocate := .error "no serial store"
  sign := scene.sign

def Scene.authority : Device where
  random32 := scene.authorityNonce
  sha256 := scene.platform.sha256
  allocate := .ok scene.serial
  sign := scene.sign

abbrev Enrolling :=
  Conversation EnrollmentOp EnrollmentOp.Result EnrollmentFailure EnrollmentResponse (List UInt64)
    EnrollmentOp EnrollmentOp.Result EnrollmentFailure Unit (List UInt64) UInt8 UInt8

def Scene.start : Enrolling where
  caller := ⟨redeem scene.codecs scene.invite scene.sister scene.key, [], []⟩
  host := ⟨serveStream scene.platform scene.server, [scene.checkedAt, scene.issuedAt], []⟩

abbrev Scene.Runs (before after : Enrolling) : Prop :=
  Relation.ReflTransGen (Speaks scene.joiner.reacts scene.authority.reacts) before after

/-- The bundle is put into an empty directory, all of it. -/
def Scene.Installs (bundle : EnrollmentBundle) : Prop :=
  ((install scene.joinPlatform ⟨bundle, scene.gateways⟩ scene.uuid).run answer
    fun _ _ => none).1 = .ok () ∧
  ∀ name, ((install scene.joinPlatform ⟨bundle, scene.gateways⟩ scene.uuid).run answer
    fun _ _ => none).2 .dataDir name = artifact ⟨bundle, scene.gateways⟩ name

/-- The joiner has received a response of a permitted length, it validates by the joiner's
clock, and what it brings is installed. -/
def Scene.Joined (conversation : Enrolling) : Prop :=
  conversation.host.task = .done () ∧ ∃ response bundle,
    conversation.caller.task = .done response ∧
    response.encode.length ≤ MAX_ENROLLMENT_FRAME_LENGTH ∧
    response.validateReceived scene.platform.verifies scene.invite scene.invite.networkId
      scene.sister scene.key scene.receivedAt = .ok bundle ∧
    scene.Installs bundle

/-- Whatever the schedule, the two come to an end and the Sister has joined. -/
def Scene.Completes : Prop :=
  Settles (Speaks scene.joiner.reacts scene.authority.reacts) scene.Joined scene.start

/-- The authority has set up its server from its stores. -/
structure Scene.Built : Prop where
  accepted : Accepted scene.nodePlatform scene.node scene.known
  verifiesAlike : scene.nodePlatform.verifies = scene.platform.verifies
  loaded : ∃ own authority authorityKey binding,
    buildEnrollmentServer scene.platform.verifies scene.node.networkId scene.node.identity.id
      (some own) (some (authority, authorityKey)) (some binding) (peerRecords scene.known) =
        some scene.server ∧
    own.networkId = scene.node.networkId ∧ authority.authorityPublicKey = authorityKey

/-- An honest joiner with a valid invite, keys that sign, codecs that read what they wrote,
and clocks that agree: the response is checked no earlier than it was dated. -/
structure Scene.Honest : Prop where
  built : scene.Built
  addressed : Addressed scene.server scene.invite
  valid : scene.invite.verify scene.platform.verifies scene.checkedAt = true
  clock : scene.issuedAt ≤ scene.receivedAt
  authoritySigns : ∀ message, scene.platform.verifies scene.server.authorityKey message
    (scene.sign scene.server.authorityKey message) = true
  joinerSigns : ∀ message, scene.platform.verifies scene.key message
    (scene.sign scene.key message) = true
  joinVerifiesAlike : scene.joinPlatform.verifies = scene.platform.verifies
  requestReads : scene.platform.request scene.request.encode = .ok scene.request
  challengeReads : scene.codecs.reply (ServerReply.challenge scene.challenge).encode =
    .ok (.challenge scene.challenge)
  proofReads : scene.platform.proof scene.proof.encode = .ok scene.proof
  responseReads : scene.codecs.response scene.response.encode = .ok scene.response
  bundleReads : JoinRecovery.ReadsBack scene.joinPlatform scene.bundle

-- What the authority sends along: its own record, and those of others it can load again.
def Scene.shared : List PeerRecord :=
  scene.server.locator :: (peerRecords scene.known).filter fun record =>
    record.sisterId ≠ 0 ∧ record.sisterId ≠ scene.server.locator.sisterId

-- A request around an invite whose locator has an empty endpoint.
def FIXED_REQUEST_LENGTH : Nat := 692

-- A response around no records.
def FIXED_RESPONSE_LENGTH : Nat := 263

/-- The endpoint of the invite's locator leaves room in a frame, and so do the records. -/
def Scene.Fits : Prop :=
  FIXED_REQUEST_LENGTH + (utf8 scene.invite.locator.endpointAddr).length ≤
    MAX_ENROLLMENT_FRAME_LENGTH ∧
  FIXED_RESPONSE_LENGTH + totalLength scene.shared ≤ MAX_ENROLLMENT_FRAME_LENGTH
end Scenes

/-! The records of a response. -/
section Records
variable {records : List PeerRecord}

theorem insert_record_last {record : PeerRecord}
    (later : ∀ other ∈ records, other.sisterId < record.sisterId) :
    insertRecord record records = records ++ [record] := by
  induction records with
  | nil => rfl
  | cons first rest ih =>
    have before := later first List.mem_cons_self
    have notBefore : ¬ record.sisterId < first.sisterId := by
      rw [UInt64.lt_iff_toNat_lt] at before ⊢
      omega
    have different : record.sisterId ≠ first.sisterId := by
      rintro same
      rw [same, UInt64.lt_iff_toNat_lt] at before
      omega
    rw [insertRecord, if_neg notBefore, if_neg different, ih fun other member =>
      later other (List.mem_cons_of_mem first member)]
    rfl

theorem record_map_ascending (ascending : records.Pairwise (·.sisterId < ·.sisterId)) :
    recordMap records = records := by
  suffices ∀ stored, (stored ++ records).Pairwise (·.sisterId < ·.sisterId) →
      records.foldl (fun map record => insertRecord record map) stored = stored ++ records from
    this [] ascending
  induction records with
  | nil =>
    intro stored _
    rw [List.foldl_nil, List.append_nil]
  | cons record rest ih =>
    intro stored sorted
    have last : insertRecord record stored = stored ++ [record] :=
      insert_record_last fun other member =>
        (List.pairwise_append.mp sorted).2.2 other member record List.mem_cons_self
    have onward := ih (ascending.sublist (List.sublist_cons_self _ _)) (stored ++ [record])
      (by rwa [List.append_assoc])
    rw [List.foldl_cons, last, onward, List.append_assoc]
    rfl

theorem dedup_distinct {previous : Option SisterId}
    (distinct : (records.map PeerRecord.sisterId).Nodup)
    (unlike : ∀ record ∈ records, previous ≠ some record.sisterId) :
    dedupBySister previous records = records := by
  induction records generalizing previous with
  | nil => rfl
  | cons record rest ih =>
    rw [List.map_cons, List.nodup_cons] at distinct
    rw [dedupBySister, if_neg (unlike record List.mem_cons_self), ih distinct.2]
    intro other member same
    exact distinct.1 (Option.some.inj same ▸ List.mem_map_of_mem member)

theorem bootstrap_perm {server : EnrollmentServer}
    (distinct : ((server.locator :: server.extraBootstrap).map PeerRecord.sisterId).Nodup) :
    (bootstrap server).Perm (server.locator :: server.extraBootstrap) := by
  have sorted := List.mergeSort_perm (server.locator :: server.extraBootstrap)
    fun left right => decide (left.sisterId ≤ right.sisterId)
  rw [bootstrap, dedup_distinct ((sorted.map _).nodup_iff.mpr distinct) (by simp)]
  exact sorted

theorem total_length_perm {others : List PeerRecord} (same : records.Perm others) :
    totalLength records = totalLength others :=
  (same.map _).sum_eq

variable {platform : NodeRuntime.Platform} {node : NodeConfig} {known : SisterMap PeerRecord}

theorem accepted_stores (accepted : Accepted platform node known) :
    Stores (ValidRecord platform node.networkId) known := by
  induction accepted with
  | start =>
    intro id record held
    cases held
  | accepts _ record ih =>
    apply remember_stores ih
    intro usable
    unfold peerRecordUsable at usable
    split at usable
    · cases usable
    · rename_i valid
      simpa [ValidRecord] using valid

theorem peer_records_ascending {kept : PeerRecord → Prop} (stores : Stores kept known) :
    (peerRecords known).Pairwise (·.sisterId < ·.sisterId) := by
  have ascending : (known.keys.sort (· ≤ ·)).Pairwise (· < ·) := by
    have sorted := Finset.pairwise_sort known.keys (· ≤ ·)
    have distinct := Finset.sort_nodup known.keys (· ≤ ·)
    refine (sorted.and distinct).imp ?_
    rintro left right ⟨le, different⟩
    exact UInt64.lt_of_le_of_ne le different
  exact List.pairwise_map.mp (ascending.sublist (stored_ids_sublist stores _))

theorem loaded_records (accepted : Accepted platform node known) :
    loadFromDir platform.verifies node.networkId (peerRecords known) =
      (peerRecords known).filter (·.sisterId ≠ 0) := by
  have stores := accepted_stores accepted
  have same : (peerRecords known).filter (fun record => record.networkId == node.networkId &&
      record.verify platform.verifies && record.sisterId != 0) =
      (peerRecords known).filter (·.sisterId ≠ 0) := by
    apply List.filter_congr
    intro record member
    obtain ⟨network, verified⟩ := peer_records_kept stores member
    by_cases zero : record.sisterId = 0 <;> simp [network, verified, zero]
  rw [loadFromDir, same, record_map_ascending]
  exact (peer_records_ascending stores).filter _
end Records

/-! What the authority has built. -/
section Building
variable {scene : Scene}

structure Scene.Serving (scene : Scene) : Prop where
  network : scene.server.networkId = scene.node.networkId
  authority : scene.server.authority.networkId = scene.node.networkId
  keys : scene.server.authority.authorityPublicKey = scene.server.authorityKey
  locator : ValidRecord scene.nodePlatform scene.node.networkId scene.server.locator
  records : scene.server.locator :: scene.server.extraBootstrap = scene.shared

variable (built : scene.Built)
include built

theorem built_serving : scene.Serving := by
  obtain ⟨own, authority, authorityKey, binding, made, network, keys⟩ := built.loaded
  simp only [buildEnrollmentServer, Option.bind_eq_bind, Option.bind_some] at made
  split at made
  · cases made
  · rename_i sameNetwork
    split at made
    · cases made
    · rename_i checked
      have loaded := loaded_records built.accepted
      rw [built.verifiesAlike] at loaded
      rw [loaded] at made
      have same := (Option.some.inj made).symm
      simp only [Bool.or_eq_true, not_or, Bool.not_eq_true', Bool.not_eq_false] at checked
      have verified : own.verify scene.nodePlatform.verifies = true := by
        rw [built.verifiesAlike]
        exact checked.2
      constructor
      · rw [same]
      · rw [same]
        exact not_not.mp sameNetwork
      · rw [same]
        exact keys
      · rw [same]
        exact ⟨network, verified⟩
      · rw [Scene.shared, same]
        simp only [List.filter_filter, Bool.decide_and, Bool.and_comm]

theorem shared_valid {record : PeerRecord} (member : record ∈ scene.shared) :
    ValidRecord scene.nodePlatform scene.node.networkId record := by
  rw [Scene.shared, List.mem_cons] at member
  rcases member with rfl | stored
  · exact (built_serving built).locator
  · exact peer_records_kept (accepted_stores built.accepted) (List.mem_of_mem_filter stored)

theorem shared_distinct :
    (scene.shared.map PeerRecord.sisterId).Nodup := by
  rw [Scene.shared, List.map_cons, List.nodup_cons]
  constructor
  · intro member
    obtain ⟨record, listed, same⟩ := List.mem_map.mp member
    obtain ⟨_, _, different⟩ := (List.mem_filter.mp listed).imp id of_decide_eq_true
    exact different same
  · exact (List.filter_sublist.map _).nodup (peer_records_nodup (accepted_stores built.accepted))

theorem bootstrap_shared : (bootstrap scene.server).Perm scene.shared := by
  have serving := built_serving built
  rw [← serving.records]
  apply bootstrap_perm
  rw [serving.records]
  exact shared_distinct built

omit built

theorem request_length :
    scene.request.encode.length =
      FIXED_REQUEST_LENGTH + (utf8 scene.invite.locator.endpointAddr).length := by
  simp only [Scene.request, EnrollmentRequest.encode, EnrollmentInvite.encode,
    EnrollmentInvite.signingBytes, NetworkAuthority.encode, List.length_append, u16_length,
    u64_length, network_encode_length, bytes_length, signature_encode_length, record_encode_length,
    FIXED_RECORD_LENGTH, FIXED_REQUEST_LENGTH]
  omega

theorem response_length (built : scene.Built) :
    scene.response.encode.length = FIXED_RESPONSE_LENGTH + totalLength scene.shared := by
  have unlimited : scene.membership.expiresAt.isSome = false := rfl
  rw [← total_length_perm (bootstrap_shared built)]
  simp only [Scene.response, EnrollmentResponse.accepted, EnrollmentResponse.encode,
    EnrollmentOutcome.encode, NetworkAuthority.encode, Bincode.sequence, List.length_append,
    u16_length, variant_length, length64_length, network_encode_length, bytes_length,
    membership_encode_length, unlimited, records_encode_length, FIXED_RESPONSE_LENGTH]
  simp only [Bool.false_eq_true, if_false]
  omega

theorem challenge_fits :
    (ServerReply.challenge scene.challenge).encode.length ≤ MAX_ENROLLMENT_FRAME_LENGTH := by
  simp only [ServerReply.encode, EnrollmentChallenge.signingBytes, List.length_append, u16_length,
    network_encode_length, bytes_length, u64_length]
  decide

theorem proof_fits : scene.proof.encode.length ≤ MAX_ENROLLMENT_FRAME_LENGTH := by
  rw [EnrollmentProof.encode, signature_encode_length]
  decide

/-- Whatever the authority shares, the joiner finds nothing wrong with it. -/
theorem response_validates (honest : scene.Honest) :
    scene.response.validateReceived scene.platform.verifies scene.invite scene.invite.networkId
      scene.sister scene.key scene.receivedAt = .ok scene.bundle := by
  have serving := built_serving honest.built
  have addressed := honest.addressed
  have network : scene.server.authority.networkId = scene.invite.networkId := by
    rw [serving.authority, addressed.network, serving.network]
  have verified : scene.membership.verify scene.platform.verifies scene.server.authority =
      true := by
    rw [MembershipCertificate.verify, serving.keys, Bool.and_eq_true]
    exact ⟨beq_self_eq_true _, honest.authoritySigns scene.draft.signingBytes⟩
  have timely : scene.membership.isValidAt scene.receivedAt = true := by
    simp only [MembershipCertificate.isValidAt, Scene.membership, Scene.draft, draftMembership,
      Option.all_none, Bool.and_true]
    exact decide_eq_true honest.clock
  have records : ((bootstrap scene.server).any fun record =>
      record.networkId != scene.invite.networkId || !record.verify scene.platform.verifies) =
        false := by
    rw [List.any_eq_false]
    intro record member
    obtain ⟨same, signed⟩ := shared_valid honest.built
      ((bootstrap_shared honest.built).subset member)
    rw [honest.built.verifiesAlike] at signed
    simp [same, signed, addressed.network, serving.network]
  have named : scene.membership.networkId = scene.invite.networkId := network
  have holder : scene.membership.sisterId = scene.sister := rfl
  have holderKey : scene.membership.sisterPublicKey = scene.key := rfl
  unfold EnrollmentResponse.validateReceived
  simp only [Scene.response, EnrollmentResponse.accepted, ne_eq, addressed.authority, network,
    named, holder, holderKey, verified, timely, records]
  rfl

theorem bundle_installs (honest : scene.Honest) : scene.Installs scene.bundle := by
  have committing : JoinRecovery.Committing scene.joinPlatform ⟨scene.bundle, scene.gateways⟩
      fun _ _ => none := by
    refine ⟨⟨nofun, nofun⟩, ?_⟩
    rw [honest.joinVerifiesAlike]
    exact validated_membership_verifies (response_validates honest)
  obtain ⟨succeeds, files⟩ := install_runs honest.bundleReads committing
    (fun _ => rfl : JoinRecovery.Free (fun _ _ => none) scene.uuid)
  refine ⟨succeeds, fun name => ?_⟩
  rw [files, Option.or_none]
end Building

/-! The conversation, turn by turn. -/
section Turns
variable {scene : Scene}

-- What `serve_stream` does with the proof.
def finishServing (platform : Platform) (server : EnrollmentServer) (request : EnrollmentRequest)
    (challenge : EnrollmentChallenge) (proof : EnrollmentProof) :
    EnrollmentTask EnrollmentFailure Unit := do
  let response ← respond platform server request challenge proof
  writeFrame response.encode
  ensure (isAccepted response) (.rejected .issuanceFailed)

def Scene.awaitsReply (scene : Scene) : EnrollmentTask EnrollmentFailure EnrollmentResponse :=
  readFrame scene.codecs.reply >>=
    answerChallenge scene.codecs scene.invite scene.sister scene.key scene.recipientNonce

def Scene.awaitsProof (scene : Scene) : EnrollmentTask EnrollmentFailure Unit :=
  readFrame scene.platform.proof >>=
    finishServing scene.platform scene.server scene.request scene.challenge

def Scene.awaitsResponse (scene : Scene) : EnrollmentTask EnrollmentFailure EnrollmentResponse :=
  readFrame scene.codecs.response >>= takeResponse

theorem joiner_asks (fits : scene.request.encode.length ≤ MAX_ENROLLMENT_FRAME_LENGTH) :
    Works scene.joiner.reacts scene.start.caller (frame scene.request.encode)
      ⟨scene.awaitsReply, [], []⟩ :=
  works_local rfl (works_in (· >>= fun _ => scene.awaitsReply) (fun _ _ => rfl)
    (works_write_frame fits))

variable (honest : scene.Honest)
include honest

theorem authority_judges :
    Works scene.authority.reacts
      ⟨evaluate scene.platform scene.server scene.request, [scene.checkedAt, scene.issuedAt], []⟩ []
      ⟨.done scene.challenge, [scene.issuedAt], []⟩ := by
  have addressed := honest.addressed
  apply works_local rfl
  have valid : scene.request.invite.verify scene.platform.verifies scene.checkedAt = true :=
    honest.valid
  have network : scene.request.invite.networkId = scene.server.networkId := addressed.network
  have authority : scene.request.invite.authority = scene.server.authority := addressed.authority
  have locator : scene.request.invite.locator.sisterId = scene.server.sisterId := addressed.locator
  have endpoint : scene.request.invite.locator.transportBinding.irohEndpointId =
      scene.server.irohEndpointId := addressed.endpoint
  simp only [List.headD_cons, valid, network, authority, locator, endpoint, beq_self_eq_true]
  apply works_local rfl
  apply works_local rfl
  exact .here _

theorem authority_challenges (fits : scene.request.encode.length ≤ MAX_ENROLLMENT_FRAME_LENGTH) :
    Works scene.authority.reacts
      (scene.start.host.receive (frame scene.request.encode))
      (frame (ServerReply.challenge scene.challenge).encode)
      ⟨scene.awaitsProof, [scene.issuedAt], []⟩ := by
  apply works_bind (works_read_whole fits honest.requestReads)
  apply works_bind (works_in attempt (fun _ _ => rfl) (authority_judges honest))
  exact works_in (· >>= fun _ => scene.awaitsProof) (fun _ _ => rfl)
    (works_write_frame challenge_fits)

theorem joiner_answers :
    Works scene.joiner.reacts
      ⟨scene.awaitsReply, [], frame (ServerReply.challenge scene.challenge).encode⟩
      (frame scene.proof.encode) ⟨scene.awaitsResponse, [], []⟩ := by
  apply works_bind (works_read_whole challenge_fits honest.challengeReads)
  apply works_local rfl
  have network : scene.challenge.networkId = scene.invite.networkId := honest.addressed.network.symm
  have version : scene.challenge.protocolVersion = ENROLLMENT_PROTOCOL_VERSION := rfl
  have digest : scene.challenge.inviteDigest =
    scene.joiner.sha256 scene.invite.signingBytes := rfl
  have sister : scene.challenge.sisterId = scene.sister := rfl
  have key : scene.challenge.sisterPublicKey = scene.key := rfl
  have nonce : scene.challenge.recipientNonce = scene.recipientNonce := rfl
  simp only [network, digest, sister, key, nonce, beq_self_eq_true]
  apply works_local rfl
  exact works_in (· >>= fun _ => scene.awaitsResponse) (fun _ _ => rfl)
    (works_write_frame proof_fits)

-- The membership is issued whether or not the response can be sent.
theorem authority_responds :
    Works scene.authority.reacts
      ⟨respond scene.platform scene.server scene.request scene.challenge scene.proof,
        [scene.issuedAt], []⟩ [] ⟨.done scene.response, [], []⟩ := by
  have proved : scene.challenge.verify scene.platform.verifies scene.proof = true :=
    honest.joinerSigns scene.challenge.signingBytes
  rw [respond, if_pos proved]
  apply works_local rfl
  apply works_local rfl
  apply works_local rfl
  exact .here _

theorem authority_issues (fits : scene.response.encode.length ≤ MAX_ENROLLMENT_FRAME_LENGTH) :
    Works scene.authority.reacts ⟨scene.awaitsProof, [scene.issuedAt], frame scene.proof.encode⟩
      (frame scene.response.encode) ⟨.done (), [], []⟩ := by
  apply works_bind (works_read_whole proof_fits honest.proofReads)
  apply works_bind (authority_responds honest)
  exact works_in (· >>= fun _ => ensure (isAccepted scene.response) (.rejected .issuanceFailed))
    (fun _ _ => rfl) (works_write_frame fits)

theorem authority_gives_up (long : ¬ scene.response.encode.length ≤ MAX_ENROLLMENT_FRAME_LENGTH) :
    Works scene.authority.reacts ⟨scene.awaitsProof, [scene.issuedAt], frame scene.proof.encode⟩
      [] ⟨.fail .protocol, [], []⟩ := by
  apply works_bind (works_read_whole proof_fits honest.proofReads)
  apply works_bind (authority_responds honest)
  rw [writeFrame, decide_eq_false long]
  exact .here _

theorem joiner_receives (fits : scene.response.encode.length ≤ MAX_ENROLLMENT_FRAME_LENGTH) :
    Works scene.joiner.reacts ⟨scene.awaitsResponse, [], frame scene.response.encode⟩ []
      ⟨.done scene.response, [], []⟩ := by
  apply works_bind (works_read_whole fits honest.responseReads)
  exact .here _

theorem proof_arrives (fits : scene.request.encode.length ≤ MAX_ENROLLMENT_FRAME_LENGTH) :
    scene.Runs scene.start
      ⟨⟨scene.awaitsResponse, [], []⟩,
        ⟨scene.awaitsProof, [scene.issuedAt], frame scene.proof.encode⟩⟩ := by
  have asked : scene.Runs scene.start ⟨⟨scene.awaitsReply, [], []⟩, _⟩ :=
    caller_works (reacts_patient _) (joiner_asks fits) scene.start.host
  have challenged : scene.Runs
      ⟨⟨scene.awaitsReply, [], []⟩, scene.start.host.receive (frame scene.request.encode)⟩ _ :=
    host_works (reacts_patient _) (authority_challenges honest fits) _
  have answered : scene.Runs
      ⟨⟨scene.awaitsReply, [], frame (ServerReply.challenge scene.challenge).encode⟩,
        ⟨scene.awaitsProof, [scene.issuedAt], []⟩⟩ _ :=
    caller_works (reacts_patient _) (joiner_answers honest) _
  exact (asked.trans challenged).trans answered
end Turns

/-! The outcome. -/
section Outcome
variable {scene : Scene}

theorem join_completes (honest : scene.Honest) (fits : scene.Fits) : scene.Completes := by
  obtain ⟨asks, answers⟩ := fits
  rw [← request_length] at asks
  rw [← response_length honest.built] at answers
  have issued : scene.Runs
      ⟨⟨scene.awaitsResponse, [], []⟩,
        ⟨scene.awaitsProof, [scene.issuedAt], frame scene.proof.encode⟩⟩ _ :=
    host_works (reacts_patient _) (authority_issues honest answers) _
  have received : scene.Runs
      ⟨⟨scene.awaitsResponse, [], frame scene.response.encode⟩, ⟨.done (), [], []⟩⟩
      ⟨⟨.done scene.response, [], []⟩, ⟨.done (), [], []⟩⟩ :=
    caller_works (reacts_patient _) (joiner_receives honest answers) _
  apply settles_along (speaks_diamond (reacts_patient _) (reacts_patient _))
    (((proof_arrives honest asks).trans issued).trans received)
  apply Settles.rest
  · intro after taken
    cases taken with
    | caller moved | host moved => cases moved
  · exact ⟨rfl, scene.response, scene.bundle, rfl, answers, response_validates honest,
      bundle_installs honest⟩

-- A joiner that has failed does not join any more.
theorem failed_never_joins {conversation : Enrolling} {error : EnrollmentFailure}
    (run : scene.Runs scene.start conversation)
    (failed : conversation.caller.task = .fail error) : ¬ scene.Completes := by
  intro completes
  obtain ⟨final, onward, _, response, _, received, _⟩ := settles_run (settles_after completes run)
  have stays := ended_caller_stays onward (by rw [failed]; rfl)
  rw [failed, received] at stays
  cases stays

theorem join_fails (honest : scene.Honest) (long : ¬ scene.Fits) : ¬ scene.Completes := by
  rw [Scene.Fits, ← request_length, ← response_length honest.built] at long
  by_cases asks : scene.request.encode.length ≤ MAX_ENROLLMENT_FRAME_LENGTH
  · have answers : ¬ scene.response.encode.length ≤ MAX_ENROLLMENT_FRAME_LENGTH :=
      fun fits => long ⟨asks, fits⟩
    have refused : scene.Runs
        ⟨⟨scene.awaitsResponse, [], []⟩,
          ⟨scene.awaitsProof, [scene.issuedAt], frame scene.proof.encode⟩⟩
        ⟨⟨scene.awaitsResponse, [], []⟩, ⟨.fail .protocol, [], []⟩⟩ :=
      host_works (reacts_patient _) (authority_gives_up honest answers) _
    -- The authority hangs up, and the joiner reads the end of the stream.
    have ends : scene.Runs ⟨⟨scene.awaitsResponse, [], []⟩, ⟨.fail .protocol, [], []⟩⟩
        ⟨⟨.fail (.transport ("read len: " ++ "early eof")), [], []⟩, _⟩ := .single (.caller rfl)
    exact failed_never_joins (((proof_arrives honest asks).trans refused).trans ends) rfl
  · have unsent : Works scene.joiner.reacts ⟨writeFrame scene.request.encode, [], []⟩ []
        ⟨.fail .protocol, [], []⟩ := by
      rw [writeFrame, decide_eq_false asks]
      exact .here _
    have refused : Works scene.joiner.reacts scene.start.caller [] ⟨.fail .protocol, [], []⟩ :=
      works_local rfl (works_in (· >>= fun _ => scene.awaitsReply) (fun _ _ => rfl) unsent)
    exact failed_never_joins (caller_works (reacts_patient _) refused _) rfl

end Outcome

/-! An authority that has taken up two records with padded endpoints. -/
section Sample

def sampleAuthority : NetworkAuthority := ⟨NodeRuntime.sampleNetwork, Bytes.fill 32 0xa1⟩

def sampleLocator : PeerRecord := paddedRecord 1 0

def unsignedInvite : EnrollmentInvite where
  version := ENROLLMENT_VERSION
  networkId := NodeRuntime.sampleNetwork
  authority := sampleAuthority
  issuedAt := 100
  expiresAt := 200
  inviteNonce := Bytes.fill 32 0x11
  locator := sampleLocator
  authoritySignature := Bytes.fill 64 0

def signInvite (invite : EnrollmentInvite) : EnrollmentInvite :=
  { invite with
    authoritySignature := sampleSign invite.authority.authorityPublicKey invite.signingBytes }

theorem invite_bytes (invite : EnrollmentInvite) (signature : Signature) :
    { invite with authoritySignature := signature }.signingBytes = invite.signingBytes := rfl

theorem sample_locator_verifies : sampleLocator.verify sampleVerifies = true :=
  padded_verifies [] 1 0

theorem sample_invite_verifies : (signInvite unsignedInvite).verify sampleVerifies 150 = true := by
  have signed : sampleVerifies sampleAuthority.authorityPublicKey
      (signInvite unsignedInvite).signingBytes (signInvite unsignedInvite).authoritySignature =
        true := by
    rw [signInvite, invite_bytes]
    exact sample_signature_verifies _ _
  simp only [EnrollmentInvite.verify, Bool.and_eq_true]
  exact ⟨⟨⟨⟨⟨⟨⟨by decide, by decide⟩, by decide⟩, by decide⟩, by decide⟩, signed⟩, by decide⟩,
    sample_locator_verifies⟩

variable (first second : Nat)

def sampleServer : EnrollmentServer where
  networkId := NodeRuntime.sampleNetwork
  authority := sampleAuthority
  authorityKey := sampleAuthority.authorityPublicKey
  sisterId := 1
  irohEndpointId := sampleLocator.transportBinding.irohEndpointId
  locator := sampleLocator
  extraBootstrap := (loadFromDir sampleVerifies NodeRuntime.sampleNetwork
    (peerRecords (paddedMap first second))).filter (·.sisterId ≠ sampleLocator.sisterId)

-- The parties, before their codecs are filled in.
noncomputable def silentScene : Scene where
  nodePlatform := paddingPlatform []
  node := NodeRuntime.sampleNode
  known := paddedMap first second
  server := sampleServer first second
  invite := signInvite unsignedInvite
  sister := 9
  key := Bytes.fill 32 0xc1
  gateways := none
  uuid := Bytes.fill 16 8
  platform := ⟨sampleVerifies, Sha256.sha256, fun _ => .error "request", fun _ => .error "proof"⟩
  joinPlatform := ⟨sampleVerifies, fun _ => .error "id", fun _ => .error "authority",
    fun _ => .error "membership"⟩
  codecs := ⟨fun _ => .error "reply", fun _ => .error "response"⟩
  sign := sampleSign
  recipientNonce := Bytes.fill 32 0x22
  authorityNonce := Bytes.fill 32 0x33
  serial := 2
  checkedAt := 150
  issuedAt := 151
  receivedAt := 152

-- What the parties say does not depend on their decoders.
def Scene.withCodecs (scene : Scene) (request : Decoder EnrollmentRequest)
    (proof : Decoder EnrollmentProof) (joinPlatform : JoinPlatform) (codecs : JoinerCodecs) :
    Scene :=
  { scene with
    platform := { scene.platform with request := request, proof := proof }
    joinPlatform := joinPlatform
    codecs := codecs }

section Codecs
variable (scene : Scene) (request : Decoder EnrollmentRequest) (proof : Decoder EnrollmentProof)
variable (joinPlatform : JoinPlatform) (codecs : JoinerCodecs)

theorem request_decoder :
    (scene.withCodecs request proof joinPlatform codecs).platform.request = request := rfl

theorem proof_decoder :
    (scene.withCodecs request proof joinPlatform codecs).platform.proof = proof := rfl

theorem joiner_codecs :
    (scene.withCodecs request proof joinPlatform codecs).codecs = codecs := rfl

theorem join_codecs :
    (scene.withCodecs request proof joinPlatform codecs).joinPlatform = joinPlatform := rfl

theorem request_with_codecs :
    (scene.withCodecs request proof joinPlatform codecs).request = scene.request := rfl

theorem challenge_with_codecs :
    (scene.withCodecs request proof joinPlatform codecs).challenge = scene.challenge := rfl

theorem proof_with_codecs :
    (scene.withCodecs request proof joinPlatform codecs).proof = scene.proof := rfl

theorem bundle_with_codecs :
    (scene.withCodecs request proof joinPlatform codecs).bundle = scene.bundle := rfl

theorem response_with_codecs :
    (scene.withCodecs request proof joinPlatform codecs).response = scene.response := rfl
end Codecs

open NodeRuntime (recognise recognise_first)

def sampleJoinPlatform (membership : MembershipCertificate) : JoinPlatform where
  verifies := sampleVerifies
  parseNetworkId := fun text =>
    if text = NodeRuntime.sampleNetwork.display.toList then .ok NodeRuntime.sampleNetwork
    else .error "invalid character"
  authority := fun text =>
    if text = (authorityJson sampleAuthority).toList then .ok sampleAuthority
    else .error "EOF while parsing a value"
  membership := recognise MembershipCertificate.encode [membership]

noncomputable def sampleScene : Scene :=
  (silentScene first second).withCodecs
    (recognise EnrollmentRequest.encode [(silentScene first second).request])
    (recognise EnrollmentProof.encode [(silentScene first second).proof])
    (sampleJoinPlatform (silentScene first second).membership)
    ⟨recognise ServerReply.encode [.challenge (silentScene first second).challenge],
      recognise EnrollmentResponse.encode [(silentScene first second).response]⟩

theorem sample_accepted :
    Accepted (paddingPlatform []) NodeRuntime.sampleNode (paddedMap first second) := by
  rw [paddedMap, ← remember_padded [] 3 second (Finmap.lookup_insert_of_ne _ (by decide)),
    ← remember_padded [] 2 first rfl]
  exact .accepts (.accepts .start _) _

theorem sample_server_built :
    buildEnrollmentServer sampleVerifies NodeRuntime.sampleNetwork 1 (some sampleLocator)
      (some (sampleAuthority, sampleAuthority.authorityPublicKey))
      (some sampleLocator.transportBinding) (peerRecords (paddedMap first second)) =
        some (sampleServer first second) :=
  server_built rfl (signed_binding_verifies _) rfl sample_locator_verifies

theorem sample_bundle_reads :
    JoinRecovery.ReadsBack (sampleJoinPlatform (silentScene first second).membership)
      (silentScene first second).bundle := by
  have authority : (silentScene first second).bundle.authority = sampleAuthority := rfl
  have network : sampleAuthority.networkId = NodeRuntime.sampleNetwork := rfl
  have membership : (silentScene first second).bundle.membership =
    (silentScene first second).membership := rfl
  constructor
  · rw [authority, network]
    simp only [sampleJoinPlatform, if_true]
  · rw [authority]
    simp only [sampleJoinPlatform, if_true]
  · rw [membership]
    simp only [sampleJoinPlatform, recognise_first]

theorem sample_honest : (sampleScene first second).Honest where
  built := ⟨sample_accepted first second, rfl, sampleLocator, sampleAuthority,
    sampleAuthority.authorityPublicKey, sampleLocator.transportBinding,
    sample_server_built first second, rfl, rfl⟩
  addressed := ⟨rfl, rfl, rfl, rfl⟩
  valid := sample_invite_verifies
  clock := (by decide : (151 : UInt64) ≤ 152)
  authoritySigns := sample_signature_verifies _
  joinerSigns := sample_signature_verifies _
  joinVerifiesAlike := rfl
  requestReads := by rw [sampleScene, request_with_codecs, request_decoder, recognise_first]
  challengeReads := by
    simp only [sampleScene, challenge_with_codecs, joiner_codecs, recognise_first]
  proofReads := by rw [sampleScene, proof_with_codecs, proof_decoder, recognise_first]
  responseReads := by
    simp only [sampleScene, response_with_codecs, joiner_codecs, recognise_first]
  bundleReads := by
    exact sample_bundle_reads first second

theorem sample_shared :
    totalLength (sampleScene first second).shared = 1401 + first + second := by
  have shared : (sampleScene first second).shared =
      [paddedRecord 1 0] ++ ([paddedRecord 2 first] ++ [paddedRecord 3 second]) := by
    have stored := padded_records first second
    change sampleLocator :: (peerRecords (paddedMap first second)).filter _ = _
    rw [stored]
    rfl
  rw [shared, total_length_append, total_length_append, padded_total, padded_total, padded_total]
  omega

theorem sample_fits_iff :
    (sampleScene first second).Fits ↔ 1664 + first + second ≤ MAX_ENROLLMENT_FRAME_LENGTH := by
  have request : FIXED_REQUEST_LENGTH +
      (utf8 (sampleScene first second).invite.locator.endpointAddr).length ≤
        MAX_ENROLLMENT_FRAME_LENGTH := by
    change _ + (utf8 (paddedEndpoint 0)).length ≤ _
    decide
  have fixed : FIXED_RESPONSE_LENGTH + (1401 + first + second) = 1664 + first + second := by
    rw [FIXED_RESPONSE_LENGTH]
    omega
  rw [Scene.Fits, sample_shared, fixed]
  exact ⟨And.right, fun fits => ⟨request, fits⟩⟩
end Sample

theorem honest_join_completes_iff {scene : Scene} (honest : scene.Honest) :
    scene.Completes ↔ scene.Fits := by
  constructor
  · intro completes
    by_contra long
    exact join_fails honest long completes
  · exact join_completes honest

theorem sample_join_completes : (sampleScene 10 20).Completes :=
  (honest_join_completes_iff (sample_honest 10 20)).mpr ((sample_fits_iff 10 20).mpr (by decide))

/-- Two records with long endpoints, each small enough for the message it came in. -/
theorem stored_records_block_joining :
    (sampleScene 300000 300000).Honest ∧ ¬ (sampleScene 300000 300000).Completes := by
  have honest := sample_honest 300000 300000
  refine ⟨honest, join_fails honest ?_⟩
  rw [sample_fits_iff]
  decide
end Misaka.EnrollmentDialogue
