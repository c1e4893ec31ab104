import Misaka.GatewayContract
import Misaka.KeyedRows

/-!
The Gateway directory as one Durable Object: two SQL tables and one alarm. The
columns are signed 64-bit integers, so sequences, ids and times are cast on the
way in. The clock of the platform counts milliseconds and stands still while a
request is handled; the contract counts seconds. Requests and alarms are taken
one at a time.
-/

namespace Misaka.CloudflareDirectory
open Bincode Identity Protocol UniqueDecoding SigningSeparation GatewayContract KeyedRows

theorem to_int64_int (value : UInt64) :
    value.toInt64.toInt =
      if value.toNat < 2 ^ 63 then (value.toNat : Int) else value.toNat - 2 ^ 64 := by
  have bits : value.toInt64.toInt = value.toBitVec.toInt := rfl
  rw [bits, BitVec.toInt_eq_toNat_cond, UInt64.toNat_toBitVec]
  split <;> split <;> omega

theorem to_int64_injective {left right : UInt64} (same : left.toInt64 = right.toInt64) :
    left = right := by
  have back := congrArg Int64.toUInt64 same
  simpa using back

structure PeerRow where
  record : String
  sequence : Int64
  membershipSerial : Int64
  lastSeen : Int64
  expiresAt : Int64

/-- The alarm is the millisecond it is scheduled for. -/
structure Directory where
  peers : Rows Int64 PeerRow
  nonces : Rows (Bytes 16) Int64
  alarm : Option Int

def Directory.new : Directory := ⟨∅, ∅, none⟩

inductive Response where
  | noContent
  | records (records : Multiset PeerRecord)
  | error (message : String) (status : Nat)
  | failed (message : String)

structure DirectoryPlatform extends GatewayPlatform where
  recordJson : PeerRecord → String
  readRecord : String → Except String PeerRecord

/-- The variables of the deployment; a lifetime that is unset or does not parse is
absent. -/
structure Env where
  authority : NetworkAuthority
  recordTtl : Option UInt64
  nonceTtl : Option UInt64

def RECORD_TTL_SECS : UInt64 := 600

def AUTH_WINDOW_SECS : UInt64 := 300

def NONCE_TTL_SECS : UInt64 := 900

def recordTtlSecs (env : Env) : UInt64 :=
  (env.recordTtl.filter fun seconds => decide (seconds > 0)).getD RECORD_TTL_SECS

def nonceTtlSecs (env : Env) : UInt64 :=
  (env.nonceTtl.filter fun seconds => decide (seconds > 0)).getD NONCE_TTL_SECS

/-- A point in time as JavaScript dates have it, in milliseconds. -/
abbrev DateMs := Fin 8640000000000001

def nowSecs (clock : DateMs) : UInt64 := UInt64.ofNat (clock.val / 1000)

theorem now_secs_nat (clock : DateMs) : (nowSecs clock).toNat = clock.val / 1000 := by
  rw [nowSecs, UInt64.toNat_ofNat', Nat.mod_eq_of_lt]
  omega

section Handlers
variable (platform : DirectoryPlatform) (env : Env)

def Directory.expiries (directory : Directory) : Multiset Int :=
  ((values directory.peers).map fun row => row.expiresAt.toInt) +
    (values directory.nonces).map Int64.toInt

def saturatingMul (left right : Int) : Int := max (-(2 ^ 63)) (min (left * right) (2 ^ 63 - 1))

-- Differences and products of `i64` wrap in a release build.
def wrapping (value : Int) : Int := value.bmod (2 ^ 64)

def offsetMs (expiresAt : Int) (now : UInt64) : Int :=
  wrapping (saturatingMul expiresAt 1000 - wrapping (now.toInt64.toInt * 1000))

variable (directory : Directory)

def Directory.scheduleAlarm (clock : DateMs) : Directory :=
  match least directory.expiries with
  | none => directory
  | some expiresAt =>
    { directory with alarm := some (clock.val + max (offsetMs expiresAt (nowSecs clock)) 0) }

/-- `INSERT INTO nonces`: the row, unless the key is taken. -/
def Directory.spendNonce (nonce : Bytes 16) (now : UInt64) : Directory :=
  { directory with nonces := directory.nonces.insert nonce (now + nonceTtlSecs env).toInt64 }

def Directory.spent (nonce : Bytes 16) : Bool :=
  (directory.nonces.lookup nonce).isSome

def peerRow (record : PeerRecord) (membership : MembershipCertificate) (now : UInt64) : PeerRow where
  record := platform.recordJson record
  sequence := record.sequence.toInt64
  membershipSerial := membership.serial.toInt64
  lastSeen := now.toInt64
  expiresAt := (now + recordTtlSecs env).toInt64

/-- `INSERT INTO peers … ON CONFLICT(sister_id) DO UPDATE SET … WHERE …`. -/
def Directory.upsertPeer (directory : Directory) (key : Int64) (excluded : PeerRow) : Directory :=
  match directory.peers.lookup key with
  | none => { directory with peers := directory.peers.insert key excluded }
  | some row =>
    if excluded.sequence ≥ row.sequence then
      { directory with
        peers := directory.peers.insert key
          { lastSeen := excluded.lastSeen
            expiresAt := excluded.expiresAt
            record := if excluded.sequence > row.sequence then excluded.record else row.record
            sequence :=
              if excluded.sequence > row.sequence then excluded.sequence else row.sequence
            membershipSerial :=
              if excluded.sequence > row.sequence then excluded.membershipSerial
              else row.membershipSerial } }
    else directory

def handleAnnounce (clock : DateMs) (body : List UInt8) (directory : Directory) :
    Response × Directory :=
  match platform.announceRequest body with
  | .error _ => (.failed "invalid announce body", directory)
  | .ok parsed =>
    let now := nowSecs clock
    match verifyRequest platform.toCrypto parsed.auth
        (announceBodyBytes parsed.membership parsed.record) parsed.membership env.authority now
        AUTH_WINDOW_SECS with
    | .error error => (.failed ("auth failed: " ++ error.display), directory)
    | .ok _ =>
      if directory.spent parsed.auth.nonce then (.error "replayed nonce" 401, directory)
      else
        let directory := directory.spendNonce env parsed.auth.nonce now
        if !recordMatchesMembership parsed.record parsed.membership then
          (.error "record identity does not match membership" 403, directory)
        else if !parsed.record.verify platform.verifies then
          (.error "record signature verification failed" 400, directory)
        else
          let directory := directory.upsertPeer parsed.record.sisterId.toInt64
            (peerRow platform env parsed.record parsed.membership now)
          (.noContent, directory.scheduleAlarm clock)

/-- `SELECT record FROM peers WHERE expires_at > ?`, without what does not parse. -/
def Directory.liveRecords (directory : Directory) (now : UInt64) : Multiset PeerRecord :=
  (values (retain (fun _ row => decide (row.expiresAt > now.toInt64)) directory.peers)).filterMap
    fun row => (platform.readRecord row.record).toOption

def handlePeers (clock : DateMs) (body : List UInt8) (directory : Directory) :
    Response × Directory :=
  match platform.peersRequest body with
  | .error _ => (.failed "invalid peers body", directory)
  | .ok parsed =>
    let now := nowSecs clock
    match verifyRequest platform.toCrypto parsed.auth peersBodyBytes parsed.membership
        env.authority now AUTH_WINDOW_SECS with
    | .error error => (.failed ("auth failed: " ++ error.display), directory)
    | .ok _ =>
      if directory.spent parsed.auth.nonce then (.error "replayed nonce" 401, directory)
      else
        let directory := (directory.spendNonce env parsed.auth.nonce now).scheduleAlarm clock
        (.records (directory.liveRecords platform now), directory)

def Directory.collect (directory : Directory) (now : Int64) : Directory :=
  { peers := retain (fun _ row => decide (row.expiresAt > now)) directory.peers
    nonces := retain (fun _ expiry => decide (expiry > now)) directory.nonces
    alarm := none }

-- The alarm that woke the object is no longer set when its handler runs.
def alarm (clock : DateMs) (directory : Directory) : Directory :=
  (directory.collect (nowSecs clock).toInt64).scheduleAlarm clock

inductive Event where
  | fetch (call : Call)
  | alarm

def handle (event : Event) (clock : DateMs) (directory : Directory) :
    Option Response × Directory :=
  match event with
  | .fetch (.announce body) =>
    let (response, directory) := handleAnnounce platform env clock body directory
    (some response, directory)
  | .fetch (.peers body) =>
    let (response, directory) := handlePeers platform env clock body directory
    (some response, directory)
  | .alarm => (none, alarm clock directory)
end Handlers

section Outcomes
variable (platform : DirectoryPlatform) (env : Env)

/-- An announce whose auth is accepted and whose record is not. -/
def Unmatched (request : GatewayAnnounceRequest) : Prop :=
  recordMatchesMembership request.record request.membership = false ∨
    request.record.verify platform.verifies = false

abbrev Admitted (call : Call) (clock : DateMs) :=
  Passed platform.toGatewayPlatform env.authority AUTH_WINDOW_SECS call (nowSecs clock)

/-- Everything one event can do. -/
inductive Handling (directory : Directory) (clock : DateMs) :
    Event → Option Response → Directory → Prop where
  | failed {call : Call} {message : String} :
      Handling directory clock (.fetch call) (some (.failed message)) directory
  | replayed {call : Call} {auth : GatewayAuth} {membership : MembershipCertificate}
      {body : List UInt8} (passed : Admitted platform env call clock auth membership body)
      (spent : directory.spent auth.nonce = true) :
      Handling directory clock (.fetch call) (some (.error "replayed nonce" 401)) directory
  | unmatched {call : Call} {request : GatewayAnnounceRequest} {message : String} {status : Nat}
      (taken : call.announces platform.toGatewayPlatform = some request)
      (passed : Admitted platform env call clock request.auth request.membership
        (announceBodyBytes request.membership request.record))
      (fresh : directory.spent request.auth.nonce = false) (bad : Unmatched platform request) :
      Handling directory clock (.fetch call) (some (.error message status))
        (directory.spendNonce env request.auth.nonce (nowSecs clock))
  | announced {call : Call} {request : GatewayAnnounceRequest}
      (taken : call.announces platform.toGatewayPlatform = some request)
      (passed : Admitted platform env call clock request.auth request.membership
        (announceBodyBytes request.membership request.record))
      (fresh : directory.spent request.auth.nonce = false)
      (matched : recordMatchesMembership request.record request.membership = true)
      (verified : request.record.verify platform.verifies = true) :
      Handling directory clock (.fetch call) (some .noContent)
        (((directory.spendNonce env request.auth.nonce (nowSecs clock)).upsertPeer
          request.record.sisterId.toInt64
          (peerRow platform env request.record request.membership (nowSecs clock))).scheduleAlarm
            clock)
  | listed {call : Call} {query : GatewayPeersRequest}
      (queried : call.queries platform.toGatewayPlatform = some query)
      (passed : Admitted platform env call clock query.auth query.membership peersBodyBytes)
      (fresh : directory.spent query.auth.nonce = false) :
      Handling directory clock (.fetch call)
        (some (.records (directory.liveRecords platform (nowSecs clock))))
        ((directory.spendNonce env query.auth.nonce (nowSecs clock)).scheduleAlarm clock)
  | collected :
      Handling directory clock .alarm none
        ((directory.collect (nowSecs clock).toInt64).scheduleAlarm clock)

variable {platform env} {directory : Directory} {clock : DateMs}

@[simp]
theorem schedule_peers : (directory.scheduleAlarm clock).peers = directory.peers := by
  unfold Directory.scheduleAlarm
  split <;> rfl

@[simp]
theorem schedule_nonces : (directory.scheduleAlarm clock).nonces = directory.nonces := by
  unfold Directory.scheduleAlarm
  split <;> rfl

@[simp]
theorem upsert_nonces {key : Int64} {row : PeerRow} :
    (directory.upsertPeer key row).nonces = directory.nonces := by
  unfold Directory.upsertPeer
  split
  · rfl
  · split <;> rfl

theorem announce_handling (body : List UInt8) :
    Handling platform env directory clock (.fetch (.announce body))
      (some (handleAnnounce platform env clock body directory).1)
      (handleAnnounce platform env clock body directory).2 := by
  unfold handleAnnounce
  cases decoded : platform.announceRequest body with
  | error message => exact .failed
  | ok request =>
    have taken : (Call.announce body).announces platform.toGatewayPlatform = some request := by
      rw [Call.announces, decoded]
      rfl
    dsimp only
    cases verdict : verifyRequest platform.toCrypto request.auth
        (announceBodyBytes request.membership request.record) request.membership env.authority
        (nowSecs clock) AUTH_WINDOW_SECS with
    | error cause => exact .failed
    | ok key =>
      have passed : Admitted platform env (.announce body) clock request.auth
          request.membership (announceBodyBytes request.membership request.record) :=
        ⟨Or.inl ⟨request, taken, rfl, rfl, rfl⟩, verify_request_ok verdict⟩
      cases spent : directory.spent request.auth.nonce with
      | true => exact .replayed passed spent
      | false =>
        cases matched : recordMatchesMembership request.record request.membership with
        | false => exact .unmatched taken passed spent (Or.inl matched)
        | true =>
          cases verified : request.record.verify platform.verifies with
          | false => exact .unmatched taken passed spent (Or.inr verified)
          | true => exact .announced taken passed spent matched verified

theorem peers_handling (body : List UInt8) :
    Handling platform env directory clock (.fetch (.peers body))
      (some (handlePeers platform env clock body directory).1)
      (handlePeers platform env clock body directory).2 := by
  unfold handlePeers
  cases decoded : platform.peersRequest body with
  | error message => exact .failed
  | ok query =>
    have queried : (Call.peers body).queries platform.toGatewayPlatform = some query := by
      rw [Call.queries, decoded]
      rfl
    dsimp only
    cases verdict : verifyRequest platform.toCrypto query.auth peersBodyBytes query.membership
        env.authority (nowSecs clock) AUTH_WINDOW_SECS with
    | error cause => exact .failed
    | ok key =>
      have passed : Admitted platform env (.peers body) clock query.auth query.membership
          peersBodyBytes :=
        ⟨Or.inr ⟨query, queried, rfl, rfl, rfl⟩, verify_request_ok verdict⟩
      cases spent : directory.spent query.auth.nonce with
      | true => exact .replayed passed spent
      | false =>
        have answer : ((directory.spendNonce env query.auth.nonce
            (nowSecs clock)).scheduleAlarm clock).liveRecords platform (nowSecs clock) =
            directory.liveRecords platform (nowSecs clock) := by
          rw [Directory.liveRecords, schedule_peers]
          rfl
        simp only [Bool.false_eq_true, if_false, answer]
        exact .listed queried passed spent

section Answers
variable {body : List UInt8} {key : PublicKey} {request : GatewayAnnounceRequest}

theorem handle_listed {query : GatewayPeersRequest}
    (decoded : platform.peersRequest body = .ok query)
    (verdict : verifyRequest platform.toCrypto query.auth peersBodyBytes query.membership
      env.authority (nowSecs clock) AUTH_WINDOW_SECS = .ok key)
    (fresh : directory.spent query.auth.nonce = false) :
    handle platform env (.fetch (.peers body)) clock directory =
      (some (.records (directory.liveRecords platform (nowSecs clock))),
        (directory.spendNonce env query.auth.nonce (nowSecs clock)).scheduleAlarm clock) := by
  rw [handle, handlePeers, decoded]
  simp only [verdict, fresh, Bool.false_eq_true, if_false, Directory.liveRecords, schedule_peers]
  rfl

variable (decoded : platform.announceRequest body = .ok request)
variable (verdict : verifyRequest platform.toCrypto request.auth
  (announceBodyBytes request.membership request.record) request.membership env.authority
  (nowSecs clock) AUTH_WINDOW_SECS = .ok key) (fresh : directory.spent request.auth.nonce = false)

include decoded verdict fresh

theorem handle_announced
    (matched : recordMatchesMembership request.record request.membership = true)
    (verified : request.record.verify platform.verifies = true) :
    handle platform env (.fetch (.announce body)) clock directory =
      (some .noContent, ((directory.spendNonce env request.auth.nonce (nowSecs clock)).upsertPeer
        request.record.sisterId.toInt64
        (peerRow platform env request.record request.membership (nowSecs clock))).scheduleAlarm
          clock) := by
  rw [handle, handleAnnounce, decoded]
  simp only [verdict, fresh, matched, verified, Bool.not_true, Bool.false_eq_true, if_false]

/-- The nonce of such an announce is spent, and no alarm is set for it. -/
theorem handle_unmatched (bad : Unmatched platform request) :
    (handle platform env (.fetch (.announce body)) clock directory).2 =
      directory.spendNonce env request.auth.nonce (nowSecs clock) := by
  rw [handle, handleAnnounce, decoded]
  simp only [verdict, fresh, Bool.false_eq_true, if_false]
  cases matched : recordMatchesMembership request.record request.membership with
  | false => rfl
  | true => rw [bad.resolve_left (by simp [matched])]; rfl
end Answers

theorem handling (event : Event) :
    Handling platform env directory clock event (handle platform env event clock directory).1
      (handle platform env event clock directory).2 := by
  cases event with
  | fetch call =>
    cases call with
    | announce body => exact announce_handling body
    | peers body => exact peers_handling body
  | alarm => exact .collected
end Outcomes

def Event.announces (platform : GatewayPlatform) : Event → Option GatewayAnnounceRequest
  | .fetch call => call.announces platform
  | .alarm => none

structure Visit where
  event : Event
  clock : DateMs
  before : Directory
  answer : Option Response
  after : Directory

section Histories
variable (platform : DirectoryPlatform) (env : Env)

def visit (event : Event) (clock : DateMs) (directory : Directory) : Visit :=
  ⟨event, clock, directory, (handle platform env event clock directory).1,
    (handle platform env event clock directory).2⟩

/-- The events taken so far, under a clock that does not go back, and the state they
left. -/
inductive History : List Visit → Directory → Prop where
  | start : History [] Directory.new
  | next {visits : List Visit} {directory : Directory} (history : History visits directory)
      (event : Event) {clock : DateMs} (onward : ∀ visit ∈ visits, visit.clock ≤ clock) :
      History (visits ++ [visit platform env event clock directory])
        (handle platform env event clock directory).2

structure Visit.Accepts (visit : Visit) (request : GatewayAnnounceRequest) : Prop where
  taken : visit.event.announces platform.toGatewayPlatform = some request
  accepted : visit.answer = some .noContent

/-- `serde_json` reads back what it wrote of the announced records. -/
def ReadsBack (visits : List Visit) : Prop :=
  ∀ visit ∈ visits, ∀ request, visit.event.announces platform.toGatewayPlatform = some request →
    platform.readRecord (platform.recordJson request.record) = .ok request.record

variable {platform env} {visits : List Visit} {directory : Directory}

theorem History.step {event : Event} {clock : DateMs} {answer : Option Response}
    {after : Directory} (history : History platform env visits directory)
    (handled : handle platform env event clock directory = (answer, after))
    (onward : ∀ visit ∈ visits, visit.clock ≤ clock) :
    History platform env (visits ++ [⟨event, clock, directory, answer, after⟩]) after := by
  have next := history.next event onward
  rw [visit, handled] at next
  exact next

/-- What holds at the start and is kept by every event, under a condition on each,
holds before and after every event. -/
theorem history_invariant {holds : Directory → Prop} {condition : Visit → Prop}
    (start : holds Directory.new)
    (keeps : ∀ event clock directory, holds directory →
      condition (visit platform env event clock directory) →
      holds (handle platform env event clock directory).2)
    (history : History platform env visits directory) (meets : ∀ visit ∈ visits, condition visit) :
    holds directory ∧ ∀ visit ∈ visits, holds visit.before ∧ holds visit.after := by
  induction history with
  | start =>
    constructor
    · exact start
    · intro visit member
      cases member
  | next history event onward earlier =>
    obtain ⟨before, each⟩ := earlier fun visit member =>
      meets visit (List.mem_append_left _ member)
    have after := keeps event _ _ before
      (meets _ (List.mem_append_right _ (List.mem_singleton.mpr rfl)))
    constructor
    · exact after
    · intro visit member
      rcases List.mem_append.mp member with old | new
      · exact each visit old
      · rw [List.mem_singleton.mp new]
        exact ⟨before, after⟩

theorem history_visit (history : History platform env visits directory) :
    ∀ past ∈ visits, past = visit platform env past.event past.clock past.before := by
  induction history with
  | start =>
    intro past member
    cases member
  | next history event onward earlier =>
    intro past member
    rcases List.mem_append.mp member with old | new
    · exact earlier past old
    · rw [List.mem_singleton.mp new]
      rfl

theorem history_handling (history : History platform env visits directory) :
    ∀ visit ∈ visits,
      Handling platform env visit.before visit.clock visit.event visit.answer visit.after := by
  intro past member
  rw [history_visit history past member]
  exact handling past.event
end Histories

section Upserts
variable {platform : DirectoryPlatform} {directory : Directory} {key other : Int64}
variable {excluded row : PeerRow}

theorem upsert_other (different : other ≠ key) :
    (directory.upsertPeer key excluded).peers.lookup other = directory.peers.lookup other := by
  unfold Directory.upsertPeer
  split
  · exact Finmap.lookup_insert_of_ne _ different
  · split
    · exact Finmap.lookup_insert_of_ne _ different
    · rfl

theorem upsert_absent (absent : directory.peers.lookup key = none) :
    (directory.upsertPeer key excluded).peers.lookup key = some excluded := by
  unfold Directory.upsertPeer
  rw [absent]
  exact Finmap.lookup_insert _

variable (known : directory.peers.lookup key = some row)
include known

theorem upsert_higher (higher : row.sequence < excluded.sequence) :
    (directory.upsertPeer key excluded).peers.lookup key = some excluded := by
  have reaches : excluded.sequence ≥ row.sequence := Int64.le_of_lt higher
  unfold Directory.upsertPeer
  rw [known]
  simp only [reaches, if_true, gt_iff_lt, higher, Finmap.lookup_insert]

theorem upsert_equal (equal : row.sequence = excluded.sequence) :
    (directory.upsertPeer key excluded).peers.lookup key =
      some { row with lastSeen := excluded.lastSeen, expiresAt := excluded.expiresAt } := by
  have reaches : excluded.sequence ≥ row.sequence := equal ▸ Int64.le_refl _
  have level : ¬ row.sequence < excluded.sequence := equal ▸ Int64.lt_irrefl
  unfold Directory.upsertPeer
  rw [known]
  simp only [reaches, if_true, gt_iff_lt, level, if_false, Finmap.lookup_insert]

theorem upsert_lower (lower : excluded.sequence < row.sequence) :
    (directory.upsertPeer key excluded).peers.lookup key = some row := by
  have short : ¬ excluded.sequence ≥ row.sequence := Int64.not_le.mpr lower
  unfold Directory.upsertPeer
  simp only [short, if_false, known]

omit known

-- The text, the sequence and the serial of a row always come from one announce.
theorem upsert_row {found : PeerRow}
    (lookup : (directory.upsertPeer key excluded).peers.lookup key = some found) :
    (found = excluded ∧ ∀ row, directory.peers.lookup key = some row →
      row.sequence < excluded.sequence) ∨
    ∃ row, directory.peers.lookup key = some row ∧ excluded.sequence ≤ row.sequence ∧
      found.record = row.record ∧ found.sequence = row.sequence ∧
      (found.expiresAt = excluded.expiresAt ∨ found.expiresAt = row.expiresAt) := by
  cases known : directory.peers.lookup key with
  | none =>
    rw [upsert_absent known] at lookup
    cases lookup
    apply Or.inl
    refine ⟨rfl, fun row present => ?_⟩
    cases present
  | some row =>
    by_cases higher : row.sequence < excluded.sequence
    · rw [upsert_higher known higher] at lookup
      cases lookup
      apply Or.inl
      refine ⟨rfl, fun row' present => ?_⟩
      cases present
      exact higher
    · have reaches : excluded.sequence ≤ row.sequence := Int64.not_lt.mp higher
      apply Or.inr
      by_cases equal : row.sequence = excluded.sequence
      · rw [upsert_equal known equal] at lookup
        cases lookup
        exact ⟨row, rfl, reaches, rfl, rfl, Or.inl rfl⟩
      · have lower : excluded.sequence < row.sequence :=
          Int64.lt_of_le_of_ne reaches fun same => equal same.symm
        rw [upsert_lower known lower] at lookup
        cases lookup
        exact ⟨_, rfl, reaches, rfl, rfl, Or.inr rfl⟩
end Upserts

/-! The deployment of the contract's sample. Its records differ in their sequence and
time only, which is all the sample writes of them. -/
section Sample

def sampleJson (record : PeerRecord) : String :=
  toString record.sequence.toNat ++ " " ++ toString record.updatedAt.toNat

def sampleObject (announces : List GatewayAnnounceRequest) (queries : List GatewayPeersRequest) :
    DirectoryPlatform where
  toGatewayPlatform := samplePlatform announces queries
  recordJson := sampleJson
  readRecord json :=
    match (announces.map GatewayAnnounceRequest.record).find? (sampleJson · == json) with
    | some record => .ok record
    | none => .error "expected value"

def sampleEnv : Env := ⟨servedAuthority, none, none⟩

variable {announces : List GatewayAnnounceRequest} {queries : List GatewayPeersRequest}
variable {directory : Directory} {clock : DateMs} {body : List UInt8} {timestamp : UInt64}
variable {nonce : UInt8}

theorem member_announce_handled {sequence updatedAt : UInt64}
    (carried : numbered announces body =
      .ok (memberAnnounce timestamp nonce (memberRecord sequence updatedAt)))
    (fresh : timestampDelta (nowSecs clock) timestamp ≤ AUTH_WINDOW_SECS.toNat)
    (unspent : directory.spent (Bytes.fill 16 nonce) = false) :
    ∃ after, handle (sampleObject announces queries) sampleEnv (.fetch (.announce body)) clock
        directory = (some .noContent, after) ∧
      after.nonces = (directory.spendNonce sampleEnv (Bytes.fill 16 nonce) (nowSecs clock)).nonces ∧
      after.peers = ((directory.spendNonce sampleEnv (Bytes.fill 16 nonce)
        (nowSecs clock)).upsertPeer (memberRecord sequence updatedAt).sisterId.toInt64
          (peerRow (sampleObject announces queries) sampleEnv (memberRecord sequence updatedAt)
            memberCertificate (nowSecs clock))).peers := by
  have handled := @handle_announced (sampleObject announces queries) sampleEnv directory clock body
    memberKey (memberAnnounce timestamp nonce (memberRecord sequence updatedAt)) carried
    (member_verified _ _ fresh) unspent (member_record_matches _ _) (member_record_verifies _ _)
  refine ⟨_, handled, ?_, ?_⟩
  · rw [schedule_nonces, upsert_nonces]
    rfl
  · rw [schedule_peers]
    rfl

theorem member_query_handled
    (carried : numbered queries body = .ok (memberQuery timestamp nonce))
    (fresh : timestampDelta (nowSecs clock) timestamp ≤ AUTH_WINDOW_SECS.toNat)
    (unspent : directory.spent (Bytes.fill 16 nonce) = false) :
    ∃ after, handle (sampleObject announces queries) sampleEnv (.fetch (.peers body)) clock
        directory = (some (.records (directory.liveRecords (sampleObject announces queries)
          (nowSecs clock))), after) ∧
      after.nonces = (directory.spendNonce sampleEnv (Bytes.fill 16 nonce) (nowSecs clock)).nonces ∧
      after.peers = directory.peers := by
  have handled := @handle_listed (sampleObject announces queries) sampleEnv directory clock body
    memberKey (memberQuery timestamp nonce) carried (member_verified _ _ fresh) unspent
  refine ⟨_, handled, ?_, ?_⟩
  · rw [schedule_nonces]
    rfl
  · rw [schedule_peers]
    rfl
end Sample
end Misaka.CloudflareDirectory
