import Misaka.GatewayContract
import Misaka.KeyedRows

/-!
The native Gateway: a directory of announced records and a set of spent nonces,
both in the memory of one process. Each request reads the clock twice, once when
it is authenticated and once when it gets to the directory; sums of clock and
lifetime wrap as unsigned 64-bit integers do in a release build. What the two
maps hold is followed over all histories of requests under a clock that never
goes back.
-/

namespace Misaka.NativeGateway
open Bincode Identity Protocol UniqueDecoding SigningSeparation GatewayContract KeyedRows
variable {platform : GatewayPlatform} {now later : UInt64} {signed : PublicKey → List UInt8 → Prop}
variable {hashed : Set (List UInt8)}

structure GatewayConfig where
  authority : NetworkAuthority
  recordTtlSecs : UInt64
  authWindowSecs : UInt64
  nonceTtlSecs : UInt64

def GatewayConfig.new (authority : NetworkAuthority) : GatewayConfig :=
  ⟨authority, DEFAULT_RECORD_TTL_SECS, DEFAULT_AUTH_WINDOW_SECS, DEFAULT_NONCE_TTL_SECS⟩

structure DirectoryEntry where
  record : PeerRecord
  membershipSerial : UInt64
  expiresAt : UInt64
deriving DecidableEq

structure Gateway where
  members : Rows SisterId DirectoryEntry
  nonces : Rows (Bytes 16) UInt64

def Gateway.new : Gateway := ⟨∅, ∅⟩

inductive GatewayError where
  | auth (error : GatewayAuthError)
  | replayed | invalidBody | identityMismatch | invalidRecord
deriving DecidableEq

def GatewayError.display : GatewayError → String
  | .auth error => "request authentication failed: " ++ error.display
  | .replayed => "request has already been processed (replayed nonce)"
  | .invalidBody => "invalid request body"
  | .identityMismatch => "announced record does not match the presenting membership"
  | .invalidRecord => "announced record failed signature verification"

def GatewayError.status : GatewayError → Nat
  | .auth .networkMismatch | .auth .identityMismatch | .auth .badSignature => 403
  | .auth _ | .replayed => 401
  | .invalidBody | .invalidRecord => 400
  | .identityMismatch => 403

inductive GatewayAnswer where
  | noContent
  | peers (records : Multiset PeerRecord)

section Host
variable (platform : GatewayPlatform) (config : GatewayConfig) (gateway : Gateway) (now : UInt64)

-- `nonces.retain(..)` followed by `nonces.insert(..)`.
def Gateway.spend (nonce : Bytes 16) : Gateway :=
  { gateway with
    nonces := (retain (fun _ expiry => decide (expiry > now)) gateway.nonces).insert nonce
      (now + config.nonceTtlSecs) }

def Gateway.blocks (nonce : Bytes 16) : Bool :=
  ((retain (fun _ expiry => decide (expiry > now)) gateway.nonces).lookup nonce).isSome

def Gateway.authenticate (auth : GatewayAuth) (body : List UInt8)
    (membership : MembershipCertificate) :
    Except GatewayError PublicKey × Gateway :=
  match verifyRequest platform.toCrypto auth body membership config.authority now
      config.authWindowSecs with
  | .error error => (.error (.auth error), gateway)
  | .ok key =>
    if gateway.blocks now auth.nonce then (.error .replayed, gateway.spend config now auth.nonce)
    else (.ok key, gateway.spend config now auth.nonce)

def Gateway.upsert (record : PeerRecord) (membership : MembershipCertificate) :
    Gateway :=
  if (gateway.members.lookup record.sisterId).any fun entry =>
      decide (entry.expiresAt > now) && decide (entry.record.sequence > record.sequence) then
    gateway
  else
    { gateway with
      members := gateway.members.insert record.sisterId
        ⟨record, membership.serial, now + config.recordTtlSecs⟩ }

def Gateway.liveRecords : Multiset PeerRecord :=
  (values (retain (fun _ entry => decide (entry.expiresAt > now)) gateway.members)).map
    DirectoryEntry.record

def announce (now later : UInt64) (body : List UInt8) (gateway : Gateway) :
    Except GatewayError GatewayAnswer × Gateway :=
  match platform.announceRequest body with
  | .error _ => (.error .invalidBody, gateway)
  | .ok request =>
    match gateway.authenticate platform config now request.auth
        (announceBodyBytes request.membership request.record) request.membership with
    | (.error error, gateway) => (.error error, gateway)
    | (.ok _, gateway) =>
      if !recordMatchesMembership request.record request.membership then
        (.error .identityMismatch, gateway)
      else if !request.record.verify platform.verifies then (.error .invalidRecord, gateway)
      else (.ok .noContent, gateway.upsert config later request.record request.membership)

def peers (now later : UInt64) (body : List UInt8) (gateway : Gateway) :
    Except GatewayError GatewayAnswer × Gateway :=
  match platform.peersRequest body with
  | .error _ => (.error .invalidBody, gateway)
  | .ok request =>
    match gateway.authenticate platform config now request.auth peersBodyBytes
        request.membership with
    | (.error error, gateway) => (.error error, gateway)
    | (.ok _, gateway) => (.ok (.peers (gateway.liveRecords later)), gateway)

def serve (call : Call) (now later : UInt64) (gateway : Gateway) :
    Except GatewayError GatewayAnswer × Gateway :=
  match call with
  | .announce body => announce platform config now later body gateway
  | .peers body => peers platform config now later body gateway

/-- Everything serving one request can do. -/
inductive Serving (gateway : Gateway) (call : Call) (now later : UInt64) :
    Except GatewayError GatewayAnswer → Gateway → Prop where
  | refused {error : GatewayError} (unspent : error = .invalidBody ∨ ∃ cause, error = .auth cause) :
      Serving gateway call now later (.error error) gateway
  | replayed {auth : GatewayAuth} {membership : MembershipCertificate} {body : List UInt8}
      (passed : Passed platform config.authority config.authWindowSecs call now auth membership body)
      (blocked : gateway.blocks now auth.nonce = true) :
      Serving gateway call now later (.error .replayed) (gateway.spend config now auth.nonce)
  | unmatched {auth : GatewayAuth} {membership : MembershipCertificate} {body : List UInt8}
      {error : GatewayError}
      (passed : Passed platform config.authority config.authWindowSecs call now auth membership body)
      (fresh : gateway.blocks now auth.nonce = false)
      (late : error = .identityMismatch ∨ error = .invalidRecord) :
      Serving gateway call now later (.error error) (gateway.spend config now auth.nonce)
  | listed {auth : GatewayAuth} {membership : MembershipCertificate} {body : List UInt8}
      (passed : Passed platform config.authority config.authWindowSecs call now auth membership body)
      (fresh : gateway.blocks now auth.nonce = false) :
      Serving gateway call now later (.ok (.peers (gateway.liveRecords later)))
        (gateway.spend config now auth.nonce)
  | announced {request : GatewayAnnounceRequest}
      (taken : call.announces platform = some request)
      (passed : Passed platform config.authority config.authWindowSecs call now request.auth request.membership
        (announceBodyBytes request.membership request.record))
      (fresh : gateway.blocks now request.auth.nonce = false)
      (matched : recordMatchesMembership request.record request.membership = true)
      (verified : request.record.verify platform.verifies = true) :
      Serving gateway call now later (.ok .noContent)
        ((gateway.spend config now request.auth.nonce).upsert config later request.record
          request.membership)
end Host

variable {config : GatewayConfig} {gateway : Gateway}

theorem authenticate_cases (auth : GatewayAuth) (body : List UInt8)
    (membership : MembershipCertificate) :
    (∃ cause, gateway.authenticate platform config now auth body membership =
      (.error (.auth cause), gateway)) ∨
    (∃ key, Authentic platform.toCrypto auth body membership config.authority now
        config.authWindowSecs ∧
      gateway.authenticate platform config now auth body membership =
        (if gateway.blocks now auth.nonce then .error .replayed else .ok key,
          gateway.spend config now auth.nonce)) := by
  unfold Gateway.authenticate
  cases verdict : verifyRequest platform.toCrypto auth body membership config.authority now
      config.authWindowSecs with
  | error cause => exact Or.inl ⟨cause, rfl⟩
  | ok key =>
    refine Or.inr ⟨key, verify_request_ok verdict, ?_⟩
    dsimp only
    split <;> rfl

theorem announce_serving (body : List UInt8) :
    Serving platform config gateway (.announce body) now later
      (announce platform config now later body gateway).1
      (announce platform config now later body gateway).2 := by
  unfold announce
  cases decoded : platform.announceRequest body with
  | error message => exact .refused (Or.inl rfl)
  | ok request =>
    have taken : (Call.announce body).announces platform = some request := by
      rw [Call.announces, decoded]
      rfl
    dsimp only
    rcases @authenticate_cases platform now config gateway request.auth
      (announceBodyBytes request.membership request.record) request.membership with
      ⟨cause, failed⟩ | ⟨key, authentic, outcome⟩
    · rw [failed]
      exact .refused (Or.inr ⟨cause, rfl⟩)
    · have passed : Passed platform config.authority config.authWindowSecs (.announce body) now request.auth
          request.membership (announceBodyBytes request.membership request.record) :=
        ⟨Or.inl ⟨request, taken, rfl, rfl, rfl⟩, authentic⟩
      rw [outcome]
      cases blocked : gateway.blocks now request.auth.nonce with
      | true => exact .replayed passed blocked
      | false =>
        cases matched : recordMatchesMembership request.record request.membership with
        | false => exact .unmatched passed blocked (Or.inl rfl)
        | true =>
          cases verified : request.record.verify platform.verifies with
          | false => exact .unmatched passed blocked (Or.inr rfl)
          | true => exact .announced taken passed blocked matched verified

theorem peers_serving (body : List UInt8) :
    Serving platform config gateway (.peers body) now later
      (peers platform config now later body gateway).1
      (peers platform config now later body gateway).2 := by
  unfold peers
  cases decoded : platform.peersRequest body with
  | error message => exact .refused (Or.inl rfl)
  | ok request =>
    have taken : (Call.peers body).queries platform = some request := by
      rw [Call.queries, decoded]
      rfl
    dsimp only
    rcases @authenticate_cases platform now config gateway request.auth peersBodyBytes
      request.membership with ⟨cause, failed⟩ | ⟨key, authentic, outcome⟩
    · rw [failed]
      exact .refused (Or.inr ⟨cause, rfl⟩)
    · have passed : Passed platform config.authority config.authWindowSecs (.peers body) now request.auth
          request.membership peersBodyBytes :=
        ⟨Or.inr ⟨request, taken, rfl, rfl, rfl⟩, authentic⟩
      rw [outcome]
      cases blocked : gateway.blocks now request.auth.nonce with
      | true => exact .replayed passed blocked
      | false => exact .listed passed blocked

theorem serving (call : Call) :
    Serving platform config gateway call now later (serve platform config call now later gateway).1
      (serve platform config call now later gateway).2 := by
  cases call with
  | announce body => exact announce_serving body
  | peers body => exact peers_serving body

section Stores

theorem blocks_iff {nonce : Bytes 16} :
    gateway.blocks now nonce = true ↔
      ∃ expiry, gateway.nonces.lookup nonce = some expiry ∧ now < expiry := by
  rw [Gateway.blocks, lookup_retain, Option.isSome_iff_exists]
  apply exists_congr
  intro expiry
  rw [Option.filter_eq_some_iff, decide_eq_true_eq]

theorem spend_own (nonce : Bytes 16) :
    (gateway.spend config now nonce).nonces.lookup nonce = some (now + config.nonceTtlSecs) :=
  Finmap.lookup_insert _

theorem blocks_spent (nonce : Bytes 16) :
    (gateway.spend config now nonce).blocks later nonce =
      decide (later < now + config.nonceTtlSecs) := by
  rw [Gateway.blocks, lookup_retain, spend_own, Option.filter_some]
  split
  · rename_i live
    exact live.symm
  · rename_i past
    exact (Bool.not_eq_true _ ▸ past : _ = false).symm

theorem blocks_other {nonce other : Bytes 16} (distinct : other ≠ nonce) :
    (gateway.spend config now nonce).blocks now other = gateway.blocks now other := by
  rw [Gateway.blocks, Gateway.blocks, lookup_retain, lookup_retain, Gateway.spend,
    Finmap.lookup_insert_of_ne _ distinct, lookup_retain]
  cases gateway.nonces.lookup other with
  | none => rfl
  | some expiry =>
    by_cases live : now < expiry
    · simp [live]
    · simp [live]

-- Spending one nonce only drops what has expired of the others.
theorem spend_keeps {nonce other : Bytes 16} {expiry : UInt64} (distinct : other ≠ nonce)
    (known : gateway.nonces.lookup other = some expiry) (live : now < expiry) :
    (gateway.spend config now nonce).nonces.lookup other = some expiry := by
  rw [Gateway.spend, Finmap.lookup_insert_of_ne _ distinct, lookup_retain, known,
    Option.filter_eq_some_iff]
  exact ⟨rfl, decide_eq_true live⟩

variable {record : PeerRecord} {membership : MembershipCertificate} {id : SisterId}
variable {entry : DirectoryEntry}

theorem upsert_entry
    (found : (gateway.upsert config later record membership).members.lookup id = some entry) :
    gateway.members.lookup id = some entry ∨ id = record.sisterId ∧ entry.record = record := by
  unfold Gateway.upsert at found
  split at found
  · exact Or.inl found
  · by_cases own : id = record.sisterId
    · subst own
      rw [Finmap.lookup_insert] at found
      cases found
      exact Or.inr ⟨rfl, rfl⟩
    · rw [Finmap.lookup_insert_of_ne _ own] at found
      exact Or.inl found

theorem upsert_sequence (known : gateway.members.lookup id = some entry)
    (live : later < entry.expiresAt) :
    ∃ newer, (gateway.upsert config later record membership).members.lookup id = some newer ∧
      entry.record.sequence ≤ newer.record.sequence := by
  unfold Gateway.upsert
  split
  · exact ⟨entry, known, UInt64.le_refl _⟩
  rename_i replaces
  by_cases own : id = record.sisterId
  · subst own
    refine ⟨_, Finmap.lookup_insert _, ?_⟩
    rw [known] at replaces
    -- The entry is live, so only its sequence can have let the announce through.
    simpa [live] using replaces
  · exact ⟨entry, by rw [Finmap.lookup_insert_of_ne _ own, known], UInt64.le_refl _⟩

@[simp]
theorem upsert_nonces :
    (gateway.upsert config later record membership).nonces = gateway.nonces := by
  unfold Gateway.upsert
  split <;> rfl
end Stores

structure Visit where
  call : Call
  now : UInt64
  later : UInt64
  answer : Except GatewayError GatewayAnswer

section Histories
variable (platform : GatewayPlatform) (config : GatewayConfig)

def visit (call : Call) (now later : UInt64) (gateway : Gateway) : Visit :=
  ⟨call, now, later, (serve platform config call now later gateway).1⟩

/-- The requests served so far, with their answers, and the state they left. -/
inductive History : List Visit → Gateway → Prop where
  | start : History [] Gateway.new
  | next {visits : List Visit} {gateway : Gateway} (history : History visits gateway)
      (call : Call) {now later : UInt64} (ordered : now ≤ later)
      (onward : ∀ visit ∈ visits, visit.later ≤ now) :
      History (visits ++ [visit platform config call now later gateway])
        (serve platform config call now later gateway).2

/-- Requests served while the entry of one Sister is live. -/
inductive Stretch (id : SisterId) (gateway : Gateway) : Gateway → Prop where
  | here : Stretch id gateway gateway
  | onward {current : Gateway} (stretch : Stretch id gateway current) (call : Call)
      {now later : UInt64} {entry : DirectoryEntry}
      (known : current.members.lookup id = some entry) (live : later < entry.expiresAt) :
      Stretch id gateway (serve platform config call now later current).2

/-- The announce that put a record into the directory, and who stands behind it. -/
structure Announced (signed : PublicKey → List UInt8 → Prop) (hashed : Set (List UInt8))
    (record : PeerRecord) (visit : Visit) (request : GatewayAnnounceRequest) : Prop where
  taken : visit.call.announces platform = some request
  accepted : visit.answer = .ok .noContent
  carries : request.record = record
  sister : record.sisterId = request.membership.sisterId
  key : record.sisterPublicKey = request.membership.sisterPublicKey
  member : request.membership.verify platform.verifies config.authority = true
  granted : signed config.authority.authorityPublicKey request.membership.signingBytes
  valid : request.membership.isValidAt visit.now = true
  behind : signed request.membership.sisterPublicKey request.auth.signingBytes
  exactly : ∀ membership other, RecordFits record → RecordFits other →
    announceBodyBytes membership other ∈ hashed →
    platform.sha256 (announceBodyBytes membership other) = request.auth.bodyDigest →
    membership = request.membership ∧ other = record

structure Vouched (signed : PublicKey → List UInt8 → Prop) (hashed : Set (List UInt8))
    (visits : List Visit) (id : SisterId) (record : PeerRecord) : Prop where
  keyed : record.sisterId = id
  verified : record.verify platform.verifies = true
  network : record.networkId = config.authority.networkId
  announced : ∃ visit ∈ visits, ∃ request,
    Announced platform config signed hashed record visit request

/-- Every announce body that was hashed is among the messages without a collision. -/
def Hashes (hashed : Set (List UInt8)) (visits : List Visit) : Prop :=
  ∀ visit ∈ visits, ∀ request, visit.call.announces platform = some request →
    announceBodyBytes request.membership request.record ∈ hashed
end Histories

section Directory
variable {visits : List Visit} {id : SisterId}

theorem Vouched.mono {record : PeerRecord}
    (vouched : Vouched platform config signed hashed visits id record) (visit : Visit) :
    Vouched platform config signed hashed (visits ++ [visit]) id record := by
  obtain ⟨keyed, verified, network, visit, member, request, announced⟩ := vouched
  exact ⟨keyed, verified, network, visit, List.mem_append_left _ member, request, announced⟩

theorem serving_announced {visit : Visit} {request : GatewayAnnounceRequest}
    (unforgeable : Unforgeable platform.verifies signed)
    (collisionFree : Set.InjOn platform.sha256 hashed)
    (known : announceBodyBytes request.membership request.record ∈ hashed)
    (taken : visit.call.announces platform = some request)
    (accepted : visit.answer = .ok .noContent)
    (authentic : Authentic platform.toCrypto request.auth
      (announceBodyBytes request.membership request.record) request.membership config.authority
      visit.now config.authWindowSecs)
    (matched : recordMatchesMembership request.record request.membership = true) :
    Announced platform config signed hashed request.record visit request := by
  obtain ⟨_, sister, key⟩ := record_matches matched
  constructor
  · exact taken
  · exact accepted
  · rfl
  · exact sister
  · exact key
  · exact authentic.member
  · have member := authentic.member
    simp only [MembershipCertificate.verify, Bool.and_eq_true] at member
    exact unforgeable _ _ _ member.2
  · exact authentic.open_
  · exact unforgeable _ _ _ authentic.signature
  · intro membership other fits fits' hashes digest
    rw [authentic.digest] at digest
    exact announce_body_injective fits' fits (collisionFree hashes known digest)

theorem history_vouched (unforgeable : Unforgeable platform.verifies signed)
    (collisionFree : Set.InjOn platform.sha256 hashed)
    (history : History platform config visits gateway) (hashes : Hashes platform hashed visits) :
    ∀ id entry, gateway.members.lookup id = some entry →
      Vouched platform config signed hashed visits id entry.record := by
  induction history with
  | start =>
    intro id entry found
    cases found
  | @next visits gateway history call now later ordered onward earlier =>
    have before : Hashes platform hashed visits :=
      fun visit member => hashes visit (List.mem_append_left _ member)
    have kept : ∀ id entry, gateway.members.lookup id = some entry →
        Vouched platform config signed hashed
          (visits ++ [visit platform config call now later gateway]) id entry.record :=
      fun id entry found => (earlier before id entry found).mono _
    have last : visit platform config call now later gateway ∈
        visits ++ [visit platform config call now later gateway] := by simp
    generalize latest : visit platform config call now later gateway = current at kept last hashes ⊢
    have served := @serving platform now later config gateway call
    have answered : current.answer = (serve platform config call now later gateway).1 := by
      rw [← latest, visit]
    have called : current.call = call := by rw [← latest, visit]
    have read : current.now = now := by rw [← latest, visit]
    generalize (serve platform config call now later gateway).1 = answer at served answered
    generalize (serve platform config call now later gateway).2 = after at served ⊢
    cases served with
    | refused | replayed | unmatched | listed => exact kept
    | @announced request taken passed fresh matched verified =>
      intro id entry found
      rcases upsert_entry found with old | ⟨own, stored⟩
      · exact kept id entry old
      · rw [own, stored]
        have network := (record_matches matched).1.trans (membership_network passed.authentic)
        rw [← called] at taken
        have authentic := passed.authentic
        rw [← read] at authentic
        exact ⟨rfl, verified, network, current, last, request,
          serving_announced unforgeable collisionFree (hashes current last request taken) taken
            answered authentic matched⟩

variable {entry : DirectoryEntry} {after : Gateway}

theorem serving_sequence {call : Call} {answer : Except GatewayError GatewayAnswer}
    (served : Serving platform config gateway call now later answer after)
    (known : gateway.members.lookup id = some entry) (live : later < entry.expiresAt) :
    ∃ newer, after.members.lookup id = some newer ∧
      entry.record.sequence ≤ newer.record.sequence := by
  cases served with
  | refused | replayed | unmatched | listed => exact ⟨entry, known, UInt64.le_refl _⟩
  | announced => exact upsert_sequence known live

theorem stretch_sequence {final : Gateway} (stretch : Stretch platform config id gateway final)
    (known : gateway.members.lookup id = some entry) :
    ∃ newer, final.members.lookup id = some newer ∧
      entry.record.sequence ≤ newer.record.sequence := by
  induction stretch with
  | here => exact ⟨entry, known, UInt64.le_refl _⟩
  | onward stretch call current live earlier =>
    obtain ⟨middle, found, ordered⟩ := earlier
    rw [current] at found
    cases found
    obtain ⟨newer, found, further⟩ := serving_sequence (serving call) current live
    exact ⟨newer, found, UInt64.le_trans ordered further⟩

theorem rejected_members {call : Call} {error : GatewayError}
    (served : Serving platform config gateway call now later (.error error) after) :
    after.members = gateway.members := by
  cases served with
  | refused | replayed | unmatched => rfl
end Directory

section Replays
variable (platform : GatewayPlatform)

/-- The answers that are given only after the auth was accepted and its nonce spent. -/
def authAccepted : Except GatewayError GatewayAnswer → Bool
  | .ok _ | .error .identityMismatch | .error .invalidRecord => true
  | .error _ => false

/-- The visit was accepted with what this auth signs. -/
def Visit.accepts (auth : GatewayAuth) (visit : Visit) : Bool :=
  authAccepted visit.answer && decide ((visit.call.auth platform).map GatewayAuth.unsigned =
    some auth.unsigned)

variable {platform} {visits : List Visit}
variable {call : Call} {answer : Except GatewayError GatewayAnswer}
variable {after : Gateway} (served : Serving platform config gateway call now later answer after)
include served

/-- An accepted request passed, its nonce was not blocked, and it is spent now. -/
theorem serving_accepted (accepted : authAccepted answer = true) :
    ∃ auth membership body, Passed platform config.authority config.authWindowSecs call now auth
      membership body ∧ gateway.blocks now auth.nonce = false := by
  cases served with
  | refused unspent =>
    rcases unspent with rfl | ⟨cause, rfl⟩ <;> cases accepted
  | replayed => cases accepted
  | unmatched passed fresh | listed passed fresh
  | announced taken passed fresh => exact ⟨_, _, _, passed, fresh⟩

/-- Serving a request leaves the nonces alone or spends the one of its auth; an
accepted one spends it. -/
theorem serving_nonces :
    (after.nonces = gateway.nonces ∧ authAccepted answer = false) ∨
    ∃ auth, call.auth platform = some auth ∧
      after.nonces = (gateway.spend config now auth.nonce).nonces := by
  cases served with
  | refused unspent =>
    apply Or.inl
    rcases unspent with rfl | ⟨cause, rfl⟩ <;> exact ⟨rfl, rfl⟩
  | replayed passed | unmatched passed | listed passed =>
    exact Or.inr ⟨_, passed_auth passed, rfl⟩
  | announced taken passed => exact Or.inr ⟨_, passed_auth passed, upsert_nonces⟩

omit served

/-- The nonce of every accepted visit is blocked until its lifetime is over. -/
def Remembered (platform : GatewayPlatform) (config : GatewayConfig) (visits : List Visit)
    (gateway : Gateway) : Prop :=
  ∀ visit ∈ visits, ∀ auth, visit.call.auth platform = some auth →
    authAccepted visit.answer = true → ∀ clock : UInt64, (∀ visit ∈ visits, visit.now ≤ clock) →
    visit.now.toNat + config.nonceTtlSecs.toNat ≤ clock.toNat ∨
      ∃ expiry, gateway.nonces.lookup auth.nonce = some expiry ∧
        visit.now.toNat + config.nonceTtlSecs.toNat ≤ expiry.toNat

def Unwrapped (config : GatewayConfig) (visits : List Visit) : Prop :=
  ∀ visit ∈ visits, visit.now.toNat + config.nonceTtlSecs.toNat < 2 ^ 64

theorem spend_remembers {first : UInt64} {nonce other : Bytes 16} {clock : UInt64}
    (unwrapped : now.toNat + config.nonceTtlSecs.toNat < 2 ^ 64) (reached : now ≤ clock)
    (earlier : first ≤ now)
    (remembered : first.toNat + config.nonceTtlSecs.toNat ≤ now.toNat ∨
      ∃ expiry, gateway.nonces.lookup other = some expiry ∧
        first.toNat + config.nonceTtlSecs.toNat ≤ expiry.toNat) :
    first.toNat + config.nonceTtlSecs.toNat ≤ clock.toNat ∨
      ∃ expiry, (gateway.spend config now nonce).nonces.lookup other = some expiry ∧
        first.toNat + config.nonceTtlSecs.toNat ≤ expiry.toNat := by
  rw [UInt64.le_iff_toNat_le] at reached earlier
  rcases remembered with past | ⟨expiry, known, covers⟩
  · exact Or.inl (by omega)
  by_cases own : other = nonce
  · subst own
    refine Or.inr ⟨_, spend_own other, ?_⟩
    rw [UInt64.toNat_add, Nat.mod_eq_of_lt unwrapped]
    omega
  · by_cases live : now < expiry
    · exact Or.inr ⟨expiry, spend_keeps own known live, covers⟩
    · rw [UInt64.lt_iff_toNat_lt] at live
      exact Or.inl (by omega)

variable (history : History platform config visits gateway)
include history

theorem history_ordered :
    ∀ visit ∈ visits, visit.now ≤ visit.later := by
  induction history with
  | start =>
    intro visit member
    cases member
  | next history call ordered onward earlier =>
    intro visit member
    rcases List.mem_append.mp member with old | new
    · exact earlier visit old
    · rw [List.mem_singleton.mp new]
      exact ordered

theorem history_remembers (unwrapped : Unwrapped config visits) :
    Remembered platform config visits gateway := by
  induction history with
  | start =>
    intro visit member
    cases member
  | @next visits gateway history call now later ordered onward earlier =>
    have before : Unwrapped config visits :=
      fun visit member => unwrapped visit (List.mem_append_left _ member)
    have fits : now.toNat + config.nonceTtlSecs.toNat < 2 ^ 64 :=
      unwrapped (visit platform config call now later gateway) (by simp)
    have past : ∀ visit ∈ visits, visit.now ≤ now := fun visit member =>
      UInt64.le_trans (history_ordered history visit member) (onward visit member)
    intro earlierVisit member auth presented accepted clock reached
    have now_reached : now ≤ clock :=
      reached (visit platform config call now later gateway) (by simp)
    rcases List.mem_append.mp member with old | new
    · have known := earlier before earlierVisit old auth presented accepted
      rcases serving_nonces (serving call) with ⟨same, _⟩ | ⟨spent, _, spends⟩
      · rw [same]
        exact known clock fun visit member => reached visit (List.mem_append_left _ member)
      · rw [spends]
        exact spend_remembers fits now_reached (past earlierVisit old) (known now past)
    · rw [List.mem_singleton.mp new] at presented accepted ⊢
      rcases serving_nonces (serving call) with ⟨_, unaccepted⟩ | ⟨spent, own, spends⟩
      · rw [visit, unaccepted] at accepted
        cases accepted
      · have same : auth = spent := Option.some.inj (presented.symm.trans own)
        apply Or.inr
        refine ⟨_, by rw [spends, same, spend_own], ?_⟩
        rw [UInt64.toNat_add, Nat.mod_eq_of_lt fits]
        exact Nat.le_refl _

theorem history_passed :
    ∀ visit ∈ visits, authAccepted visit.answer = true →
      ∃ auth membership body, Passed platform config.authority config.authWindowSecs visit.call visit.now auth membership body := by
  induction history with
  | start =>
    intro visit member
    cases member
  | next history call ordered onward earlier =>
    intro visit member accepted
    rcases List.mem_append.mp member with old | new
    · exact earlier visit old accepted
    · rw [List.mem_singleton.mp new] at accepted ⊢
      obtain ⟨auth, membership, body, passed, _⟩ := serving_accepted (serving call) accepted
      exact ⟨auth, membership, body, passed⟩

omit history

variable {auth : GatewayAuth}

theorem accepts_iff {visit : Visit} :
    visit.accepts platform auth = true ↔
      authAccepted visit.answer = true ∧
        ∃ presented, visit.call.auth platform = some presented ∧
          presented.unsigned = auth.unsigned := by
  rw [Visit.accepts, Bool.and_eq_true, decide_eq_true_eq, Option.map_eq_some_iff]

/-- What was signed once and accepted once is not accepted again: a second time in
both windows comes before the nonce is forgotten. -/
theorem accepted_blocks {first : Visit} {call : Call}
    (lifetime : 2 * config.authWindowSecs.toNat < config.nonceTtlSecs.toNat)
    (remembered : Remembered platform config visits gateway)
    (passes : ∀ visit ∈ visits, authAccepted visit.answer = true →
      ∃ auth membership body, Passed platform config.authority config.authWindowSecs visit.call visit.now auth membership body)
    (past : ∀ visit ∈ visits, visit.now ≤ now) (member : first ∈ visits)
    (accepted : first.accepts platform auth = true) :
    (visit platform config call now later gateway).accepts platform auth = false := by
  by_contra again
  rw [Bool.not_eq_false] at again
  obtain ⟨acceptedFirst, presented, carries, signs⟩ := accepts_iff.mp accepted
  obtain ⟨acceptedAgain, repeated, carriesAgain, signsAgain⟩ := accepts_iff.mp again
  obtain ⟨auth₁, _, _, passed⟩ := passes first member acceptedFirst
  obtain ⟨auth₂, _, _, passedAgain, fresh⟩ := serving_accepted (serving call) acceptedAgain
  have own : auth₁ = presented := Option.some.inj ((passed_auth passed).symm.trans carries)
  have ownAgain : auth₂ = repeated :=
    Option.some.inj ((passed_auth passedAgain).symm.trans carriesAgain)
  subst own ownAgain
  have same : auth₁.unsigned = auth₂.unsigned := signs.trans signsAgain.symm
  obtain ⟨timestamps, nonces, _⟩ := unsigned_fields same
  have before := passed.authentic.fresh
  rw [timestamps] at before
  have near := fresh_twice before passedAgain.authentic.fresh
  rcases remembered first member auth₁ carries acceptedFirst now past with
    past | ⟨expiry, known, covers⟩
  · omega
  · have live : now < expiry := by
      rw [UInt64.lt_iff_toNat_lt]
      omega
    rw [nonces] at known
    rw [blocks_iff.mpr ⟨expiry, known, live⟩] at fresh
    cases fresh

theorem history_accepts_once
    (lifetime : 2 * config.authWindowSecs.toNat < config.nonceTtlSecs.toNat)
    (history : History platform config visits gateway) (unwrapped : Unwrapped config visits)
    (auth : GatewayAuth) : (visits.filter (Visit.accepts platform auth)).length ≤ 1 := by
  induction history with
  | start => exact Nat.zero_le 1
  | @next visits gateway history call now later ordered onward earlier =>
    have before : Unwrapped config visits :=
      fun visit member => unwrapped visit (List.mem_append_left _ member)
    have past : ∀ visit ∈ visits, visit.now ≤ now := fun visit member =>
      UInt64.le_trans (history_ordered history visit member) (onward visit member)
    rw [List.filter_append, List.length_append]
    by_cases accepted : ∃ first ∈ visits, first.accepts platform auth = true
    · obtain ⟨first, member, accepted⟩ := accepted
      have blocked := @accepted_blocks now later config gateway platform visits auth first call
        lifetime (history_remembers history before) (history_passed history) past member accepted
      rw [List.filter_singleton, blocked]
      exact earlier before
    · have none_yet : visits.filter (Visit.accepts platform auth) = [] := by
        rw [List.filter_eq_nil_iff]
        intro visit member accepts
        exact accepted ⟨visit, member, accepts⟩
      rw [none_yet]
      exact Nat.le_trans (Nat.le_of_eq (Nat.zero_add _)) (List.length_filter_le _ _)

end Replays

section Results
variable {visits : List Visit}

/-- A host that one Sister announces itself to and then queries. -/
def sampleHost : GatewayPlatform :=
  samplePlatform [memberAnnounce 1000 1 (memberRecord 3 900)] [memberQuery 1000 2]

theorem sample_announced (config : GatewayConfig) :
    History sampleHost config
      [visit sampleHost config (.announce [0]) 1000 1000 Gateway.new]
      (serve sampleHost config (.announce [0]) 1000 1000 Gateway.new).2 := by
  have unused : History sampleHost config [] Gateway.new := .start
  apply unused.next
  · decide
  · intro visit member
    cases member

variable {announces : List GatewayAnnounceRequest} {queries : List GatewayPeersRequest}
variable {body : List UInt8} {timestamp : UInt64} {nonce : UInt8}

theorem member_announce_served {sequence updatedAt : UInt64} (carried : numbered announces body =
      .ok (memberAnnounce timestamp nonce (memberRecord sequence updatedAt)))
    (authority : config.authority = servedAuthority)
    (fresh : timestampDelta now timestamp ≤ config.authWindowSecs.toNat)
    (unspent : gateway.blocks now (Bytes.fill 16 nonce) = false) :
    serve (samplePlatform announces queries) config (.announce body) now later gateway =
      (.ok .noContent, (gateway.spend config now (Bytes.fill 16 nonce)).upsert config later
        (memberRecord sequence updatedAt) memberCertificate) := by
  have decoded : (samplePlatform announces queries).announceRequest body =
      .ok (memberAnnounce timestamp nonce (memberRecord sequence updatedAt)) := carried
  have verified := @member_verified announces queries now timestamp config.authWindowSecs nonce
    (announceBodyBytes memberCertificate (memberRecord sequence updatedAt)) fresh
  have matched := member_record_matches sequence updatedAt
  have valid := @member_record_verifies announces queries sequence updatedAt
  rw [serve, announce, decoded]
  simp only [memberAnnounce, Gateway.authenticate, authority, verified]
  simp only [memberAuth, unspent, matched, valid, Bool.not_true, Bool.false_eq_true, if_false]

theorem member_query_served (carried : numbered queries body = .ok (memberQuery timestamp nonce))
    (authority : config.authority = servedAuthority)
    (fresh : timestampDelta now timestamp ≤ config.authWindowSecs.toNat) :
    serve (samplePlatform announces queries) config (.peers body) now later gateway =
      (if gateway.blocks now (Bytes.fill 16 nonce) then .error .replayed
        else .ok (.peers (gateway.liveRecords later)),
        gateway.spend config now (Bytes.fill 16 nonce)) := by
  have decoded : (samplePlatform announces queries).peersRequest body =
      .ok (memberQuery timestamp nonce) := carried
  have verified := @member_verified announces queries now timestamp config.authWindowSecs nonce
    peersBodyBytes fresh
  rw [serve, peers, decoded]
  simp only [memberQuery, Gateway.authenticate, authority, verified]
  simp only [memberAuth]
  by_cases blocked : gateway.blocks now (Bytes.fill 16 nonce) = true
  · simp only [blocked, if_true]
  · simp only [blocked, Bool.false_eq_true, if_false]
    rfl

theorem directory_vouched (unforgeable : Unforgeable platform.verifies signed)
    (collisionFree : Set.InjOn platform.sha256 hashed)
    (history : History platform config visits gateway) (hashes : Hashes platform hashed visits) :
    (∀ id entry, gateway.members.lookup id = some entry →
      Vouched platform config signed hashed visits id entry.record) ∧
    (∀ id final entry, Stretch platform config id gateway final →
      gateway.members.lookup id = some entry →
      ∃ newer, final.members.lookup id = some newer ∧
        entry.record.sequence ≤ newer.record.sequence) ∧
    (∀ call now later error, (serve platform config call now later gateway).1 = .error error →
      (serve platform config call now later gateway).2.members = gateway.members) := by
  constructor
  · exact history_vouched unforgeable collisionFree history hashes
  constructor
  · intro id final entry stretch known
    exact stretch_sequence stretch known
  · intro call now later error rejected
    exact rejected_members (rejected ▸ serving call)

/-- One Sister announces itself: the directory holds exactly what it signed. -/
theorem announced_member_vouched :
    ∃ visits gateway entry, History sampleHost (GatewayConfig.new servedAuthority) visits gateway ∧
      gateway.members.lookup 2 = some entry ∧
      Vouched sampleHost (GatewayConfig.new servedAuthority) signs
        {announceBodyBytes memberCertificate (memberRecord 3 900)} visits 2 entry.record := by
  have history := sample_announced (GatewayConfig.new servedAuthority)
  have collisionFree : Set.InjOn sampleHost.sha256
      {announceBodyBytes memberCertificate (memberRecord 3 900)} := Set.injOn_singleton _ _
  have stored : (serve sampleHost (GatewayConfig.new servedAuthority) (.announce [0]) 1000 1000
      Gateway.new).2.members.lookup 2 = some ⟨memberRecord 3 900, 1, 1600⟩ := by
    rw [sampleHost, member_announce_served rfl rfl (by decide) rfl]
    exact Finmap.lookup_insert _
  refine ⟨_, _, _, history, stored, ?_⟩
  refine (directory_vouched sample_unforgeable collisionFree history ?_).1 2 _ stored
  intro visit member request taken
  rw [List.mem_singleton.mp member] at taken
  cases taken
  exact Set.mem_singleton _

theorem auths_accepted_once {hashed : Set (List UInt8)}
    (collisionFree : Set.InjOn platform.sha256 hashed) (tag : peersBodyBytes ∈ hashed)
    (lifetime : 2 * config.authWindowSecs.toNat < config.nonceTtlSecs.toNat)
    (history : History platform config visits gateway) (hashes : Hashes platform hashed visits)
    (unwrapped : Unwrapped config visits) :
    (∀ auth, (visits.filter (Visit.accepts platform auth)).length ≤ 1) ∧
    ∀ visit ∈ visits, ∀ auth, visit.accepts platform auth = true →
      (∀ request, visit.call.announces platform = some request →
        auth.bodyDigest ≠ platform.sha256 peersBodyBytes) ∧
      (∀ request, visit.call.queries platform = some request →
        ∀ membership record, announceBodyBytes membership record ∈ hashed →
          auth.bodyDigest ≠ platform.sha256 (announceBodyBytes membership record)) := by
  constructor
  · exact history_accepts_once lifetime history unwrapped
  intro visit member auth accepts
  obtain ⟨accepted, presented, carries, signs⟩ := accepts_iff.mp accepts
  obtain ⟨own, membership, body, passed⟩ := history_passed history visit member accepted
  have same : own = presented := Option.some.inj ((passed_auth passed).symm.trans carries)
  have digest : auth.bodyDigest = platform.sha256 body := by
    rw [← (unsigned_fields signs).2.2, ← same]
    exact passed.authentic.digest
  constructor
  · intro request taken crossed
    rcases passed.carried with ⟨announced, taken', _, rfl, rfl⟩ | ⟨query, queried, _, _, _⟩
    · rw [digest] at crossed
      exact announce_body_ne_peers _ _
        (collisionFree (hashes visit member announced taken') tag crossed)
    · exact one_route taken queried
  · intro request queried membership' record known crossed
    rcases passed.carried with ⟨announced, taken, _, _, _⟩ | ⟨query, _, _, _, rfl⟩
    · exact one_route taken queried
    · rw [digest] at crossed
      exact announce_body_ne_peers _ _ (collisionFree known tag crossed.symm)

theorem sample_query_visit (authority : config.authority = servedAuthority)
    (fresh : timestampDelta now 1000 ≤ config.authWindowSecs.toNat) :
    authAccepted (visit sampleHost config (.peers [0]) now later gateway).answer =
      !gateway.blocks now (Bytes.fill 16 2) := by
  rw [visit, sampleHost, member_query_served rfl authority fresh]
  by_cases blocked : gateway.blocks now (Bytes.fill 16 2) = true
  · simp only [blocked, if_true]
    rfl
  · simp only [blocked, Bool.false_eq_true, if_false, authAccepted]
    rfl

theorem sample_digests_differ :
    Sha256.sha256 (announceBodyBytes memberCertificate (memberRecord 3 900)) ≠
      Sha256.sha256 peersBodyBytes := by
  decide +kernel

/-- The member queries the directory and the query is captured: of the two only one
is accepted, and neither it nor the announce passes on the other route. -/
theorem captured_query_accepted_once :
    ∃ visits gateway, History sampleHost (GatewayConfig.new servedAuthority) visits gateway ∧
      visits.map (fun visit => visit.call) = [.announce [0], .peers [0], .peers [0]] ∧
      visits.map (fun visit => authAccepted visit.answer) = [true, true, false] ∧
      (visits.filter (Visit.accepts sampleHost (memberQuery 1000 2).auth)).length ≤ 1 := by
  have history := (((sample_announced (GatewayConfig.new servedAuthority)).next (.peers [0])
    (by decide : (1001 : UInt64) ≤ 1001) (by decide)).next (.peers [0])
    (by decide : (1002 : UInt64) ≤ 1002) (by decide))
  have collisionFree : Set.InjOn sampleHost.sha256
      {announceBodyBytes memberCertificate (memberRecord 3 900), peersBodyBytes} := by
    rintro left (rfl | rfl) right (rfl | rfl) same
    · rfl
    · exact absurd same sample_digests_differ
    · exact absurd same.symm sample_digests_differ
    · rfl
  refine ⟨_, _, history, rfl, ?_, ?_⟩
  · have announced : serve sampleHost (GatewayConfig.new servedAuthority) (.announce [0]) 1000 1000
        Gateway.new = _ := member_announce_served rfl rfl (by decide) rfl
    have queried : ∀ gateway, serve sampleHost (GatewayConfig.new servedAuthority) (.peers [0]) 1001
        1001 gateway = _ := fun gateway => member_query_served rfl rfl (by decide)
    simp only [List.map_append, List.map_cons, List.map_nil]
    rw [sample_query_visit rfl (by decide), sample_query_visit rfl (by decide), visit, queried,
      announced, blocks_spent]
    decide
  · refine (auths_accepted_once collisionFree (Or.inr rfl) (by decide) history ?_ ?_).1 _
    · intro visit member request taken
      simp only [List.cons_append, List.nil_append, List.mem_cons, List.not_mem_nil, or_false]
        at member
      rcases member with rfl | rfl | rfl
      · cases taken
        exact Or.inl rfl
      · cases taken
      · cases taken
    · unfold Unwrapped
      decide

/-- A nonce lifetime of all the seconds there are ends in the past at once: the
captured query is accepted again. -/
theorem endless_lifetime_forgets :
    ∃ config visits gateway, 2 * config.authWindowSecs.toNat < config.nonceTtlSecs.toNat ∧
      History sampleHost config visits gateway ∧
      (visits.filter (Visit.accepts sampleHost (memberQuery 1000 2).auth)).length = 2 := by
  let config : GatewayConfig :=
    { GatewayConfig.new servedAuthority with nonceTtlSecs := 18446744073709551615 }
  have unused : History sampleHost config [] Gateway.new := .start
  have history := (unused.next (.peers [0]) (by decide : (1000 : UInt64) ≤ 1000) (by decide)).next
    (.peers [0]) (by decide : (1000 : UInt64) ≤ 1000) (by decide)
  have first : (visit sampleHost config (.peers [0]) 1000 1000 Gateway.new).accepts sampleHost
      (memberQuery 1000 2).auth = true := by
    apply accepts_iff.mpr
    rw [sample_query_visit rfl (by decide)]
    exact ⟨rfl, _, rfl, rfl⟩
  have again : (visit sampleHost config (.peers [0]) 1000 1000
      (serve sampleHost config (.peers [0]) 1000 1000 Gateway.new).2).accepts sampleHost
        (memberQuery 1000 2).auth = true := by
    apply accepts_iff.mpr
    rw [sample_query_visit rfl (by decide), sampleHost, member_query_served rfl rfl (by decide),
      blocks_spent]
    exact ⟨by decide, _, rfl, rfl⟩
  refine ⟨config, _, _, by decide, history, ?_⟩
  rw [List.nil_append, List.singleton_append, List.filter_cons_of_pos first,
    List.filter_cons_of_pos again]
  rfl
end Results
end Misaka.NativeGateway
