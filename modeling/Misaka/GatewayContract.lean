import Misaka.Sha256
import Misaka.SigningSeparation

/-!
What a Gateway request carries and how it is verified before any state is
looked at. Both hosts of the Gateway share this part. A request is bound to its
body by a digest: an announce signs the digest of the membership and the record
it carries, a query of the directory the digest of a fixed tag.
-/

namespace Misaka.GatewayContract
open Bincode Identity Protocol UniqueDecoding SigningSeparation

structure GatewayAnnounceRequest where
  auth : GatewayAuth
  membership : MembershipCertificate
  record : PeerRecord
deriving DecidableEq

structure GatewayPeersRequest where
  auth : GatewayAuth
  membership : MembershipCertificate
deriving DecidableEq

def PEERS_DOMAIN : List UInt8 := utf8 "misaka-gateway/peers/v1"

def announceBodyBytes (membership : MembershipCertificate) (record : PeerRecord) : List UInt8 :=
  membership.encode ++ encodeRecord record

def peersBodyBytes : List UInt8 := PEERS_DOMAIN

inductive GatewayAuthError where
  | networkMismatch | bodyDigestMismatch | staleTimestamp | invalidMembership | expiredMembership
  | identityMismatch | badSignature
deriving DecidableEq

def GatewayAuthError.display : GatewayAuthError → String
  | .networkMismatch => "auth is for a different Network"
  | .bodyDigestMismatch => "request body does not match the signed body digest"
  | .staleTimestamp => "request timestamp is outside the allowed window"
  | .invalidMembership => "membership certificate is not valid for this Network Authority"
  | .expiredMembership => "membership certificate is outside its validity window"
  | .identityMismatch => "auth Sister identity does not match the membership certificate"
  | .badSignature => "auth signature does not verify against the membership key"

/-- Ed25519 and SHA-256 as the Gateway calls them. -/
structure Crypto where
  verifies : SignatureCheck
  sha256 : List UInt8 → Bytes 32

section Verification
variable (crypto : Crypto)

-- Both subtractions saturate, so the larger one is the distance.
def timestampDelta (now timestamp : UInt64) : Nat :=
  max (now.toNat - timestamp.toNat) (timestamp.toNat - now.toNat)

def verifyRequest (auth : GatewayAuth) (body : List UInt8) (membership : MembershipCertificate)
    (authority : NetworkAuthority) (now window : UInt64) : Except GatewayAuthError PublicKey :=
  if auth.networkId ≠ authority.networkId ∨ membership.networkId ≠ authority.networkId then
    .error .networkMismatch
  else if auth.bodyDigest ≠ crypto.sha256 body then .error .bodyDigestMismatch
  else if timestampDelta now auth.timestamp > window.toNat then .error .staleTimestamp
  else if !membership.verify crypto.verifies authority then .error .invalidMembership
  else if !membership.isValidAt now then .error .expiredMembership
  else if auth.sisterId ≠ membership.sisterId then .error .identityMismatch
  else if !crypto.verifies membership.sisterPublicKey auth.signingBytes auth.signature then
    .error .badSignature
  else .ok membership.sisterPublicKey

def recordMatchesMembership (record : PeerRecord) (membership : MembershipCertificate) : Bool :=
  record.networkId == membership.networkId && record.sisterId == membership.sisterId &&
    record.sisterPublicKey == membership.sisterPublicKey

/-- What a request that passed was checked for. -/
structure Authentic (auth : GatewayAuth) (body : List UInt8) (membership : MembershipCertificate)
    (authority : NetworkAuthority) (now window : UInt64) : Prop where
  network : auth.networkId = authority.networkId
  digest : auth.bodyDigest = crypto.sha256 body
  fresh : timestampDelta now auth.timestamp ≤ window.toNat
  member : membership.verify crypto.verifies authority = true
  open_ : membership.isValidAt now = true
  sister : auth.sisterId = membership.sisterId
  signature : crypto.verifies membership.sisterPublicKey auth.signingBytes auth.signature = true

variable {crypto} {auth : GatewayAuth} {body : List UInt8} {membership : MembershipCertificate}
variable {authority : NetworkAuthority} {now window : UInt64} {key : PublicKey}

theorem verify_request_ok
    (passed : verifyRequest crypto auth body membership authority now window = .ok key) :
    Authentic crypto auth body membership authority now window := by
  unfold verifyRequest at passed
  split at passed
  · cases passed
  rename_i networks
  split at passed
  · cases passed
  rename_i digest
  split at passed
  · cases passed
  rename_i fresh
  split at passed
  · cases passed
  rename_i member
  split at passed
  · cases passed
  rename_i valid
  split at passed
  · cases passed
  rename_i sister
  split at passed
  · cases passed
  rename_i signature
  simp only [not_or, Decidable.not_not] at networks
  constructor
  · exact networks.1
  · exact Decidable.not_not.mp digest
  · exact Nat.not_lt.mp fresh
  · simpa using member
  · simpa using valid
  · exact Decidable.not_not.mp sister
  · simpa using signature

variable (authentic : Authentic crypto auth body membership authority now window)
include authentic

theorem membership_network :
    membership.networkId = authority.networkId := by
  have member := authentic.member
  simp only [MembershipCertificate.verify, Bool.and_eq_true, beq_iff_eq] at member
  exact member.1

theorem authentic_verifies :
    verifyRequest crypto auth body membership authority now window =
      .ok membership.sisterPublicKey := by
  have network := membership_network authentic
  have fresh : ¬ timestampDelta now auth.timestamp > window.toNat := Nat.not_lt.mpr authentic.fresh
  unfold verifyRequest
  rw [if_neg (not_or.mpr ⟨not_not.mpr authentic.network, not_not.mpr network⟩),
    if_neg (not_not.mpr authentic.digest), if_neg fresh]
  simp only [authentic.member, authentic.open_, authentic.sister, authentic.signature, ne_eq,
    not_true_eq_false, Bool.not_true, Bool.false_eq_true, if_false]

omit authentic

theorem record_matches {record : PeerRecord}
    (matches_ : recordMatchesMembership record membership = true) :
    record.networkId = membership.networkId ∧ record.sisterId = membership.sisterId ∧
      record.sisterPublicKey = membership.sisterPublicKey := by
  simp only [recordMatchesMembership, Bool.and_eq_true, beq_iff_eq] at matches_
  exact ⟨matches_.1.1, matches_.1.2, matches_.2⟩

-- A window on each side of the timestamp: two readings of one request are two windows apart.
theorem fresh_twice {timestamp first second : UInt64}
    (before : timestampDelta first timestamp ≤ window.toNat)
    (after : timestampDelta second timestamp ≤ window.toNat) :
    second.toNat ≤ first.toNat + 2 * window.toNat := by
  unfold timestampDelta at before after
  omega
end Verification

theorem announce_body_injective {left right : MembershipCertificate} {record other : PeerRecord}
    (fits : RecordFits record) (fits' : RecordFits other)
    (same : announceBodyBytes left record = announceBodyBytes right other) :
    left = right ∧ record = other := by
  obtain ⟨members, rest⟩ := delimited membership_delimits same
  exact ⟨members, delimits_injective record_delimits fits fits' rest⟩

-- The tag of the other route is shorter than any membership.
theorem announce_body_ne_peers (membership : MembershipCertificate) (record : PeerRecord) :
    announceBodyBytes membership record ≠ peersBodyBytes := by
  intro same
  have lengths := congrArg List.length same
  have tag : peersBodyBytes.length = 23 := by decide
  rw [announceBodyBytes, List.length_append, membership_encode_length, tag] at lengths
  split at lengths <;> omega

structure GatewayPlatform extends Crypto where
  announceRequest : List UInt8 → Except String GatewayAnnounceRequest
  peersRequest : List UInt8 → Except String GatewayPeersRequest

inductive Call where
  | announce (body : List UInt8)
  | peers (body : List UInt8)

section Calls
variable (platform : GatewayPlatform)

/-! What a call is taken for. -/
def Call.announces : Call → Option GatewayAnnounceRequest
  | .announce body => (platform.announceRequest body).toOption
  | .peers _ => none

def Call.queries : Call → Option GatewayPeersRequest
  | .announce _ => none
  | .peers body => (platform.peersRequest body).toOption

def Call.auth (call : Call) : Option GatewayAuth :=
  match call with
  | .announce _ => (call.announces platform).map GatewayAnnounceRequest.auth
  | .peers _ => (call.queries platform).map GatewayPeersRequest.auth

/-- The request carries this auth and passed with it, up to the point where its
nonce is looked at. -/
structure Passed (authority : NetworkAuthority) (window : UInt64) (call : Call) (now : UInt64)
    (auth : GatewayAuth) (membership : MembershipCertificate) (body : List UInt8) : Prop where
  carried : (∃ request, call.announces platform = some request ∧ request.auth = auth ∧
      request.membership = membership ∧ body = announceBodyBytes membership request.record) ∨
    (∃ request, call.queries platform = some request ∧ request.auth = auth ∧
      request.membership = membership ∧ body = peersBodyBytes)
  authentic : Authentic platform.toCrypto auth body membership authority now window

variable {platform} {call : Call} {request : GatewayAnnounceRequest} {query : GatewayPeersRequest}

theorem one_route (taken : call.announces platform = some request) :
    call.queries platform ≠ some query := by
  intro queried
  cases call with
  | announce body => cases queried
  | peers body => cases taken

theorem announces_auth (taken : call.announces platform = some request) :
    call.auth platform = some request.auth := by
  cases call with
  | announce body =>
    rw [Call.auth, taken]
    rfl
  | peers body => cases taken

theorem queries_auth (queried : call.queries platform = some query) :
    call.auth platform = some query.auth := by
  cases call with
  | announce body => cases queried
  | peers body =>
    rw [Call.auth, queried]
    rfl

theorem passed_auth {authority : NetworkAuthority} {window now : UInt64} {auth : GatewayAuth}
    {membership : MembershipCertificate} {body : List UInt8}
    (passed : Passed platform authority window call now auth membership body) :
    call.auth platform = some auth := by
  rcases passed.carried with ⟨request, taken, rfl, _, _⟩ | ⟨request, queried, rfl, _, _⟩
  · exact announces_auth taken
  · exact queries_auth queried
end Calls

theorem unsigned_fields {left right : GatewayAuth} (same : left.unsigned = right.unsigned) :
    left.timestamp = right.timestamp ∧ left.nonce = right.nonce ∧
      left.bodyDigest = right.bodyDigest := by
  simp only [GatewayAuth.unsigned, GatewayAuth.mk.injEq] at same
  exact ⟨same.2.2.1, same.2.2.2.1, same.2.2.2.2.1⟩

/-! The lifetimes both hosts start from. -/
def DEFAULT_RECORD_TTL_SECS : UInt64 := 600

def DEFAULT_AUTH_WINDOW_SECS : UInt64 := 300

def DEFAULT_NONCE_TTL_SECS : UInt64 := 900

/-! One Network with one member. The Sister signs anything in its own name, the
authority only the membership; the bodies of the requests are numbered. -/
section Sample

def servedAuthority : NetworkAuthority := ⟨⟨Bytes.fill 16 1⟩, Bytes.fill 32 2⟩

def memberKey : PublicKey := Bytes.fill 32 5

def memberCertificate : MembershipCertificate :=
  ⟨servedAuthority.networkId, memberKey, 2, 0, none, 1, Bytes.fill 64 3⟩

def memberRecord (sequence updatedAt : UInt64) : PeerRecord :=
  ⟨servedAuthority.networkId, 2, memberKey, "iroh-2",
    ⟨servedAuthority.networkId, 2, memberKey, Bytes.fill 32 7, sequence, Bytes.fill 64 6⟩,
    sequence, updatedAt, Bytes.fill 64 6⟩

def signs (key : PublicKey) (message : List UInt8) : Prop :=
  key = memberKey ∨ (key, message) =
    (servedAuthority.authorityPublicKey, memberCertificate.signingBytes)

instance (key : PublicKey) (message : List UInt8) : Decidable (signs key message) :=
  inferInstanceAs (Decidable (_ ∨ _))

def numbered {Value : Type} (values : List Value) : List UInt8 → Except String Value
  | [number] =>
    match values[number.toNat]? with
    | some value => .ok value
    | none => .error "expected value"
  | _ => .error "expected value"

def samplePlatform (announces : List GatewayAnnounceRequest) (queries : List GatewayPeersRequest) :
    GatewayPlatform where
  verifies key message _ := decide (signs key message)
  sha256 := Sha256.sha256
  announceRequest := numbered announces
  peersRequest := numbered queries

variable (timestamp : UInt64) (nonce : UInt8)

def memberAuth (body : List UInt8) : GatewayAuth :=
  ⟨servedAuthority.networkId, 2, timestamp, Bytes.fill 16 nonce, Sha256.sha256 body,
    Bytes.fill 64 6⟩

def memberAnnounce (record : PeerRecord) :
    GatewayAnnounceRequest :=
  ⟨memberAuth timestamp nonce (announceBodyBytes memberCertificate record), memberCertificate,
    record⟩

def memberQuery : GatewayPeersRequest :=
  ⟨memberAuth timestamp nonce peersBodyBytes, memberCertificate⟩

variable {announces : List GatewayAnnounceRequest} {queries : List GatewayPeersRequest}

theorem sample_unforgeable : Unforgeable (samplePlatform announces queries).verifies signs :=
  fun _ _ _ verified => of_decide_eq_true verified

theorem member_signs (message : List UInt8) (signature : Signature) :
    (samplePlatform announces queries).verifies memberKey message signature = true := by
  have own : signs memberKey message := Or.inl rfl
  exact decide_eq_true own

theorem member_verified {now timestamp window : UInt64} (nonce : UInt8) (body : List UInt8)
    (fresh : timestampDelta now timestamp ≤ window.toNat) :
    verifyRequest (samplePlatform announces queries).toCrypto (memberAuth timestamp nonce body) body
      memberCertificate servedAuthority now window = .ok memberKey := by
  have certified : memberCertificate.verify (samplePlatform announces queries).verifies
      servedAuthority = true := by
    simp only [MembershipCertificate.verify, Bool.and_eq_true, beq_iff_eq]
    have granted : signs servedAuthority.authorityPublicKey memberCertificate.signingBytes :=
      Or.inr rfl
    exact ⟨rfl, decide_eq_true granted⟩
  have valid : memberCertificate.isValidAt now = true := by
    simp [MembershipCertificate.isValidAt, memberCertificate]
  exact authentic_verifies ⟨rfl, rfl, fresh, certified, valid, rfl, member_signs _ _⟩

theorem member_record_matches (sequence updatedAt : UInt64) :
    recordMatchesMembership (memberRecord sequence updatedAt) memberCertificate = true := by
  simp [recordMatchesMembership, memberRecord, memberCertificate]

theorem member_record_verifies (sequence updatedAt : UInt64) :
    (memberRecord sequence updatedAt).verify (samplePlatform announces queries).verifies = true := by
  simp only [PeerRecord.verify, TransportBinding.verify, Bool.and_eq_true, beq_iff_eq]
  exact ⟨⟨⟨⟨⟨rfl, rfl⟩, rfl⟩, rfl⟩, member_signs _ _⟩, member_signs _ _⟩
end Sample
end Misaka.GatewayContract
