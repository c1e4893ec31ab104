import Misaka.GatewayContract

/-!
Gateway requests as a member builds them, and as somebody else may change them on
the way. Whoever changes a request holds no key: what the changed request shows
as signed is the member's own auth, or nobody has signed it.
-/

namespace Misaka.GatewayRequests
open Bincode Identity Protocol SigningSeparation GatewayContract

section Signing
variable {platform : GatewayPlatform} (key : SisterKeyPair platform.verifies)
variable (networkId : NetworkId) (sisterId : SisterId) (timestamp : UInt64) (nonce : Bytes 16)

def sign (body : List UInt8) : GatewayAuth :=
  let auth : GatewayAuth :=
    ⟨networkId, sisterId, timestamp, nonce, platform.sha256 body, Bytes.fill 64 0⟩
  { auth with signature := key.sign auth.signingBytes }

def signAnnounce (membership : MembershipCertificate) (record : PeerRecord) : GatewayAuth :=
  sign key networkId sisterId timestamp nonce (announceBodyBytes membership record)

def signPeers : GatewayAuth := sign key networkId sisterId timestamp nonce peersBodyBytes
end Signing

section Requests
variable (platform : GatewayPlatform) (authority : NetworkAuthority) (now window : UInt64)

abbrev Accepted (auth : GatewayAuth) (body : List UInt8) (membership : MembershipCertificate) :
    Prop :=
  ∃ key, verifyRequest platform.toCrypto auth body membership authority now window = .ok key

def AnnounceAccepted (request : GatewayAnnounceRequest) : Prop :=
  Accepted platform authority now window request.auth
    (announceBodyBytes request.membership request.record) request.membership

def QueryAccepted (request : GatewayPeersRequest) : Prop :=
  Accepted platform authority now window request.auth peersBodyBytes request.membership

/-- The authority has signed the certificate for its Network, and it is valid now. -/
def Grants (certificate : MembershipCertificate) : Prop :=
  certificate.verify platform.verifies authority = true ∧ certificate.isValidAt now = true

def Within (timestamp : UInt64) : Prop :=
  now.toNat ≤ timestamp.toNat + window.toNat ∧ timestamp.toNat ≤ now.toNat + window.toNat

structure SameSister (left right : MembershipCertificate) : Prop where
  network : left.networkId = right.networkId
  sister : left.sisterId = right.sisterId
  key : left.sisterPublicKey = right.sisterPublicKey

/-- A holder of the key that the changed request names has signed its auth only if
that is the member's auth, under the member's key. -/
def Keyless (signed : PublicKey → List UInt8 → Signature → Prop) (own named : PublicKey)
    (auth changed : GatewayAuth) : Prop :=
  signed named changed.signingBytes changed.signature → named = own ∧ changed = auth

def CollisionFree (left right : List UInt8) : Prop :=
  platform.sha256 left = platform.sha256 right → left = right

variable {platform} (key : SisterKeyPair platform.verifies) (certificate : MembershipCertificate)
variable (timestamp : UInt64) (nonce : Bytes 16)

def announcing (record : PeerRecord) : GatewayAnnounceRequest :=
  ⟨signAnnounce key certificate.networkId certificate.sisterId timestamp nonce certificate record,
    certificate, record⟩

def querying : GatewayPeersRequest :=
  ⟨signPeers key certificate.networkId certificate.sisterId timestamp nonce, certificate⟩

variable {authority now window key certificate timestamp nonce}
variable {signed : PublicKey → List UInt8 → Signature → Prop}
variable (own : certificate.sisterPublicKey = key.publicKey)
variable (unforgeable : ∀ key message signature, platform.verifies key message signature = true →
  signed key message signature)
include own unforgeable

/-- What a request with the member's auth in it may be changed to. -/
theorem changed_accepted_iff {body body' : List UInt8} {auth : GatewayAuth}
    {membership : MembershipCertificate}
    (keyless : Keyless signed key.publicKey membership.sisterPublicKey
      (sign key certificate.networkId certificate.sisterId timestamp nonce body) auth) :
    Accepted platform authority now window auth body' membership ↔
      auth = sign key certificate.networkId certificate.sisterId timestamp nonce body ∧
        platform.sha256 body' = platform.sha256 body ∧ SameSister membership certificate ∧
        Grants platform authority now membership ∧ Within now window timestamp := by
  have within : timestampDelta now timestamp ≤ window.toNat ↔ Within now window timestamp := by
    unfold timestampDelta Within
    omega
  constructor
  · rintro ⟨passed, verified⟩
    have authentic := verify_request_ok verified
    obtain ⟨named, rfl⟩ := keyless (unforgeable _ _ _ authentic.signature)
    have network := membership_network authentic
    exact ⟨rfl, authentic.digest.symm, ⟨network.trans authentic.network.symm,
      authentic.sister.symm, named.trans own.symm⟩, ⟨authentic.member, authentic.open_⟩,
      within.mp authentic.fresh⟩
  · rintro ⟨rfl, digest, ⟨network, sister, named⟩, ⟨member, valid⟩, fresh⟩
    have served : membership.networkId = authority.networkId := by
      simp only [MembershipCertificate.verify, Bool.and_eq_true, beq_iff_eq] at member
      exact member.1
    have signature := key.verified
    rw [← own, ← named] at signature
    exact ⟨_, authentic_verifies ⟨network.symm.trans served, digest.symm, within.mpr fresh, member,
      valid, sister.symm, signature _⟩⟩

theorem built_accepted_iff (body : List UInt8) :
    Accepted platform authority now window
      (sign key certificate.networkId certificate.sisterId timestamp nonce body) body certificate ↔
      Grants platform authority now certificate ∧ Within now window timestamp := by
  rw [changed_accepted_iff own unforgeable fun _ => ⟨own, rfl⟩]
  constructor
  · exact fun known => known.2.2.2
  · exact fun known => ⟨rfl, rfl, ⟨rfl, rfl, rfl⟩, known⟩

/-- A request is accepted exactly by certificate and time, in whatever text it is
carried. A changed announce is not accepted; in a query the certificate may be
exchanged for another one of the same Sister, and nothing else. -/
theorem requests_verified_exactly {record : PeerRecord} (fits : RecordFits record)
    {announceText queryText : List UInt8}
    (carried : platform.announceRequest announceText =
      .ok (announcing key certificate timestamp nonce record))
    (queried : platform.peersRequest queryText = .ok (querying key certificate timestamp nonce)) :
    (∀ request, platform.announceRequest announceText = .ok request →
      (AnnounceAccepted platform authority now window request ↔
        Grants platform authority now certificate ∧ Within now window timestamp)) ∧
    (∀ request, platform.peersRequest queryText = .ok request →
      (QueryAccepted platform authority now window request ↔
        Grants platform authority now certificate ∧ Within now window timestamp)) ∧
    (∀ changed, changed ≠ announcing key certificate timestamp nonce record →
      RecordFits changed.record →
      Keyless signed key.publicKey changed.membership.sisterPublicKey
        (announcing key certificate timestamp nonce record).auth changed.auth →
      CollisionFree platform (announceBodyBytes changed.membership changed.record)
        (announceBodyBytes certificate record) →
      ¬ AnnounceAccepted platform authority now window changed) ∧
    ∀ changed, changed ≠ querying key certificate timestamp nonce →
      Keyless signed key.publicKey changed.membership.sisterPublicKey
        (querying key certificate timestamp nonce).auth changed.auth →
      (QueryAccepted platform authority now window changed ↔
        changed.auth = (querying key certificate timestamp nonce).auth ∧
          SameSister changed.membership certificate ∧
          Grants platform authority now changed.membership ∧ Within now window timestamp) := by
  refine ⟨?_, ?_, ?_, ?_⟩
  · intro request parsed
    cases carried.symm.trans parsed
    exact built_accepted_iff own unforgeable _
  · intro request parsed
    cases queried.symm.trans parsed
    exact built_accepted_iff own unforgeable _
  · intro changed different fits' keyless collisionFree accepted
    obtain ⟨auth, digest, _⟩ := (changed_accepted_iff own unforgeable keyless).mp accepted
    obtain ⟨member, locator⟩ := announce_body_injective fits' fits (collisionFree digest)
    apply different
    calc changed = ⟨changed.auth, changed.membership, changed.record⟩ := rfl
      _ = announcing key certificate timestamp nonce record := by
          rw [auth, member, locator]
          rfl
  · intro changed _ keyless
    refine (changed_accepted_iff own unforgeable keyless).trans (and_congr_right fun _ => ?_)
    exact and_iff_right rfl
end Requests

/-! A member with two certificates in force. -/

def issued (serial : UInt64) : MembershipCertificate := { memberCertificate with serial := serial }

def sampleSigned (key : PublicKey) (message : List UInt8) (signature : Signature) : Prop :=
  key = memberKey ∧ signature = Bytes.fill 64 6 ∨
    key = servedAuthority.authorityPublicKey ∧
      ∃ serial ∈ [1, 2], message = (issued serial).signingBytes

instance (key : PublicKey) (message : List UInt8) (signature : Signature) :
    Decidable (sampleSigned key message signature) :=
  inferInstanceAs (Decidable (_ ∨ _))

def renewedPlatform : GatewayPlatform where
  verifies key message signature := decide (sampleSigned key message signature)
  sha256 := Sha256.sha256
  announceRequest := numbered
    [⟨memberAuth 1000 3 (announceBodyBytes (issued 1) (memberRecord 3 900)), issued 1,
      memberRecord 3 900⟩]
  peersRequest := numbered [⟨memberAuth 1000 3 peersBodyBytes, issued 1⟩]

theorem renewed_verifies (key : PublicKey) (message : List UInt8) (signature : Signature) :
    renewedPlatform.verifies key message signature = true ↔ sampleSigned key message signature :=
  decide_eq_true_iff

def memberPair : SisterKeyPair renewedPlatform.verifies where
  publicKey := memberKey
  sign _ := Bytes.fill 64 6
  verified _ := (renewed_verifies _ _ _).mpr (Or.inl ⟨rfl, rfl⟩)

abbrev memberQuerying : GatewayPeersRequest :=
  querying memberPair (issued 1) 1000 (Bytes.fill 16 3)

theorem renewed_grants {serial : UInt64} (either : serial ∈ [1, 2]) :
    Grants renewedPlatform servedAuthority 1000 (issued serial) := by
  constructor
  · rw [MembershipCertificate.verify, Bool.and_eq_true, beq_iff_eq, renewed_verifies]
    exact ⟨rfl, Or.inr ⟨rfl, serial, either, rfl⟩⟩
  · simp [MembershipCertificate.isValidAt, issued, memberCertificate]

/-- The announce passes; with another signature in it, it does not. -/
theorem member_announce_exact :
    AnnounceAccepted renewedPlatform servedAuthority 1000 300
        (announcing memberPair (issued 1) 1000 (Bytes.fill 16 3) (memberRecord 3 900)) ∧
      ¬ AnnounceAccepted renewedPlatform servedAuthority 1000 300
        { announcing memberPair (issued 1) 1000 (Bytes.fill 16 3) (memberRecord 3 900) with
          auth.signature := Bytes.fill 64 9 } := by
  have short : (utf8 (memberRecord 3 900).endpointAddr).length < 2 ^ 64 := by decide
  have fits : RecordFits (memberRecord 3 900) := short
  obtain ⟨announced, _, changed, _⟩ := @requests_verified_exactly renewedPlatform servedAuthority
    1000 300 memberPair (issued 1) 1000 (Bytes.fill 16 3) sampleSigned rfl
    (fun _ _ _ => (renewed_verifies _ _ _).mp) (memberRecord 3 900) fits [0] [0] rfl rfl
  refine ⟨(announced _ rfl).mpr ⟨renewed_grants (by decide), by decide, by decide⟩, ?_⟩
  have forged : (Bytes.fill 64 9 : Signature) ≠ Bytes.fill 64 6 := by decide
  refine changed _ ?_ fits ?_ fun _ => rfl
  · intro same
    exact forged (congrArg (fun request => request.auth.signature) same)
  · rintro (⟨_, shown⟩ | ⟨named, _⟩)
    · exact absurd shown forged
    · revert named
      decide

/-- The query passes with the other certificate in it, too. -/
theorem exchanged_certificate_accepted :
    ∃ changed, changed ≠ memberQuerying ∧
      Keyless sampleSigned memberPair.publicKey changed.membership.sisterPublicKey
        memberQuerying.auth changed.auth ∧
      QueryAccepted renewedPlatform servedAuthority 1000 300 changed := by
  have keyless : Keyless sampleSigned memberPair.publicKey (issued 2).sisterPublicKey
      memberQuerying.auth memberQuerying.auth := fun _ => ⟨rfl, rfl⟩
  refine ⟨{ memberQuerying with membership := issued 2 }, ?_, keyless, ?_⟩
  · intro same
    have serials := congrArg (fun request => request.membership.serial) same
    revert serials
    decide
  · refine (changed_accepted_iff rfl (fun _ _ _ => (renewed_verifies _ _ _).mp) keyless).mpr ?_
    exact ⟨rfl, rfl, ⟨rfl, rfl, rfl⟩, renewed_grants (by decide), by decide, by decide⟩
end Misaka.GatewayRequests
