import Misaka.Protocol

/-!
The invites an authority hands out and the exchange that redeems one: the
request, the challenge a joining Sister signs and the response with its
membership. What a received response is checked for before anything is stored is
here too. SHA-256 is a parameter.
-/

namespace Misaka.EnrollmentContracts
open Bincode Identity Protocol

def ENROLLMENT_VERSION : UInt16 := 1
def ENROLLMENT_PROTOCOL_VERSION : UInt16 := 1

/-- The older invite: a bootstrap artifact that may carry a finished membership. -/
structure NetworkInvite where
  networkId : NetworkId
  authority : NetworkAuthority
  bootstrapRecords : List PeerRecord
  issuedAt : UInt64
  expiresAt : UInt64
  inviteId : Bytes 16
  membership : Option MembershipCertificate
  authoritySignature : Signature
deriving DecidableEq

def NetworkInvite.signingBytes (invite : NetworkInvite) : List UInt8 :=
  invite.networkId.encode ++ invite.authority.encode ++
    sequence encodeRecord invite.bootstrapRecords ++ u64 invite.issuedAt ++
    u64 invite.expiresAt ++ invite.inviteId.toList ++
    option MembershipCertificate.encode invite.membership

def NetworkInvite.unsigned (invite : NetworkInvite) : NetworkInvite :=
  { invite with authoritySignature := Bytes.fill 64 0 }

/-- A time-limited invite that is not bound to any recipient. -/
structure EnrollmentInvite where
  version : UInt16
  networkId : NetworkId
  authority : NetworkAuthority
  issuedAt : UInt64
  expiresAt : UInt64
  inviteNonce : Bytes 32
  locator : PeerRecord
  authoritySignature : Signature
deriving DecidableEq

variable (invite : EnrollmentInvite)

def EnrollmentInvite.signingBytes : List UInt8 :=
  u16 invite.version ++ invite.networkId.encode ++ invite.authority.encode ++
    u64 invite.issuedAt ++ u64 invite.expiresAt ++ invite.inviteNonce.toList ++
    encodeRecord invite.locator

def EnrollmentInvite.unsigned : EnrollmentInvite :=
  { invite with authoritySignature := Bytes.fill 64 0 }

def EnrollmentInvite.encode : List UInt8 :=
  invite.signingBytes ++ encodeSignature invite.authoritySignature

def EnrollmentInvite.isExpired (now : UInt64) : Bool :=
  now > invite.expiresAt

structure EnrollmentRequest where
  protocolVersion : UInt16
  invite : EnrollmentInvite
  sisterId : SisterId
  sisterPublicKey : PublicKey
  recipientNonce : Bytes 32
deriving DecidableEq

def EnrollmentRequest.encode (request : EnrollmentRequest) : List UInt8 :=
  u16 request.protocolVersion ++ request.invite.encode ++ u64 request.sisterId ++
    request.sisterPublicKey.toList ++ request.recipientNonce.toList

structure EnrollmentChallenge where
  protocolVersion : UInt16
  networkId : NetworkId
  inviteDigest : Bytes 32
  sisterId : SisterId
  sisterPublicKey : PublicKey
  authorityNonce : Bytes 32
  recipientNonce : Bytes 32
deriving DecidableEq

def EnrollmentChallenge.new (network : NetworkId) (inviteDigest : Bytes 32) (sister : SisterId)
    (key : PublicKey) (authorityNonce recipientNonce : Bytes 32) : EnrollmentChallenge :=
  ⟨ENROLLMENT_PROTOCOL_VERSION, network, inviteDigest, sister, key, authorityNonce, recipientNonce⟩

def EnrollmentChallenge.signingBytes (challenge : EnrollmentChallenge) : List UInt8 :=
  u16 challenge.protocolVersion ++ challenge.networkId.encode ++ challenge.inviteDigest.toList ++
    u64 challenge.sisterId ++ challenge.sisterPublicKey.toList ++
    challenge.authorityNonce.toList ++ challenge.recipientNonce.toList

structure EnrollmentProof where
  signature : Signature
deriving DecidableEq

def EnrollmentProof.encode (proof : EnrollmentProof) : List UInt8 :=
  encodeSignature proof.signature

inductive EnrollmentRejection where
  | invalidInvite | expired | wrongNetwork | invalidProof | protocolVersion | issuanceFailed
deriving DecidableEq

def EnrollmentRejection.encode (reason : EnrollmentRejection) : List UInt8 :=
  variant reason.ctorIdx

inductive EnrollmentOutcome where
  | accepted (authority : NetworkAuthority) (membership : MembershipCertificate)
      (bootstrapRecords : List PeerRecord)
  | rejected (reason : EnrollmentRejection)
deriving DecidableEq

def EnrollmentOutcome.encode : EnrollmentOutcome → List UInt8
  | .accepted authority membership bootstrapRecords =>
    variant 0 ++ authority.encode ++ membership.encode ++ sequence encodeRecord bootstrapRecords
  | .rejected reason => variant 1 ++ reason.encode

structure EnrollmentResponse where
  protocolVersion : UInt16
  outcome : EnrollmentOutcome
deriving DecidableEq

def EnrollmentResponse.accepted (authority : NetworkAuthority) (membership : MembershipCertificate)
    (bootstrapRecords : List PeerRecord) : EnrollmentResponse :=
  ⟨ENROLLMENT_PROTOCOL_VERSION, .accepted authority membership bootstrapRecords⟩

def EnrollmentResponse.rejected (reason : EnrollmentRejection) : EnrollmentResponse :=
  ⟨ENROLLMENT_PROTOCOL_VERSION, .rejected reason⟩

def EnrollmentResponse.encode (response : EnrollmentResponse) : List UInt8 :=
  u16 response.protocolVersion ++ response.outcome.encode

/-- Validated enrollment material, ready to be installed. -/
structure EnrollmentBundle where
  authority : NetworkAuthority
  membership : MembershipCertificate
  bootstrapRecords : List PeerRecord
deriving DecidableEq

section Verification
variable (verifies : SignatureCheck)

def EnrollmentInvite.verify (invite : EnrollmentInvite) (now : UInt64) : Bool :=
  invite.version == ENROLLMENT_VERSION && invite.networkId == invite.authority.networkId &&
    decide (invite.issuedAt ≤ invite.expiresAt) && decide (invite.issuedAt ≤ now) &&
    decide (now ≤ invite.expiresAt) &&
    verifies invite.authority.authorityPublicKey invite.signingBytes invite.authoritySignature &&
    invite.locator.networkId == invite.networkId && invite.locator.verify verifies

def EnrollmentChallenge.verify (challenge : EnrollmentChallenge) (proof : EnrollmentProof) : Bool :=
  verifies challenge.sisterPublicKey challenge.signingBytes proof.signature

-- Nothing is installed unless every check here passes.
def EnrollmentResponse.validateReceived (response : EnrollmentResponse) (invite : EnrollmentInvite)
    (expectedNetworkId : NetworkId) (sister : SisterId) (key : PublicKey) (now : UInt64) :
    Except EnrollmentRejection EnrollmentBundle :=
  if response.protocolVersion ≠ ENROLLMENT_PROTOCOL_VERSION then .error .protocolVersion
  else match response.outcome with
  | .rejected reason => .error reason
  | .accepted authority membership bootstrapRecords =>
    if authority ≠ invite.authority ∨ authority.networkId ≠ expectedNetworkId then
      .error .wrongNetwork
    else if membership.networkId ≠ expectedNetworkId ∨
        membership.networkId ≠ authority.networkId ∨ membership.sisterId ≠ sister ∨
        membership.sisterPublicKey ≠ key ∨ membership.verify verifies authority = false ∨
        membership.isValidAt now = false then
      .error .issuanceFailed
    else if bootstrapRecords.any fun record =>
        record.networkId != expectedNetworkId || !record.verify verifies then
      .error .issuanceFailed
    else .ok ⟨authority, membership, bootstrapRecords⟩

variable {verifies}

theorem validated_membership_verifies {response : EnrollmentResponse} {invite : EnrollmentInvite}
    {expectedNetworkId : NetworkId} {sister : SisterId} {key : PublicKey} {now : UInt64}
    {bundle : EnrollmentBundle}
    (validated : response.validateReceived verifies invite expectedNetworkId sister key now =
      .ok bundle) :
    bundle.membership.verify verifies bundle.authority = true := by
  unfold EnrollmentResponse.validateReceived at validated
  split at validated
  · cases validated
  · split at validated
    · cases validated
    · split at validated
      · cases validated
      · split at validated
        · cases validated
        · rename_i checked
          split at validated
          · cases validated
          · cases validated
            simp only [not_or, Bool.not_eq_false] at checked
            exact checked.2.2.2.2.1
end Verification

section Digest
variable (sha256 : List UInt8 → Bytes 32)

def EnrollmentInvite.digest (invite : EnrollmentInvite) : Bytes 32 := sha256 invite.signingBytes
end Digest

end Misaka.EnrollmentContracts
