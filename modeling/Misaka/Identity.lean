import Misaka.Bincode

/-!
Identities, certificates and the signed contracts of one Misaka Network. Every
contract is signed over the bincode layout of its unsigned fields. The Ed25519
check itself is a parameter `verifies`; what it is assumed to guarantee is
`Unforgeable`, over whatever set of signed messages a model keeps.

A key pair is named by its public half: the private half never leaves the
process that holds it and no modelled function reads it.
-/

namespace Misaka.Identity
open Bincode

structure NetworkId where
  uuid : Bytes 16
deriving DecidableEq

variable (network : NetworkId)

def NetworkId.display : String := uuidText network.uuid

def NetworkId.encode : List UInt8 := text network.display

theorem network_encode_length_le : network.encode.length ≤ 152 := by
  have digits := uuid_text_length_le network.uuid
  have bytes := utf8_length_le (uuidText network.uuid)
  simp only [NetworkId.encode, NetworkId.display, text, byteString, length64, List.length_append,
    little_endian_length]
  omega

abbrev SisterId := UInt64

abbrev PublicKey := Bytes 32
abbrev Signature := Bytes 64
abbrev SignatureCheck := PublicKey → List UInt8 → Signature → Bool

def Unforgeable (verifies : SignatureCheck) (signed : PublicKey → List UInt8 → Prop) : Prop :=
  ∀ key message signature, verifies key message signature = true → signed key message

def encodeSignature (signature : Signature) : List UInt8 := byteString signature.toList

structure HumanId where
  uuid : Bytes 16
deriving DecidableEq

def HumanId.encode (human : HumanId) : List UInt8 := text (uuidText human.uuid)

structure HumanIdentity where
  id : HumanId
  displayName : String
  publicKey : PublicKey
deriving DecidableEq

def HumanIdentity.encode (human : HumanIdentity) : List UInt8 :=
  human.id.encode ++ text human.displayName ++ human.publicKey.toList

inductive Principal where
  | human (id : HumanId)
  | sister (id : SisterId)
deriving DecidableEq

def Principal.encode : Principal → List UInt8
  | .human id => variant 0 ++ id.encode
  | .sister id => variant 1 ++ u64 id

inductive Role where
  | owner | admin | operator
deriving DecidableEq

def Role.encode (role : Role) : List UInt8 := variant role.ctorIdx

inductive Permission where
  | networkInvite | networkRevoke | sisterInspect | jobSubmit | jobCancel | fileSend
  | tunnelOpen | shellOpen
deriving DecidableEq

def Permission.encode (permission : Permission) : List UInt8 := variant permission.ctorIdx

def Role.allows : Role → Permission → Bool
  | .owner, _ => true
  | .admin, permission => permission ∈ [.networkInvite, .networkRevoke, .sisterInspect]
  | .operator, permission =>
    permission ∈ [.sisterInspect, .jobSubmit, .jobCancel, .fileSend, .tunnelOpen, .shellOpen]

structure NetworkAuthority where
  networkId : NetworkId
  authorityPublicKey : PublicKey
deriving DecidableEq

def NetworkAuthority.encode (authority : NetworkAuthority) : List UInt8 :=
  authority.networkId.encode ++ authority.authorityPublicKey.toList

structure HumanMembershipCertificate where
  networkId : NetworkId
  human : HumanIdentity
  role : Role
  issuedAt : UInt64
  expiresAt : Option UInt64
  serial : UInt64
  authoritySignature : Signature
deriving DecidableEq

variable (certificate : HumanMembershipCertificate)

def HumanMembershipCertificate.signingBytes :
    List UInt8 :=
  certificate.networkId.encode ++ certificate.human.encode ++ certificate.role.encode ++
    u64 certificate.issuedAt ++ option u64 certificate.expiresAt ++ u64 certificate.serial

def HumanMembershipCertificate.unsigned :
    HumanMembershipCertificate :=
  { certificate with authoritySignature := Bytes.fill 64 0 }

def HumanMembershipCertificate.encode : List UInt8 :=
  certificate.signingBytes ++ encodeSignature certificate.authoritySignature

structure CommandAuthorization where
  networkId : NetworkId
  issuer : HumanIdentity
  membership : HumanMembershipCertificate
  role : Role
  permission : Permission
  target : Option Principal
  constraints : List String
  issuedAt : UInt64
  expiresAt : UInt64
  nonce : Bytes 16
  signature : Signature
deriving DecidableEq

def CommandAuthorization.signingBytes (authorization : CommandAuthorization) : List UInt8 :=
  authorization.networkId.encode ++ authorization.issuer.encode ++
    authorization.membership.encode ++ authorization.role.encode ++
    authorization.permission.encode ++ option Principal.encode authorization.target ++
    sequence text authorization.constraints ++ u64 authorization.issuedAt ++
    u64 authorization.expiresAt ++ authorization.nonce.toList

structure MembershipCertificate where
  networkId : NetworkId
  sisterPublicKey : PublicKey
  sisterId : SisterId
  issuedAt : UInt64
  expiresAt : Option UInt64
  serial : UInt64
  authoritySignature : Signature
deriving DecidableEq

variable (certificate : MembershipCertificate)

def MembershipCertificate.signingBytes : List UInt8 :=
  certificate.networkId.encode ++ certificate.sisterPublicKey.toList ++
    u64 certificate.sisterId ++ u64 certificate.issuedAt ++ option u64 certificate.expiresAt ++
    u64 certificate.serial

-- A contract is made with a zero signature first and then signed.
def MembershipCertificate.unsigned :
    MembershipCertificate :=
  { certificate with authoritySignature := Bytes.fill 64 0 }

def MembershipCertificate.encode : List UInt8 :=
  certificate.signingBytes ++ encodeSignature certificate.authoritySignature

def MembershipCertificate.isValidAt (time : UInt64) : Bool :=
  certificate.issuedAt ≤ time && certificate.expiresAt.all (time ≤ ·)

inductive MembershipKind where
  | sister | human
deriving DecidableEq

structure RevocationRecord where
  networkId : NetworkId
  membershipKind : MembershipKind
  membershipSerial : UInt64
  revokedAt : UInt64
  reason : String
  authoritySignature : Signature
deriving DecidableEq

def RevocationRecord.signingBytes (record : RevocationRecord) : List UInt8 :=
  record.networkId.encode ++ variant record.membershipKind.ctorIdx ++
    u64 record.membershipSerial ++ u64 record.revokedAt ++ text record.reason

def RevocationRecord.unsigned (record : RevocationRecord) : RevocationRecord :=
  { record with authoritySignature := Bytes.fill 64 0 }

abbrev IrohEndpointId := Bytes 32

def saturatingAdd (left right : UInt64) : UInt64 :=
  if left.toNat + right.toNat < 2 ^ 64 then left + right else UInt64.ofNat (2 ^ 64 - 1)

structure TransportBinding where
  networkId : NetworkId
  sisterId : SisterId
  sisterPublicKey : PublicKey
  irohEndpointId : IrohEndpointId
  sequence : UInt64
  signatureBySisterKey : Signature
deriving DecidableEq

variable (binding : TransportBinding)

def TransportBinding.signingBytes : List UInt8 :=
  binding.networkId.encode ++ u64 binding.sisterId ++ binding.sisterPublicKey.toList ++
    binding.irohEndpointId.toList ++ u64 binding.sequence

def TransportBinding.unsigned : TransportBinding :=
  { binding with signatureBySisterKey := Bytes.fill 64 0 }

def TransportBinding.encode : List UInt8 :=
  binding.signingBytes ++ encodeSignature binding.signatureBySisterKey

structure PeerRecord where
  networkId : NetworkId
  sisterId : SisterId
  sisterPublicKey : PublicKey
  endpointAddr : String
  transportBinding : TransportBinding
  sequence : UInt64
  updatedAt : UInt64
  sisterSignature : Signature
deriving DecidableEq

def PeerRecord.signingBytes (record : PeerRecord) : List UInt8 :=
  record.networkId.encode ++ u64 record.sisterId ++ record.sisterPublicKey.toList ++
    text record.endpointAddr ++ record.transportBinding.encode ++ u64 record.sequence ++
    u64 record.updatedAt

def PeerRecord.unsigned (record : PeerRecord) : PeerRecord :=
  { record with sisterSignature := Bytes.fill 64 0 }

/-- A nonce scoped to one Network, signed to prove possession of a Sister key. -/
structure KeyPossessionChallenge where
  networkId : NetworkId
  nonce : Bytes 32
deriving DecidableEq

def KeyPossessionChallenge.signingBytes (challenge : KeyPossessionChallenge) : List UInt8 :=
  challenge.networkId.encode ++ challenge.nonce.toList

structure GatewayAuth where
  networkId : NetworkId
  sisterId : SisterId
  timestamp : UInt64
  nonce : Bytes 16
  bodyDigest : Bytes 32
  signature : Signature
deriving DecidableEq

def GatewayAuth.signingBytes (auth : GatewayAuth) : List UInt8 :=
  auth.networkId.encode ++ u64 auth.sisterId ++ u64 auth.timestamp ++ auth.nonce.toList ++
    auth.bodyDigest.toList

def GatewayAuth.unsigned (auth : GatewayAuth) : GatewayAuth :=
  { auth with signature := Bytes.fill 64 0 }

structure SisterIdentity where
  id : SisterId
  nickname : String
  hostname : String
  platform : String
  version : String
  listenPort : UInt16
deriving DecidableEq

section Verification
variable (verifies : SignatureCheck)

def HumanMembershipCertificate.verify (certificate : HumanMembershipCertificate)
    (authority : NetworkAuthority) (now : UInt64) : Bool :=
  certificate.networkId == authority.networkId &&
    certificate.expiresAt.all (certificate.issuedAt ≤ ·) &&
    decide (certificate.issuedAt ≤ now) && certificate.expiresAt.all (now ≤ ·) &&
    verifies authority.authorityPublicKey certificate.signingBytes certificate.authoritySignature

def CommandAuthorization.verify (authorization : CommandAuthorization)
    (authority : NetworkAuthority) (now : UInt64) : Bool :=
  authorization.networkId == authority.networkId &&
    decide (authorization.issuedAt ≤ authorization.expiresAt) &&
    decide (authorization.issuedAt ≤ now) && decide (now ≤ authorization.expiresAt) &&
    authorization.role.allows authorization.permission &&
    authorization.membership.networkId == authorization.networkId &&
    authorization.membership.role == authorization.role &&
    authorization.membership.human == authorization.issuer &&
    authorization.membership.verify verifies authority now &&
    verifies authorization.issuer.publicKey authorization.signingBytes authorization.signature

def MembershipCertificate.verify (certificate : MembershipCertificate)
    (authority : NetworkAuthority) : Bool :=
  certificate.networkId == authority.networkId &&
    verifies authority.authorityPublicKey certificate.signingBytes certificate.authoritySignature

def RevocationRecord.verify (record : RevocationRecord) (authority : NetworkAuthority) : Bool :=
  record.networkId == authority.networkId &&
    verifies authority.authorityPublicKey record.signingBytes record.authoritySignature

def TransportBinding.verify (binding : TransportBinding) : Bool :=
  verifies binding.sisterPublicKey binding.signingBytes binding.signatureBySisterKey

def PeerRecord.verify (record : PeerRecord) : Bool :=
  record.networkId == record.transportBinding.networkId &&
    record.sisterId == record.transportBinding.sisterId &&
    record.sisterPublicKey == record.transportBinding.sisterPublicKey &&
    record.sequence == record.transportBinding.sequence &&
    record.transportBinding.verify verifies &&
    verifies record.sisterPublicKey record.signingBytes record.sisterSignature
end Verification

/-- A key that signs for itself. -/
structure SisterKeyPair (verifies : SignatureCheck) where
  publicKey : PublicKey
  sign : List UInt8 → Signature
  verified : ∀ message, verifies publicKey message (sign message) = true

/-! What a successful check establishes, field by field, with the signatures
read back as messages their keys really signed. -/
section Established
variable {verifies : SignatureCheck} {signed : PublicKey → List UInt8 → Prop}

/-- A human membership the authority granted, open at the given time. -/
structure HumanMembershipCertificate.Granted (signed : PublicKey → List UInt8 → Prop)
    (certificate : HumanMembershipCertificate) (authority : NetworkAuthority)
    (now : UInt64) : Prop where
  network : certificate.networkId = authority.networkId
  begun : certificate.issuedAt ≤ now
  unexpired : ∀ expires ∈ certificate.expiresAt, now ≤ expires
  authoritySigned : signed authority.authorityPublicKey certificate.signingBytes

variable {authority : NetworkAuthority} {now : UInt64}

theorem human_membership_granted {certificate : HumanMembershipCertificate}
    (unforgeable : Unforgeable verifies signed)
    (accepted : certificate.verify verifies authority now = true) :
    certificate.Granted signed authority now := by
  simp only [HumanMembershipCertificate.verify, Bool.and_eq_true, beq_iff_eq, decide_eq_true_eq,
    Option.all_eq_true] at accepted
  obtain ⟨⟨⟨⟨network, _⟩, begun⟩, unexpired⟩, signature⟩ := accepted
  exact ⟨network, begun, unexpired, unforgeable _ _ _ signature⟩

/-- A command authorization that grants its permission at the given time: the
membership chain, the role and the window, and the issuer's own signature. -/
structure CommandAuthorization.Grants (signed : PublicKey → List UInt8 → Prop)
    (authorization : CommandAuthorization) (authority : NetworkAuthority)
    (now : UInt64) : Prop where
  network : authorization.networkId = authority.networkId
  begun : authorization.issuedAt ≤ now
  unexpired : now ≤ authorization.expiresAt
  roleAllows : authorization.role.allows authorization.permission = true
  memberRole : authorization.membership.role = authorization.role
  memberIssuer : authorization.membership.human = authorization.issuer
  membership : authorization.membership.Granted signed authority now
  issuerSigned : signed authorization.issuer.publicKey authorization.signingBytes

theorem authorization_grants {authorization : CommandAuthorization}
    (unforgeable : Unforgeable verifies signed)
    (accepted : authorization.verify verifies authority now = true) :
    authorization.Grants signed authority now := by
  simp only [CommandAuthorization.verify, Bool.and_eq_true, beq_iff_eq, decide_eq_true_eq]
    at accepted
  obtain ⟨⟨⟨⟨⟨⟨⟨⟨⟨network, _⟩, begun⟩, unexpired⟩, allows⟩, _⟩, role⟩, issuer⟩, membership⟩,
    signature⟩ := accepted
  exact ⟨network, begun, unexpired, allows, role, issuer,
    human_membership_granted unforgeable membership, unforgeable _ _ _ signature⟩

end Established
end Misaka.Identity
