import Misaka.EnrollmentContracts
import Misaka.UniqueDecoding

/-!
Which contracts one key signs, and whether the signed bytes say which of them
was meant. No layout carries a tag for its type, so contracts of different types
are told apart only by their lengths and by bytes that happen to differ. This is
enough for everything a Sister key signs. For the authority key it leaves two
pairs of types that share signed bytes, and only keys of a special form get
there.

Lengths are 64-bit numbers, so a text or a sequence of a real value has a
length that fits one; `Representable` says this of a contract.
-/

namespace Misaka.SigningSeparation
open Bincode UniqueDecoding Identity Protocol EnrollmentContracts

/-! The parts of the layouts: how long they are and what their bytes determine. -/

@[simp] theorem u16_length (value : UInt16) : (u16 value).length = 2 := little_endian_length 2 _

@[simp] theorem u64_length (value : UInt64) : (u64 value).length = 8 := little_endian_length 8 _

@[simp] theorem length64_length (value : Nat) : (length64 value).length = 8 :=
  little_endian_length 8 _

@[simp] theorem variant_length (index : Nat) : (variant index).length = 4 :=
  little_endian_length 4 _

@[simp] theorem bytes_length {size : Nat} (bytes : Bytes size) : bytes.toList.length = size :=
  bytes.size_eq

@[simp] theorem text_length (value : String) : (text value).length = 8 + (utf8 value).length := by
  simp [text, byteString]

@[simp] theorem network_encode_length (network : NetworkId) : network.encode.length = 44 := by
  simp [NetworkId.encode, NetworkId.display, uuid_text_utf8_length]

@[simp] theorem human_encode_length (human : HumanId) : human.encode.length = 44 := by
  simp [HumanId.encode, uuid_text_utf8_length]

@[simp] theorem signature_encode_length (signature : Signature) :
    (encodeSignature signature).length = 72 := by
  simp [encodeSignature, byteString]

theorem option_u64_length (value : Option UInt64) :
    (option u64 value).length = if value.isSome then 9 else 1 := by
  cases value with
  | none => rfl
  | some value => simp [option]

theorem binding_signing_length (binding : TransportBinding) :
    binding.signingBytes.length = 124 := by
  simp [TransportBinding.signingBytes]

theorem binding_encode_length (binding : TransportBinding) : binding.encode.length = 196 := by
  simp [TransportBinding.encode, binding_signing_length]

variable (certificate : MembershipCertificate)

theorem membership_signing_length :
    certificate.signingBytes.length = if certificate.expiresAt.isSome then 109 else 101 := by
  simp only [MembershipCertificate.signingBytes, List.length_append, network_encode_length,
    bytes_length, u64_length, option_u64_length]
  split <;> rfl

theorem membership_encode_length :
    certificate.encode.length = if certificate.expiresAt.isSome then 181 else 173 := by
  rw [MembershipCertificate.encode, List.length_append, membership_signing_length,
    signature_encode_length]
  split <;> rfl

theorem network_delimits : DelimitsAll NetworkId.encode :=
  uuid_text_delimits.of_fields NetworkId.uuid (by rintro ⟨⟩ ⟨⟩ same; cases same; rfl)
    (fun _ fits => fits) fun _ => rfl

theorem human_id_delimits : DelimitsAll HumanId.encode :=
  uuid_text_delimits.of_fields HumanId.uuid (by rintro ⟨⟩ ⟨⟩ same; cases same; rfl)
    (fun _ fits => fits) fun _ => rfl

theorem encode_signature_delimits : DelimitsAll encodeSignature :=
  signature_delimits 64 (by rw [Fits]; decide)

theorem role_delimits : DelimitsAll Role.encode := by
  intro left right rest rest' _ _ same
  have bound : ∀ role : Role, role.ctorIdx < 2 ^ 32 := by
    intro role
    cases role <;> decide
  obtain ⟨equal, later⟩ := variant_delimits _ _ _ _ (bound left) (bound right) same
  refine ⟨?_, later⟩
  cases left <;> cases right <;> first | rfl | cases equal

theorem authority_delimits : DelimitsAll NetworkAuthority.encode :=
  (network_delimits.next (bytes_delimits 32)).of_fields
    (fun ⟨network, key⟩ => (network, key))
    (by rintro ⟨⟩ ⟨⟩ same; cases same; rfl) (fun _ fits => fits) fun _ => rfl

theorem membership_delimits : DelimitsAll MembershipCertificate.encode :=
  (network_delimits.next (bytes_delimits 32) |>.next u64_delimits |>.next u64_delimits
    |>.next (option_delimits_all u64_delimits) |>.next u64_delimits
    |>.next encode_signature_delimits).of_fields
    (fun ⟨network, key, sister, issued, expires, serial, signature⟩ =>
      ((((((network, key), sister), issued), expires), serial), signature))
    (by rintro ⟨⟩ ⟨⟩ same; cases same; rfl) (fun _ fits => fits) fun _ => rfl

theorem binding_delimits : DelimitsAll TransportBinding.encode :=
  (network_delimits.next u64_delimits |>.next (bytes_delimits 32) |>.next (bytes_delimits 32)
    |>.next u64_delimits |>.next encode_signature_delimits).of_fields
    (fun ⟨network, sister, key, endpoint, number, signature⟩ =>
      (((((network, sister), key), endpoint), number), signature))
    (by rintro ⟨⟩ ⟨⟩ same; cases same; rfl) (fun _ fits => fits) fun _ => rfl

abbrev RecordFits (record : PeerRecord) : Prop :=
  Fits (utf8 record.endpointAddr).length

theorem record_delimits : Delimits RecordFits encodeRecord :=
  (network_delimits.next u64_delimits |>.next (bytes_delimits 32) |>.last text_delimits
    |>.next binding_delimits |>.next u64_delimits |>.next u64_delimits
    |>.next encode_signature_delimits).of_fields
    (fun ⟨network, sister, key, address, binding, number, updated, signature⟩ =>
      (((((((network, sister), key), address), binding), number), updated), signature))
    (by rintro ⟨⟩ ⟨⟩ same; cases same; rfl) (fun _ fits => fits) fun _ => rfl

theorem option_length_pos {Value : Type} (encode : Value → List UInt8) (value : Option Value) :
    0 < (option encode value).length := by
  cases value with
  | none => exact Nat.succ_pos _
  | some value => exact Nat.succ_pos _

-- The length of a UUID's text leads every NetworkId, so the third byte of a
-- layout says whether a two-byte version comes before it.
theorem network_leads (network : NetworkId) (rest : List UInt8) :
    (network.encode ++ rest)[2]? = some 0 := by
  simp only [NetworkId.encode, NetworkId.display, text, byteString, uuid_text_utf8_length]
  rfl

theorem version_leads (version : UInt16) (network : NetworkId) (rest : List UInt8) :
    (u16 version ++ (network.encode ++ rest))[2]? = some 36 := by
  simp only [NetworkId.encode, NetworkId.display, text, byteString, uuid_text_utf8_length]
  rfl

/-! The signed bytes of each contract determine everything but its signature. -/

/-- A contract that is read back with its signature last is determined, but for the
signature, by the bytes before it. -/
theorem unsigned_determined {Contract : Type} {valid : Contract → Prop}
    {signing : Contract → List UInt8} {signature : Contract → Signature} {left right : Contract}
    (delimits : Delimits valid fun contract =>
      signing contract ++ encodeSignature (signature contract))
    (leftValid : valid left) (rightValid : valid right) (same : signing left = signing right)
    (cleared : signature left = signature right) : left = right :=
  delimits_injective delimits leftValid rightValid (by rw [same, cleared])

theorem human_membership_delimits :
    Delimits (fun certificate => Fits (utf8 certificate.human.displayName).length)
      HumanMembershipCertificate.encode :=
  (network_delimits.last (human_id_delimits.last text_delimits |>.next (bytes_delimits 32))
    |>.next role_delimits |>.next u64_delimits |>.next (option_delimits_all u64_delimits)
    |>.next u64_delimits |>.next encode_signature_delimits).of_fields
    (fun ⟨network, ⟨human, name, key⟩, role, issued, expires, serial, signature⟩ =>
      ((((((network, ((human, name), key)), role), issued), expires), serial), signature))
    (by rintro ⟨_, ⟨⟩⟩ ⟨_, ⟨⟩⟩ same; cases same; rfl) (fun _ fits => fits) fun _ => rfl

theorem kind_delimits : DelimitsAll fun kind : MembershipKind => variant kind.ctorIdx := by
  intro left right rest rest' _ _ same
  have bound : ∀ kind : MembershipKind, kind.ctorIdx < 2 ^ 32 := by
    intro kind
    cases kind <;> decide
  obtain ⟨equal, later⟩ := variant_delimits _ _ _ _ (bound left) (bound right) same
  refine ⟨?_, later⟩
  cases left <;> cases right <;> first | rfl | cases equal

theorem revocation_delimits : Delimits (fun record => Fits (utf8 record.reason).length)
    fun record : RevocationRecord =>
      record.signingBytes ++ encodeSignature record.authoritySignature :=
  (network_delimits.next kind_delimits |>.next u64_delimits |>.next u64_delimits
    |>.last text_delimits |>.next encode_signature_delimits).of_fields
    (fun ⟨network, kind, serial, revoked, reason, signature⟩ =>
      (((((network, kind), serial), revoked), reason), signature))
    (by rintro ⟨⟩ ⟨⟩ same; cases same; rfl) (fun _ fits => fits) fun _ => rfl

structure InviteFits (invite : NetworkInvite) : Prop where
  count : Fits invite.bootstrapRecords.length
  records : ∀ record ∈ invite.bootstrapRecords, RecordFits record

theorem network_invite_delimits : Delimits InviteFits fun invite =>
    invite.signingBytes ++ encodeSignature invite.authoritySignature :=
  (network_delimits.next authority_delimits |>.last (sequence_delimits record_delimits)
    |>.next u64_delimits |>.next u64_delimits |>.next (bytes_delimits 16)
    |>.next (option_delimits_all membership_delimits) |>.next encode_signature_delimits).of_fields
    (fun ⟨network, authority, records, issued, expires, invite, member, signature⟩ =>
      (((((((network, authority), records), issued), expires), invite), member), signature))
    (by rintro ⟨⟩ ⟨⟩ same; cases same; rfl) (fun _ fits => ⟨fits.count, fits.records⟩) fun _ => rfl

theorem enrollment_invite_delimits : Delimits (fun invite => RecordFits invite.locator)
    fun invite : EnrollmentInvite =>
      invite.signingBytes ++ encodeSignature invite.authoritySignature :=
  (u16_delimits.next network_delimits |>.next authority_delimits |>.next u64_delimits
    |>.next u64_delimits |>.next (bytes_delimits 32) |>.last record_delimits
    |>.next encode_signature_delimits).of_fields
    (fun ⟨version, network, authority, issued, expires, nonce, locator, signature⟩ =>
      (((((((version, network), authority), issued), expires), nonce), locator), signature))
    (by rintro ⟨⟩ ⟨⟩ same; cases same; rfl) (fun _ fits => fits) fun _ => rfl

theorem client_hello_delimits : DelimitsAll fun hello : AuthenticatedClientHello =>
    hello.signingBytes ++ encodeSignature hello.signature :=
  (u16_delimits.next network_delimits |>.next u64_delimits |>.next (bytes_delimits 32)
    |>.next membership_delimits |>.next binding_delimits |>.next (bytes_delimits 32)
    |>.next encode_signature_delimits).of_fields
    (fun ⟨version, network, sister, key, member, binding, nonce, signature⟩ =>
      (((((((version, network), sister), key), member), binding), nonce), signature))
    (by rintro ⟨⟩ ⟨⟩ same; cases same; rfl) (fun _ fits => fits) fun _ => rfl

theorem server_hello_delimits : DelimitsAll fun hello : AuthenticatedServerHello =>
    hello.signingBytes ++ encodeSignature hello.signature :=
  (u16_delimits.next network_delimits |>.next u64_delimits |>.next (bytes_delimits 32)
    |>.next membership_delimits |>.next binding_delimits |>.next (bytes_delimits 32)
    |>.next (bytes_delimits 32) |>.next encode_signature_delimits).of_fields
    (fun ⟨version, network, sister, key, member, binding, client, nonce, signature⟩ =>
      ((((((((version, network), sister), key), member), binding), client), nonce), signature))
    (by rintro ⟨⟩ ⟨⟩ same; cases same; rfl) (fun _ fits => fits) fun _ => rfl

theorem gateway_auth_delimits : DelimitsAll fun auth : GatewayAuth =>
    auth.signingBytes ++ encodeSignature auth.signature :=
  (network_delimits.next u64_delimits |>.next u64_delimits |>.next (bytes_delimits 16)
    |>.next (bytes_delimits 32) |>.next encode_signature_delimits).of_fields
    (fun ⟨network, sister, timestamp, nonce, digest, signature⟩ =>
      (((((network, sister), timestamp), nonce), digest), signature))
    (by rintro ⟨⟩ ⟨⟩ same; cases same; rfl) (fun _ fits => fits) fun _ => rfl

-- The two challenges are signed whole.
theorem challenge_delimits : DelimitsAll EnrollmentChallenge.signingBytes :=
  (u16_delimits.next network_delimits |>.next (bytes_delimits 32) |>.next u64_delimits
    |>.next (bytes_delimits 32) |>.next (bytes_delimits 32) |>.next (bytes_delimits 32)).of_fields
    (fun ⟨version, network, digest, sister, key, authority, recipient⟩ =>
      ((((((version, network), digest), sister), key), authority), recipient))
    (by rintro ⟨⟩ ⟨⟩ same; cases same; rfl) (fun _ fits => fits) fun _ => rfl

theorem possession_delimits : DelimitsAll KeyPossessionChallenge.signingBytes :=
  (network_delimits.next (bytes_delimits 32)).of_fields
    (fun ⟨network, nonce⟩ => (network, nonce))
    (by rintro ⟨⟩ ⟨⟩ same; cases same; rfl) (fun _ fits => fits) fun _ => rfl

theorem challenge_signing_injective {left right : EnrollmentChallenge}
    (same : left.signingBytes = right.signingBytes) : left = right :=
  delimits_injective challenge_delimits trivial trivial same

/-! The contracts the authority key signs. -/
section Authority

inductive AuthorityContract where
  | membership (certificate : MembershipCertificate)
  | humanMembership (certificate : HumanMembershipCertificate)
  | revocation (record : RevocationRecord)
  | networkInvite (invite : NetworkInvite)
  | enrollmentInvite (invite : EnrollmentInvite)
deriving DecidableEq

def AuthorityContract.signingBytes : AuthorityContract → List UInt8
  | .membership certificate => certificate.signingBytes
  | .humanMembership certificate => certificate.signingBytes
  | .revocation record => record.signingBytes
  | .networkInvite invite => invite.signingBytes
  | .enrollmentInvite invite => invite.signingBytes

def AuthorityContract.unsigned : AuthorityContract → AuthorityContract
  | .membership certificate => .membership certificate.unsigned
  | .humanMembership certificate => .humanMembership certificate.unsigned
  | .revocation record => .revocation record.unsigned
  | .networkInvite invite => .networkInvite invite.unsigned
  | .enrollmentInvite invite => .enrollmentInvite invite.unsigned

def AuthorityContract.Representable : AuthorityContract → Prop
  | .membership _ => True
  | .humanMembership certificate => Fits (utf8 certificate.human.displayName).length
  | .revocation record => Fits (utf8 record.reason).length
  | .networkInvite invite => InviteFits invite
  | .enrollmentInvite invite => RecordFits invite.locator

/-- The first contract can be read as the second, of another type. A Sister
membership reads as a revocation if its key spells out a membership kind and the
length of what follows as a reason; a human membership reads as an invite of an
authority whose key spells out the length of the display name. -/
def AuthorityContract.ReadsAs : AuthorityContract → AuthorityContract → Prop
  | .membership certificate, .revocation record =>
    certificate.sisterPublicKey.toList.take 4 = variant record.membershipKind.ctorIdx ∧
      (certificate.sisterPublicKey.toList.drop 20).take 8 =
        length64 (if certificate.expiresAt.isSome then 37 else 29)
  | .humanMembership certificate, .networkInvite invite =>
    invite.authority.authorityPublicKey.toList.take 8 =
      length64 (utf8 certificate.human.displayName).length
  | _, _ => False

variable {certificate : MembershipCertificate} {record : RevocationRecord}

theorem membership_reads_as_revocation (same : certificate.signingBytes = record.signingBytes) :
    (AuthorityContract.membership certificate).ReadsAs (.revocation record) := by
  have lengths := congrArg List.length same
  rw [membership_signing_length] at lengths
  simp only [RevocationRecord.signingBytes, List.length_append, network_encode_length,
    variant_length, u64_length, text_length] at lengths
  simp only [MembershipCertificate.signingBytes, RevocationRecord.signingBytes, text, byteString,
    List.append_assoc] at same
  obtain ⟨_, fields⟩ := delimited network_delimits same
  constructor
  · have kind := congrArg (List.take 4) fields
    rwa [List.take_append_of_le_length (by simp), List.take_left' (variant_length _)] at kind
  · -- The reason's length stands twenty bytes into the key.
    have later := congrArg (List.drop 20) fields
    rw [← List.append_assoc (variant _), ← List.append_assoc (variant _ ++ _),
      List.drop_append_of_le_length (by simp), List.drop_left' (by simp)] at later
    have reason := congrArg (List.take 8) later
    rw [List.take_append_of_le_length (by simp), List.take_left' (length64_length _)] at reason
    rw [reason]
    congr 1
    by_cases expiring : certificate.expiresAt.isSome
    · simp only [expiring, ↓reduceIte] at lengths ⊢
      omega
    · simp only [expiring, Bool.false_eq_true, ↓reduceIte] at lengths ⊢
      omega

variable {invite : NetworkInvite}

theorem human_membership_reads_as_invite {certificate : HumanMembershipCertificate}
    (same : certificate.signingBytes = invite.signingBytes) :
    (AuthorityContract.humanMembership certificate).ReadsAs (.networkInvite invite) := by
  simp only [HumanMembershipCertificate.signingBytes, HumanIdentity.encode,
    NetworkInvite.signingBytes, NetworkAuthority.encode, List.append_assoc] at same
  obtain ⟨_, later⟩ := delimited network_delimits same
  -- A HumanId and a NetworkId are written alike.
  obtain ⟨_, fields⟩ := delimited uuid_text_delimits later
  simp only [text, byteString, List.append_assoc] at fields
  have name := congrArg (List.take 8) fields
  rw [List.take_left' (length64_length _), List.take_append_of_le_length (by simp)] at name
  exact name.symm

/-! The other pairs of types never share signed bytes. -/

theorem human_membership_signing_length (certificate : HumanMembershipCertificate) :
    149 ≤ certificate.signingBytes.length := by
  simp only [HumanMembershipCertificate.signingBytes, HumanIdentity.encode, Role.encode,
    List.length_append, network_encode_length, human_encode_length, text_length, bytes_length,
    variant_length, u64_length]
  have expiry := option_length_pos u64 certificate.expiresAt
  omega

theorem network_invite_signing_length (invite : NetworkInvite) :
    161 ≤ invite.signingBytes.length := by
  simp only [NetworkInvite.signingBytes, NetworkAuthority.encode, Bincode.sequence, List.length_append,
    network_encode_length, bytes_length, length64_length, u64_length]
  have membership := option_length_pos MembershipCertificate.encode invite.membership
  omega

theorem membership_signing_length_le (certificate : MembershipCertificate) :
    certificate.signingBytes.length ≤ 109 := by
  rw [membership_signing_length]
  split <;> decide

theorem uuid_text_leads (uuid : Bytes 16) (rest : List UInt8) :
    (text (uuidText uuid) ++ rest)[0]? = some 36 := by
  simp only [text, byteString, uuid_text_utf8_length]
  rfl

theorem kind_leads (kind : MembershipKind) (rest : List UInt8) :
    (variant kind.ctorIdx ++ rest)[0]? ≠ some 36 := by
  cases kind
  · exact fun same => absurd (Option.some.inj same) (by decide)
  · exact fun same => absurd (Option.some.inj same) (by decide)

theorem revocation_not_uuid_second {network : NetworkId} {uuid : Bytes 16} {rest : List UInt8}
    (same : record.signingBytes = network.encode ++ (text (uuidText uuid) ++ rest)) : False := by
  simp only [RevocationRecord.signingBytes, List.append_assoc] at same
  obtain ⟨_, fields⟩ := delimited network_delimits same
  apply kind_leads record.membershipKind
  rw [fields]
  exact uuid_text_leads uuid rest

theorem revocation_not_human_membership {certificate : HumanMembershipCertificate}
    (same : record.signingBytes = certificate.signingBytes) : False := by
  simp only [HumanMembershipCertificate.signingBytes, HumanIdentity.encode, HumanId.encode,
    List.append_assoc] at same
  exact revocation_not_uuid_second same

theorem revocation_not_network_invite (same : record.signingBytes = invite.signingBytes) :
    False := by
  simp only [NetworkInvite.signingBytes, NetworkAuthority.encode, List.append_assoc] at same
  exact revocation_not_uuid_second same

theorem membership_not_human_membership {other : HumanMembershipCertificate}
    (same : certificate.signingBytes = other.signingBytes) :
    False := by
  have short := membership_signing_length_le certificate
  have long := human_membership_signing_length other
  rw [same] at short
  omega

theorem membership_not_network_invite (same : certificate.signingBytes = invite.signingBytes) :
    False := by
  have short := membership_signing_length_le certificate
  have long := network_invite_signing_length invite
  rw [same] at short
  omega

-- Only the newer invite starts with a version.
def AuthorityContract.Versioned : AuthorityContract → Prop
  | .enrollmentInvite _ => True
  | _ => False

theorem versioned_iff (contract : AuthorityContract) :
    contract.signingBytes[2]? = some 36 ↔ contract.Versioned := by
  have zero : ∀ {bytes : List UInt8}, bytes[2]? = some 0 → (bytes[2]? = some 36 ↔ False) := by
    intro bytes leads
    rw [leads]
    decide
  cases contract with
  | membership | humanMembership | revocation | networkInvite =>
    simp only [AuthorityContract.signingBytes, MembershipCertificate.signingBytes,
      HumanMembershipCertificate.signingBytes, RevocationRecord.signingBytes,
      NetworkInvite.signingBytes, List.append_assoc]
    exact zero (network_leads _ _)
  | enrollmentInvite =>
    simp only [AuthorityContract.signingBytes, EnrollmentInvite.signingBytes, List.append_assoc]
    exact iff_of_true (version_leads _ _ _) trivial

/-- Equal signed bytes come from the same contract, but for its signature, or
from two that can be read as each other because of a key in them. -/
theorem authority_signing_separated (left right : AuthorityContract)
    (leftFits : left.Representable) (rightFits : right.Representable)
    (same : left.signingBytes = right.signingBytes) :
    left.unsigned = right.unsigned ∨ left.ReadsAs right ∨ right.ReadsAs left := by
  have versions : left.Versioned ↔ right.Versioned := by
    rw [← versioned_iff, ← versioned_iff, same]
  cases left with
  | membership certificate =>
    cases right with
    | membership other => exact .inl (congrArg AuthorityContract.membership (unsigned_determined
        membership_delimits trivial trivial same rfl))
    | humanMembership other => exact (membership_not_human_membership same).elim
    | revocation record => exact .inr (.inl (membership_reads_as_revocation same))
    | networkInvite invite => exact (membership_not_network_invite same).elim
    | enrollmentInvite invite => exact (versions.mpr trivial).elim
  | humanMembership certificate =>
    cases right with
    | membership other => exact (membership_not_human_membership same.symm).elim
    | humanMembership other =>
      exact .inl (congrArg AuthorityContract.humanMembership (unsigned_determined
        human_membership_delimits leftFits rightFits same rfl))
    | revocation record => exact (revocation_not_human_membership same.symm).elim
    | networkInvite invite => exact .inr (.inl (human_membership_reads_as_invite same))
    | enrollmentInvite invite => exact (versions.mpr trivial).elim
  | revocation record =>
    cases right with
    | membership other => exact .inr (.inr (membership_reads_as_revocation same.symm))
    | humanMembership other => exact (revocation_not_human_membership same).elim
    | revocation other => exact .inl (congrArg AuthorityContract.revocation (unsigned_determined
        revocation_delimits leftFits rightFits same rfl))
    | networkInvite invite => exact (revocation_not_network_invite same).elim
    | enrollmentInvite invite => exact (versions.mpr trivial).elim
  | networkInvite invite =>
    cases right with
    | membership other => exact (membership_not_network_invite same.symm).elim
    | humanMembership other => exact .inr (.inr (human_membership_reads_as_invite same.symm))
    | revocation record => exact (revocation_not_network_invite same.symm).elim
    | networkInvite other =>
      exact .inl (congrArg AuthorityContract.networkInvite (unsigned_determined
        network_invite_delimits ⟨leftFits.count, leftFits.records⟩
        ⟨rightFits.count, rightFits.records⟩ same rfl))
    | enrollmentInvite other => exact (versions.mpr trivial).elim
  | enrollmentInvite invite =>
    cases right with
    | membership | humanMembership | revocation | networkInvite =>
      exact (versions.mp trivial).elim
    | enrollmentInvite other =>
      exact .inl (congrArg AuthorityContract.enrollmentInvite (unsigned_determined
        enrollment_invite_delimits leftFits rightFits same rfl))

/-! A Sister key that makes its membership a revocation of serial 7, and an
authority key under which a human membership is an invite. -/

def doubleNetwork : NetworkId := ⟨Bytes.fill 16 0x11⟩

def revokingKey : PublicKey :=
  ⟨variant 0 ++ u64 7 ++ u64 1700946300 ++ length64 29 ++ utf8 "meow", by decide⟩

def revokingCertificate (signature : Signature) : MembershipCertificate :=
  ⟨doubleNetwork, revokingKey, 12, 1700946272, none, 9, signature⟩

-- The reason is the rest of the certificate, read as text.
def hiddenRevocation (signature : Signature) : RevocationRecord :=
  ⟨doubleNetwork, .sister, 7, 1700946300,
    String.ofList ("meow\x0c".toList ++ List.replicate 7 '\x00' ++ "\x60abe".toList ++
      List.replicate 5 '\x00' ++ '\t' :: List.replicate 7 '\x00'), signature⟩

def invitingHuman : HumanIdentity :=
  ⟨⟨doubleNetwork.uuid⟩, "misaka owner",
    ⟨List.replicate 12 1 ++ length64 0 ++ u64 1700946272 ++ littleEndian 4 1700949872, by decide⟩⟩

def invitingCertificate (signature : Signature) : HumanMembershipCertificate :=
  ⟨doubleNetwork, invitingHuman, .owner, 1700946200, none, 1, signature⟩

def invitingAuthority : NetworkAuthority :=
  ⟨doubleNetwork, ⟨length64 12 ++ utf8 "misaka owner" ++ List.replicate 12 1, by decide⟩⟩

variable (signature : Signature)

def hiddenInvite : NetworkInvite :=
  ⟨doubleNetwork, invitingAuthority, [], 1700946272, 1700949872,
    ⟨u64 1700946200 ++ [0] ++ (u64 1).take 7, by decide⟩, none, signature⟩

theorem revoking_certificate_bytes :
    (revokingCertificate signature).signingBytes = (hiddenRevocation signature).signingBytes := by
  change (revokingCertificate (Bytes.fill 64 0)).signingBytes =
    (hiddenRevocation (Bytes.fill 64 0)).signingBytes
  decide +kernel

theorem inviting_certificate_bytes :
    (invitingCertificate signature).signingBytes = (hiddenInvite signature).signingBytes := by
  change (invitingCertificate (Bytes.fill 64 0)).signingBytes =
    (hiddenInvite (Bytes.fill 64 0)).signingBytes
  decide +kernel

/-- One signature of the authority then verifies for both contracts of a pair. -/
theorem authority_signature_doubles :
    (∃ certificate record, (∀ verifies authority, MembershipCertificate.verify verifies certificate
        authority = RevocationRecord.verify verifies record authority) ∧
      (AuthorityContract.membership certificate).signingBytes =
        (AuthorityContract.revocation record).signingBytes) ∧
    ∃ certificate invite, (AuthorityContract.humanMembership certificate).signingBytes =
      (AuthorityContract.networkInvite invite).signingBytes := by
  let signature : Signature := Bytes.fill 64 0x5a
  constructor
  · refine ⟨revokingCertificate signature, hiddenRevocation signature, ?_,
      revoking_certificate_bytes signature⟩
    intro verifies authority
    simp only [MembershipCertificate.verify, RevocationRecord.verify,
      revoking_certificate_bytes signature]
    rfl
  · exact ⟨invitingCertificate signature, hiddenInvite signature,
      inviting_certificate_bytes signature⟩

theorem revoking_certificate_reads_as_revocation :
    (AuthorityContract.membership (revokingCertificate (Bytes.fill 64 0))).ReadsAs
      (.revocation (hiddenRevocation (Bytes.fill 64 0))) := by
  have fits :
      (AuthorityContract.revocation (hiddenRevocation (Bytes.fill 64 0))).Representable := by
    unfold AuthorityContract.Representable Fits
    decide +kernel
  rcases authority_signing_separated (.membership (revokingCertificate (Bytes.fill 64 0)))
    (.revocation (hiddenRevocation (Bytes.fill 64 0))) trivial fits
    (revoking_certificate_bytes (Bytes.fill 64 0)) with same | reads | reads
  · cases same
  · exact reads
  · cases reads
end Authority

/-! The contracts one Sister key signs. -/

inductive SisterContract where
  | transportBinding (binding : TransportBinding)
  | peerRecord (record : PeerRecord)
  | clientHello (hello : AuthenticatedClientHello)
  | serverHello (hello : AuthenticatedServerHello)
  | enrollmentChallenge (challenge : EnrollmentChallenge)
  | gatewayAuth (auth : GatewayAuth)
  | keyPossession (challenge : KeyPossessionChallenge)
deriving DecidableEq

def SisterContract.signingBytes : SisterContract → List UInt8
  | .transportBinding binding => binding.signingBytes
  | .peerRecord record => record.signingBytes
  | .clientHello hello => hello.signingBytes
  | .serverHello hello => hello.signingBytes
  | .enrollmentChallenge challenge => challenge.signingBytes
  | .gatewayAuth auth => auth.signingBytes
  | .keyPossession challenge => challenge.signingBytes

-- The two challenges are signed whole.
def SisterContract.unsigned : SisterContract → SisterContract
  | .transportBinding binding => .transportBinding binding.unsigned
  | .peerRecord record => .peerRecord record.unsigned
  | .clientHello hello => .clientHello hello.unsigned
  | .serverHello hello => .serverHello hello.unsigned
  | .enrollmentChallenge challenge => .enrollmentChallenge challenge
  | .gatewayAuth auth => .gatewayAuth auth.unsigned
  | .keyPossession challenge => .keyPossession challenge

def SisterContract.Representable : SisterContract → Prop
  | .peerRecord record => RecordFits record
  | _ => True

/-- The type a signed message is of, by its third byte and its length. -/
def layoutType (third : Option UInt8) (length : Nat) : Nat :=
  if third = some 36 then
    if length = 182 then 4 else if length ≤ 495 then 2 else 3
  else
    if length = 76 then 6 else if length = 108 then 5 else if length = 124 then 0 else 1

theorem layout_type_sound (contract : SisterContract) :
    layoutType contract.signingBytes[2]? contract.signingBytes.length = contract.ctorIdx := by
  cases contract with
  | transportBinding binding =>
    have leads : binding.signingBytes[2]? = some 0 := by
      simp only [TransportBinding.signingBytes, List.append_assoc]
      exact network_leads _ _
    rw [SisterContract.signingBytes, leads, binding_signing_length]
    rfl
  | peerRecord record =>
    have leads : record.signingBytes[2]? = some 0 := by
      simp only [PeerRecord.signingBytes, List.append_assoc]
      exact network_leads _ _
    have long : 304 ≤ record.signingBytes.length := by
      simp only [PeerRecord.signingBytes, List.length_append, network_encode_length, u64_length,
        bytes_length, text_length, binding_encode_length]
      omega
    rw [SisterContract.signingBytes, leads, layoutType, if_neg (by decide), if_neg (by omega),
      if_neg (by omega), if_neg (by omega)]
    rfl
  | clientHello hello =>
    have leads : hello.signingBytes[2]? = some 36 := by
      simp only [AuthenticatedClientHello.signingBytes, List.append_assoc]
      exact version_leads _ _ _
    have bounds : 487 ≤ hello.signingBytes.length ∧ hello.signingBytes.length ≤ 495 := by
      simp only [AuthenticatedClientHello.signingBytes, List.length_append, u16_length,
        network_encode_length, u64_length, bytes_length, membership_encode_length,
        binding_encode_length]
      split <;> decide
    rw [SisterContract.signingBytes, leads, layoutType, if_pos rfl, if_neg (by omega),
      if_pos bounds.2]
    rfl
  | serverHello hello =>
    have leads : hello.signingBytes[2]? = some 36 := by
      simp only [AuthenticatedServerHello.signingBytes, List.append_assoc]
      exact version_leads _ _ _
    have long : 519 ≤ hello.signingBytes.length := by
      simp only [AuthenticatedServerHello.signingBytes, List.length_append, u16_length,
        network_encode_length, u64_length, bytes_length, membership_encode_length,
        binding_encode_length]
      split <;> decide
    rw [SisterContract.signingBytes, leads, layoutType, if_pos rfl, if_neg (by omega),
      if_neg (by omega)]
    rfl
  | enrollmentChallenge challenge =>
    have leads : challenge.signingBytes[2]? = some 36 := by
      simp only [EnrollmentChallenge.signingBytes, List.append_assoc]
      exact version_leads _ _ _
    have length : challenge.signingBytes.length = 182 := by
      simp [EnrollmentChallenge.signingBytes]
    rw [SisterContract.signingBytes, leads, length]
    rfl
  | gatewayAuth auth =>
    have leads : auth.signingBytes[2]? = some 0 := by
      simp only [GatewayAuth.signingBytes, List.append_assoc]
      exact network_leads _ _
    have length : auth.signingBytes.length = 108 := by
      simp [GatewayAuth.signingBytes]
    rw [SisterContract.signingBytes, leads, length]
    rfl
  | keyPossession challenge =>
    have leads : challenge.signingBytes[2]? = some 0 := network_leads _ _
    have length : challenge.signingBytes.length = 76 := by
      simp [KeyPossessionChallenge.signingBytes]
    rw [SisterContract.signingBytes, leads, length]
    rfl

theorem sister_signing_separated (left right : SisterContract) (leftFits : left.Representable)
    (rightFits : right.Representable) (same : left.signingBytes = right.signingBytes) :
    left.unsigned = right.unsigned := by
  have types : left.ctorIdx = right.ctorIdx := by
    rw [← layout_type_sound left, same, layout_type_sound right]
  cases left <;> cases right <;> try cases types
  case transportBinding =>
    exact congrArg SisterContract.transportBinding
      (unsigned_determined binding_delimits trivial trivial same rfl)
  case peerRecord =>
    exact congrArg SisterContract.peerRecord
      (unsigned_determined record_delimits leftFits rightFits same rfl)
  case clientHello =>
    exact congrArg SisterContract.clientHello
      (unsigned_determined client_hello_delimits trivial trivial same rfl)
  case serverHello =>
    exact congrArg SisterContract.serverHello
      (unsigned_determined server_hello_delimits trivial trivial same rfl)
  case enrollmentChallenge =>
    exact congrArg SisterContract.enrollmentChallenge (challenge_signing_injective same)
  case gatewayAuth =>
    exact congrArg SisterContract.gatewayAuth
      (unsigned_determined gateway_auth_delimits trivial trivial same rfl)
  case keyPossession =>
    exact congrArg SisterContract.keyPossession
      (delimits_injective possession_delimits trivial trivial same)

def announcedRecord (signature : Signature) : PeerRecord :=
  ⟨doubleNetwork, 5, Bytes.fill 32 5, "iroh-5",
    ⟨doubleNetwork, 5, Bytes.fill 32 5, Bytes.fill 32 6, 1, Bytes.fill 64 7⟩, 1, 1700946272,
    signature⟩

-- A record that is signed again still says the same.
theorem resigned_record_separated :
    (announcedRecord (Bytes.fill 64 1)).signingBytes =
        (announcedRecord (Bytes.fill 64 2)).signingBytes ∧
      (SisterContract.peerRecord (announcedRecord (Bytes.fill 64 1))).unsigned =
        (SisterContract.peerRecord (announcedRecord (Bytes.fill 64 2))).unsigned := by
  have fits : ∀ signature, RecordFits (announcedRecord signature) := by
    intro signature
    change (utf8 "iroh-5").length < 2 ^ 64
    decide
  exact ⟨rfl, sister_signing_separated (.peerRecord (announcedRecord (Bytes.fill 64 1)))
    (.peerRecord (announcedRecord (Bytes.fill 64 2))) (fits _) (fits _) rfl⟩
end Misaka.SigningSeparation
