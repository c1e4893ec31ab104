import Misaka.AuthorizationStores
import Misaka.JsonText
import Misaka.SigningSeparation

/-!
The file of revocations over its whole life: records are appended, others put
records into it, and a save may be cut short. serde_json's reader is a parameter
`decode`; what it is assumed to do is to read back what was written, and to
accept nothing that is not a whole JSON document.
-/

namespace Misaka.RevocationHistory
open Bincode FileText Identity JsonText AuthorizationStores SigningSeparation UniqueDecoding

/-! The text. -/

def kindText : MembershipKind → String
  | .sister => "Sister"
  | .human => "Human"

def recordDocument (record : RevocationRecord) : Document :=
  object [
    field "network_id" (string record.networkId.display),
    field "membership_kind" (string (kindText record.membershipKind)),
    field "membership_serial" (number record.membershipSerial.toNat),
    field "revoked_at" (number record.revokedAt.toNat),
    field "reason" (string record.reason),
    field "authority_signature" (byteArray record.authoritySignature.toList)]

def recordsText (records : List RevocationRecord) : String :=
  String.ofList (array (records.map recordDocument) 0)

theorem record_encloses (record : RevocationRecord) (indent : Nat) :
    Encloses (recordDocument record indent) := by
  apply object_encloses
  intro item member
  simp only [List.mem_cons, List.not_mem_nil, or_false] at member
  rcases member with rfl | rfl | rfl | rfl | rfl | rfl
  · exact field_encloses _ (string_encloses _)
  · exact field_encloses _ (string_encloses _)
  · exact field_encloses _ (number_encloses _)
  · exact field_encloses _ (number_encloses _)
  · exact field_encloses _ (string_encloses _)
  · exact field_encloses _ (byte_array_encloses _)

theorem records_enclose {records : List RevocationRecord} {item : Document}
    (member : item ∈ records.map recordDocument) (indent : Nat) : Encloses (item indent) := by
  obtain ⟨record, _, rfl⟩ := List.mem_map.mp member
  exact record_encloses record indent

/-! The store. -/
section Store
variable (decode : List Char → Except String (List RevocationRecord))
variable (verifies : SignatureCheck) (authority : NetworkAuthority)

abbrev RevocationFile := Option (List UInt8)

def load : RevocationFile → Except RevocationStoreError (List RevocationRecord)
  | none => .ok []
  | some bytes =>
    match readText bytes with
    | .ok text => (decode text).mapError .json
    | .error error => .error (.io error)

def save (records : List RevocationRecord) : RevocationFile := some (utf8 (recordsText records))

def SameMembership (left right : RevocationRecord) : Prop :=
  left.networkId = right.networkId ∧ left.membershipKind = right.membershipKind ∧
    left.membershipSerial = right.membershipSerial

instance (left right : RevocationRecord) : Decidable (SameMembership left right) :=
  inferInstanceAs (Decidable (_ ∧ _ ∧ _))

def append (file : RevocationFile) (record : RevocationRecord) :
    Except RevocationStoreError Unit × RevocationFile :=
  if record.verify verifies authority then
    match load decode file with
    | .ok records =>
      if records.any fun existing => SameMembership existing record then (.ok (), file)
      else (.ok (), save (records ++ [record]))
    | .error error => (.error error, file)
  else (.error .invalidSignature, file)

def isRevokedFile (file : RevocationFile) (network : NetworkId) (kind : MembershipKind)
    (serial : UInt64) : Except RevocationStoreError Bool :=
  match load decode file with
  | .ok records => isRevoked verifies authority network kind serial records
  | .error error => .error error

/-- `from_str` accepts whole JSON documents only. -/
def AcceptsDocuments : Prop := ∀ text records, decode text = .ok records → Complete text

-- `from_str` reads back what an append to this file writes.
def ReadsBack (file : RevocationFile) (record : RevocationRecord) : Prop :=
  ∀ records, load decode file = .ok records →
    decode (recordsText (records ++ [record])).toList = .ok (records ++ [record])

/-- What may happen to the file: an append, somebody else's edit that leaves the
records that are there, and a save that stops before its end. -/
inductive RevocationStep : RevocationFile → RevocationFile → Prop where
  | appended (file : RevocationFile) (record : RevocationRecord)
      (reads : ReadsBack decode file record) :
      RevocationStep file (append decode verifies authority file record).2
  | placed {file : RevocationFile} {bytes : List UInt8} {records : List RevocationRecord}
      (before : load decode file = .ok records)
      (kept : ∀ more, load decode (some bytes) = .ok more → records ⊆ more) :
      RevocationStep file (some bytes)
  | cut (file : RevocationFile) (records : List RevocationRecord) {bytes : List UInt8}
      (part : bytes <+: utf8 (recordsText records)) (short : bytes ≠ utf8 (recordsText records)) :
      RevocationStep file (some bytes)
end Store

section Histories
variable {decode : List Char → Except String (List RevocationRecord)}
variable {verifies : SignatureCheck} {authority : NetworkAuthority}
variable {file after : RevocationFile} {record : RevocationRecord}

/-- If the file can be read at all, it names the membership. -/
def Names (decode : List Char → Except String (List RevocationRecord)) (file : RevocationFile)
    (record : RevocationRecord) : Prop :=
  ∀ records, load decode file = .ok records →
    ∃ existing ∈ records, SameMembership existing record

theorem load_saved {records : List RevocationRecord}
    (reads : decode (recordsText records).toList = .ok records) :
    load decode (save records) = .ok records := by
  simp only [load, save, read_text_utf8, reads]
  rfl

/-- A save that stopped cannot be read. -/
theorem load_cut (documents : AcceptsDocuments decode) {records found : List RevocationRecord}
    {bytes : List UInt8} (part : bytes <+: utf8 (recordsText records))
    (short : bytes ≠ utf8 (recordsText records)) : load decode (some bytes) ≠ .ok found := by
  intro loaded
  simp only [load] at loaded
  split at loaded
  · rename_i text read
    have unread := array_cut_unread documents (fun _ => records_enclose) part short read
    cases outcome : decode text with
    | ok value => exact unread value outcome
    | error error =>
      rw [outcome] at loaded
      cases loaded
  · cases loaded

theorem append_keeps (reads : ReadsBack decode file record) {known : RevocationRecord}
    (names : Names decode file known) :
    Names decode (append decode verifies authority file record).2 known := by
  unfold append
  split
  · split
    · rename_i records loaded
      split
      · exact names
      · intro found again
        obtain rfl := Except.ok.inj ((load_saved (reads records loaded)).symm.trans again)
        obtain ⟨existing, member, same⟩ := names records loaded
        exact ⟨existing, List.mem_append_left _ member, same⟩
    · exact names
  · exact names

theorem append_names (reads : ReadsBack decode file record)
    (appended : append decode verifies authority file record = (.ok (), after)) :
    Names decode after record := by
  unfold append at appended
  split at appended
  · split at appended
    · rename_i records loaded
      split at appended
      · rename_i listed
        obtain rfl := (Prod.mk.inj appended).2
        intro found again
        obtain rfl := Except.ok.inj (loaded.symm.trans again)
        obtain ⟨existing, member, same⟩ := List.any_eq_true.mp listed
        exact ⟨existing, member, of_decide_eq_true same⟩
      · obtain rfl := (Prod.mk.inj appended).2
        intro found again
        obtain rfl := Except.ok.inj ((load_saved (reads records loaded)).symm.trans again)
        exact ⟨record, List.mem_append_right _ (List.mem_singleton.mpr rfl), rfl, rfl, rfl⟩
    · cases (Prod.mk.inj appended).1
  · cases (Prod.mk.inj appended).1

theorem step_keeps (documents : AcceptsDocuments decode) (names : Names decode file record)
    (step : RevocationStep decode verifies authority file after) : Names decode after record := by
  cases step with
  | appended other reads => exact append_keeps reads names
  | placed before kept =>
    intro found loaded
    obtain ⟨existing, member, same⟩ := names _ before
    exact ⟨existing, kept found loaded member, same⟩
  | cut records part short =>
    intro found loaded
    exact absurd loaded (load_cut documents part short)

theorem history_keeps (documents : AcceptsDocuments decode) (names : Names decode file record)
    (history : Relation.ReflTransGen (RevocationStep decode verifies authority) file after) :
    Names decode after record := by
  induction history with
  | refl => exact names
  | tail _ step ih => exact step_keeps documents ih step

theorem named_never_unrevoked (names : Names decode file record) :
    isRevokedFile decode verifies authority file record.networkId record.membershipKind
      record.membershipSerial ≠ .ok false := by
  intro answer
  unfold isRevokedFile at answer
  split at answer
  · rename_i records loaded
    obtain ⟨existing, member, network, kind, serial⟩ := names records loaded
    exact is_revoked_false_sound verifies records answer existing member network kind serial
  · cases answer

theorem is_revoked_true_sound {network : NetworkId} {kind : MembershipKind} {serial : UInt64}
    (records : List RevocationRecord)
    (answer : isRevoked verifies authority network kind serial records = .ok true) :
    ∃ record ∈ records, record.networkId = network ∧ record.membershipKind = kind ∧
      record.membershipSerial = serial ∧ record.verify verifies authority = true := by
  induction records with
  | nil => cases answer
  | cons first rest ih =>
    rw [isRevoked] at answer
    have later : isRevoked verifies authority network kind serial rest = .ok true →
        ∃ record ∈ first :: rest, record.networkId = network ∧ record.membershipKind = kind ∧
          record.membershipSerial = serial ∧ record.verify verifies authority = true := by
      intro answer
      obtain ⟨record, member, facts⟩ := ih answer
      exact ⟨record, List.mem_cons_of_mem _ member, facts⟩
    split at answer
    · exact later answer
    · rename_i here
      split at answer
      · cases answer
      · rename_i verified
        split at answer
        · rename_i matches_
          simp only [Bool.and_eq_true, decide_eq_true_eq] at matches_
          exact ⟨first, List.mem_cons_self, not_not.mp here, matches_.1, matches_.2,
            by simpa using verified⟩
        · exact later answer

/-- The signed bytes of a revocation determine the membership it revokes. -/
theorem signed_membership {left right : RevocationRecord}
    (same : left.signingBytes = right.signingBytes) : SameMembership left right := by
  simp only [RevocationRecord.signingBytes, List.append_assoc] at same
  obtain ⟨networks, same⟩ := delimited network_delimits same
  obtain ⟨kinds, same⟩ := delimited kind_delimits same
  obtain ⟨serials, _⟩ := delimited u64_delimits same
  exact ⟨networks, kinds, serials⟩

/-- Once an append succeeded, the membership is never again reported as not
revoked; and a membership is reported as revoked only by a record of its own that
the authority signed. -/
theorem revocation_holds (documents : AcceptsDocuments decode)
    {signed : PublicKey → List UInt8 → Prop} (unforgeable : Unforgeable verifies signed) :
    (∀ file record after later, ReadsBack decode file record →
      append decode verifies authority file record = (.ok (), after) →
      Relation.ReflTransGen (RevocationStep decode verifies authority) after later →
      isRevokedFile decode verifies authority later record.networkId record.membershipKind
        record.membershipSerial ≠ .ok false) ∧
    (∀ file network kind serial,
      isRevokedFile decode verifies authority file network kind serial = .ok true →
      ∃ records, load decode file = .ok records ∧ ∃ record ∈ records,
        record.networkId = network ∧ record.membershipKind = kind ∧
        record.membershipSerial = serial ∧
        signed authority.authorityPublicKey record.signingBytes ∧
        ∀ other : RevocationRecord, other.signingBytes = record.signingBytes →
          SameMembership other record) := by
  constructor
  · intro file record after later reads appended history
    exact named_never_unrevoked (history_keeps documents (append_names reads appended) history)
  · intro file network kind serial answer
    unfold isRevokedFile at answer
    split at answer
    · rename_i records loaded
      obtain ⟨record, member, networks, kinds, serials, verified⟩ :=
        is_revoked_true_sound records answer
      refine ⟨records, loaded, record, member, networks, kinds, serials, ?_, ?_⟩
      · rw [RevocationRecord.verify, Bool.and_eq_true] at verified
        exact unforgeable _ _ _ verified.2
      · exact fun other same => signed_membership same
    · cases answer
end Histories

/-! One revocation, and a save that stopped when it had emptied the file. -/

def sampleAuthority : NetworkAuthority := ⟨⟨Bytes.fill 16 1⟩, Bytes.fill 32 2⟩

def sampleRecord : RevocationRecord :=
  ⟨sampleAuthority.networkId, .sister, 9, 100, "retired", Bytes.fill 64 5⟩

def sampleDecode (text : List Char) : Except String (List RevocationRecord) :=
  if text = (recordsText [sampleRecord]).toList then .ok [sampleRecord]
  else .error "EOF while parsing a list"

def sampleSigned (key : PublicKey) (message : List UInt8) : Prop :=
  key = sampleAuthority.authorityPublicKey ∧ message = sampleRecord.signingBytes

def sampleVerifies : SignatureCheck := fun key message signature =>
  key = sampleAuthority.authorityPublicKey ∧ message = sampleRecord.signingBytes ∧
    signature = sampleRecord.authoritySignature

theorem sample_documents : AcceptsDocuments sampleDecode := by
  intro text records accepted
  unfold sampleDecode at accepted
  split at accepted
  · rename_i written
    rw [written, recordsText, String.toList_ofList]
    exact array_complete fun _ => records_enclose
  · cases accepted

theorem sample_unforgeable : Unforgeable sampleVerifies sampleSigned := by
  intro key message signature verified
  obtain ⟨same, bytes, _⟩ := of_decide_eq_true verified
  exact ⟨same, bytes⟩

theorem sample_verified : sampleRecord.verify sampleVerifies sampleAuthority = true := by
  simp [RevocationRecord.verify, sampleVerifies, sampleRecord]

theorem sample_reads : ReadsBack sampleDecode none sampleRecord := by
  rintro records ⟨⟩
  exact if_pos rfl

theorem sample_appended : append sampleDecode sampleVerifies sampleAuthority none sampleRecord =
    (.ok (), save [sampleRecord]) := by
  simp [append, sample_verified, load]

theorem sample_cut : RevocationStep sampleDecode sampleVerifies sampleAuthority
    (save [sampleRecord]) (some []) := by
  apply RevocationStep.cut _ [sampleRecord] List.nil_prefix
  simp [utf8, recordsText, array, bracketed]

theorem sample_revocation_holds :
    isRevokedFile sampleDecode sampleVerifies sampleAuthority (some []) sampleAuthority.networkId
      .sister 9 ≠ .ok false :=
  (revocation_holds sample_documents sample_unforgeable).1 none sampleRecord _ _ sample_reads
    sample_appended (.single sample_cut)
end Misaka.RevocationHistory
