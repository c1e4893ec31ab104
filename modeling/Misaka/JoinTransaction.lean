import Misaka.EffectTask
import Misaka.EnrollmentContracts
import Misaka.JsonText

/-!
The installation of a joined Network. Every artifact is written into a staging
directory first, read back and checked, and only then renamed into place. The
task below is the code; the disk it runs on may fail any operation and may be
left at any point, and a rename is atomic. The name of the staging directory is
drawn at random and is an input of the model.
-/

namespace Misaka.JoinTransaction
open Bincode EffectTask EnrollmentContracts FileText Identity JsonText

inductive Artifact where
  | networkId | networkJson | membershipBin | peerRecords | gateways
deriving DecidableEq

inductive Place where
  | dataDir
  | staging (uuid : Bytes 16)
deriving DecidableEq

inductive JoinOp where
  | createDir (place : Place)
  | fileExists (place : Place) (name : Artifact)
  | readFile (place : Place) (name : Artifact)
  | writeFile (place : Place) (name : Artifact) (bytes : List UInt8)
  | rename (source target : Place) (name : Artifact)
  | removeDir (place : Place)

abbrev JoinOp.Result : JoinOp → Type
  | .createDir _ => Except String Unit
  | .fileExists _ _ => Bool
  | .readFile _ _ => Except String (List UInt8)
  | .writeFile _ _ _ => Except String Unit
  | .rename _ _ _ => Except String Unit
  | .removeDir _ => Except String Unit

def JoinOp.isRename : JoinOp → Bool
  | .rename _ _ _ => true
  | _ => false

abbrev JoinTask := Task JoinOp JoinOp.Result

/-! The errors of the stores, with their texts. -/

inductive NetworkIdStoreError where
  | io (error : String)
  | invalid (reason : String)
  | mismatch (requested persisted : NetworkId)

def NetworkIdStoreError.display : NetworkIdStoreError → String
  | .io error => "NetworkId I/O error: " ++ error
  | .invalid reason => "invalid persisted NetworkId: " ++ reason
  | .mismatch requested persisted =>
    "requested NetworkId " ++ requested.display ++ " does not match persisted NetworkId " ++
      persisted.display

inductive NetworkAuthorityStoreError where
  | io (error : String)
  | json (error : String)
  | descriptorMismatch

def NetworkAuthorityStoreError.display : NetworkAuthorityStoreError → String
  | .io error => "Network authority I/O error: " ++ error
  | .json error => "invalid Network authority descriptor: " ++ error
  | .descriptorMismatch =>
    "cannot install a different Network authority over an existing descriptor"

inductive MembershipStoreError where
  | io (error : String)
  | codec (error : String)

def MembershipStoreError.display : MembershipStoreError → String
  | .io error => "membership I/O error: " ++ error
  | .codec error => "invalid membership certificate: " ++ error

inductive JoinError where
  | io (error : String)
  | store (error : String)
  | conflict (reason : String)
  | verification (reason : String)

/-- What the code takes from other crates: the Ed25519 check, the parser of UUIDs,
and the readers of serde_json and bincode. -/
structure JoinPlatform where
  verifies : SignatureCheck
  parseNetworkId : List Char → Except String NetworkId
  authority : List Char → Except String NetworkAuthority
  membership : List UInt8 → Except String MembershipCertificate

structure NetworkInstall where
  bundle : EnrollmentBundle
  gateways : Option (List String)

def NetworkInstall.networkId (install : NetworkInstall) : NetworkId :=
  install.bundle.authority.networkId

/-! The texts of the files. -/

def authorityDocument (authority : NetworkAuthority) : Document :=
  object [
    field "network_id" (string authority.networkId.display),
    field "authority_public_key" (byteArray authority.authorityPublicKey.toList)]

def bindingDocument (binding : TransportBinding) : Document :=
  object [
    field "network_id" (string binding.networkId.display),
    field "sister_id" (number binding.sisterId.toNat),
    field "sister_public_key" (byteArray binding.sisterPublicKey.toList),
    field "iroh_endpoint_id" (byteArray binding.irohEndpointId.toList),
    field "sequence" (number binding.sequence.toNat),
    field "signature_by_sister_key" (byteArray binding.signatureBySisterKey.toList)]

def peerRecordDocument (record : PeerRecord) : Document :=
  object [
    field "network_id" (string record.networkId.display),
    field "sister_id" (number record.sisterId.toNat),
    field "sister_public_key" (byteArray record.sisterPublicKey.toList),
    field "endpoint_addr" (string record.endpointAddr),
    field "transport_binding" (bindingDocument record.transportBinding),
    field "sequence" (number record.sequence.toNat),
    field "updated_at" (number record.updatedAt.toNat),
    field "sister_signature" (byteArray record.sisterSignature.toList)]

def authorityJson (authority : NetworkAuthority) : String :=
  String.ofList (authorityDocument authority 0)

def recordsJson (records : List PeerRecord) : String :=
  String.ofList (array (records.map peerRecordDocument) 0)

def gatewaysJson (gateways : List String) : String :=
  String.ofList (array (gateways.map string) 0)

/-! The stores. -/
section Stores
variable (platform : JoinPlatform) {Err Value : Type}

def load (place : Place) (name : Artifact) (io : String → Err)
    (decode : List UInt8 → Except Err Value) : JoinTask Err (Option Value) := do
  let present ← perform (.fileExists place name)
  if present then do
    let content ← perform (.readFile place name)
    let bytes ← orError io content
    let value ← ofExcept (decode bytes)
    pure (some value)
  else pure none

def save (place : Place) (name : Artifact) (io : String → Err) (bytes : List UInt8) :
    JoinTask Err Unit := do
  let made ← perform (.createDir place)
  orError io made
  let written ← perform (.writeFile place name bytes)
  orError io written

variable (bytes : List UInt8)

def networkIdOf : Except NetworkIdStoreError NetworkId :=
  match readText bytes with
  | .ok text =>
    if trim text = [] then .error (.invalid "value is empty")
    else (platform.parseNetworkId (trim text)).mapError .invalid
  | .error error => .error (.io error)

def authorityOf : Except NetworkAuthorityStoreError NetworkAuthority :=
  match readText bytes with
  | .ok text => (platform.authority text).mapError .json
  | .error error => .error (.io error)

def membershipOf : Except MembershipStoreError MembershipCertificate :=
  (platform.membership bytes).mapError .codec

variable (place : Place)

def loadNetworkId : JoinTask NetworkIdStoreError (Option NetworkId) :=
  load place .networkId .io (networkIdOf platform)

def loadAuthority :
    JoinTask NetworkAuthorityStoreError (Option NetworkAuthority) :=
  load place .networkJson .io (authorityOf platform)

def loadMembership :
    JoinTask MembershipStoreError (Option MembershipCertificate) :=
  load place .membershipBin .io (membershipOf platform)

-- `load_or_init` with a requested id.
def loadOrInitNetworkId (requested : NetworkId) :
    JoinTask NetworkIdStoreError NetworkId := do
  let persisted ← loadNetworkId platform place
  match persisted with
  | some persisted =>
    if requested = persisted then pure persisted
    else .fail (.mismatch requested persisted)
  | none => do
      save place .networkId .io (utf8 requested.display)
      pure requested

def installDescriptor (authority : NetworkAuthority) :
    JoinTask NetworkAuthorityStoreError Unit := do
  let existing ← loadAuthority platform place
  match existing with
  | some existing => ensure (existing = authority) .descriptorMismatch
  | none => save place .networkJson .io (utf8 (authorityJson authority))

def saveMembership (membership : MembershipCertificate) :
    JoinTask MembershipStoreError Unit :=
  save place .membershipBin .io membership.encode

def insertRecord (record : PeerRecord) : List PeerRecord → List PeerRecord
  | [] => [record]
  | first :: rest =>
    if record.sisterId < first.sisterId then record :: first :: rest
    else if record.sisterId = first.sisterId then record :: rest
    else first :: insertRecord record rest

-- A map by id, where a later record replaces an earlier one, written in order of ids.
def recordMap (records : List PeerRecord) : List PeerRecord :=
  records.foldl (fun map record => insertRecord record map) []

def saveRecords (place : Place) (records : List PeerRecord) : JoinTask String Unit :=
  save place .peerRecords id (utf8 (recordsJson records))

def saveGateways (place : Place) (gateways : List String) : JoinTask String Unit :=
  save place .gateways id (utf8 (gatewaysJson gateways))
end Stores

/-! The transaction. -/
section Transaction
variable (platform : JoinPlatform)

-- Whatever is there already must belong to this Network.
def refuse {Value : Type} (existing : Option Value) (same : Value → Bool)
    (error : Value → JoinError) : JoinTask JoinError Unit :=
  match existing with
  | some existing => ensure (same existing) (error existing)
  | none => pure ()

def guardExistingNetwork (networkId : NetworkId) : JoinTask JoinError Unit := do
  let existing ← mapError (fun error => .store error.display) (loadNetworkId platform .dataDir)
  refuse existing (fun existing => existing = networkId) fun existing => .conflict
    ("persisted NetworkId " ++ existing.display ++ " != " ++ networkId.display)
  let existing ← mapError (fun error => .store error.display) (loadAuthority platform .dataDir)
  refuse existing (fun existing => existing.networkId = networkId) fun _ =>
    .conflict "an authority descriptor for a different Network is installed"

variable (staging : Place)

def stageGateways (gateways : Option (List String)) (staged : List Artifact) :
    JoinTask JoinError (List Artifact) :=
  match gateways with
  | some gateways => do
      mapError .io (saveGateways staging gateways)
      pure (staged ++ [.gateways])
  | none => pure staged

def stageAndValidate (install : NetworkInstall) :
    JoinTask JoinError (List Artifact) := do
  let _ ← mapError (fun error => .store error.display)
    (loadOrInitNetworkId platform staging install.networkId)
  mapError (fun error => .store error.display)
    (installDescriptor platform staging install.bundle.authority)
  mapError (fun error => .store error.display) (saveMembership staging install.bundle.membership)
  mapError .io (saveRecords staging (recordMap install.bundle.bootstrapRecords))
  let staged ← stageGateways staging install.gateways
    [.networkId, .networkJson, .membershipBin, .peerRecords]
  let reloaded ← mapError (fun error => .store error.display) (loadAuthority platform staging)
  let authority ← orFail reloaded (.verification "descriptor missing after stage")
  let reloaded ← mapError (fun error => .store error.display) (loadMembership platform staging)
  let membership ← orFail reloaded (.verification "membership missing after stage")
  ensure (membership = install.bundle.membership ∧ membership.verify platform.verifies authority ∧
      authority = install.bundle.authority)
    (.verification "staged membership does not match the staged authority")
  pure staged

def commitStaged (staged : List Artifact) : JoinTask String Unit := do
  forEach staged fun name => do
    let renamed ← perform (.rename staging .dataDir name)
    orError id renamed
  let _ ← perform (.removeDir staging)
  pure ()

def install (input : NetworkInstall) (uuid : Bytes 16) : JoinTask JoinError Unit := do
  let made ← perform (.createDir .dataDir)
  orError .io made
  guardExistingNetwork platform input.networkId
  let made ← perform (.createDir (.staging uuid))
  orError .io made
  let outcome ← attempt do
    let staged ← stageAndValidate platform (.staging uuid) input
    mapError .io (commitStaged (.staging uuid) staged)
  match outcome with
  | .ok () => pure ()
  | .error error => do
      let _ ← perform (.removeDir (.staging uuid))
      .fail error
end Transaction

/-! The disk. -/

abbrev Disk := Place → Artifact → Option (List UInt8)

def put (disk : Disk) (place : Place) (name : Artifact) (content : Option (List UInt8)) : Disk :=
  fun at_ named => if at_ = place ∧ named = name then content else disk at_ named

/-- One operation. Where operations may fail, a failed write leaves anything in
its file; removing a directory may always stop half way. -/
def JoinStep (mayFail : Prop) (disk : Disk) : (op : JoinOp) → op.Result → Disk → Prop
  | .createDir _, .ok (), after => after = disk
  | .createDir _, .error _, after => after = disk ∧ mayFail
  | .fileExists place name, present, after => after = disk ∧ present = (disk place name).isSome
  | .readFile place name, .ok bytes, after => after = disk ∧ disk place name = some bytes
  | .readFile place name, .error _, after => after = disk ∧ (disk place name = none ∨ mayFail)
  | .writeFile place name bytes, .ok (), after => after = put disk place name (some bytes)
  | .writeFile place name _, .error _, after =>
    (∃ left, after = put disk place name left) ∧ mayFail
  | .rename source target name, .ok (), after => ∃ bytes, disk source name = some bytes ∧
      after = put (put disk source name none) target name (some bytes)
  | .rename source _ name, .error _, after => after = disk ∧ (disk source name = none ∨ mayFail)
  | .removeDir place, _, after => ∀ other name, other ≠ place → after other name = disk other name

/-- A disk on which nothing goes wrong. -/
def answer (disk : Disk) : (op : JoinOp) → op.Result × Disk
  | .createDir _ => (.ok (), disk)
  | .fileExists place name => ((disk place name).isSome, disk)
  | .readFile place name =>
    match disk place name with
    | some bytes => (.ok bytes, disk)
    | none => (.error "No such file or directory (os error 2)", disk)
  | .writeFile place name bytes => (.ok (), put disk place name (some bytes))
  | .rename source target name =>
    match disk source name with
    | some bytes => (.ok (), put (put disk source name none) target name (some bytes))
    | none => (.error "No such file or directory (os error 2)", disk)
  | .removeDir place =>
    (.ok (), fun other name => if other = place then none else disk other name)

theorem answer_answers (mayFail : Prop) : Answers answer (JoinStep mayFail) := by
  intro disk op
  cases op with
  | createDir place => rfl
  | fileExists place name => exact ⟨rfl, rfl⟩
  | readFile place name =>
    simp only [answer]
    cases content : disk place name with
    | some bytes => exact ⟨rfl, content⟩
    | none => exact ⟨rfl, .inl content⟩
  | writeFile place name bytes => rfl
  | rename source target name =>
    simp only [answer]
    cases content : disk source name with
    | some bytes => exact ⟨bytes, content, rfl⟩
    | none => exact ⟨rfl, .inl content⟩
  | removeDir place =>
    intro other name different
    exact if_neg different
end Misaka.JoinTransaction
