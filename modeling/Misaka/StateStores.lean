import Misaka.JoinTransaction
import Misaka.JsonReading
import Misaka.StateDirectory

/-!
The stores that create a file where they find none: the identity of a Sister, the
key and descriptor of a Network authority, those of a human operator, and the TLS
identity. The key stores write two files, one after the other, and look at one or
at both of them before they do.
-/

namespace Misaka.StateStores
open Bincode EffectTask FileText Identity JsonText JsonReading StateDirectory
open JoinTransaction (authorityDocument)

inductive Question where
  | uuid
  | hostname
  | secretKey
  | selfSigned (serverName : String)

abbrev Question.Reply : Question → Type
  | .uuid => Bytes 16
  | .hostname => String
  | .secretKey => Bytes 32
  -- A certificate and its private key, both in DER.
  | .selfSigned _ => Except String (List UInt8 × List UInt8)

abbrev StoreTask := StateTask Question.Reply

/-- What the code takes from other crates and from its build. -/
structure StorePlatform where
  hostPlatform : String
  binaryVersion : String
  publicKey : Bytes 32 → PublicKey
  identity : List Char → Except String SisterIdentity
  authority : List Char → Except String NetworkAuthority
  human : List Char → Except String HumanIdentity

section Reading
variable {Err Value : Type}

-- `read_to_string` and `from_str`.
def textOf (io json : String → Err) (decode : List Char → Except String Value)
    (bytes : List UInt8) : Except Err Value :=
  match readText bytes with
  | .ok text => (decode text).mapError json
  | .error error => .error (io error)

def keyOf (invalid : Nat → Err) (bytes : List UInt8) : Except Err (Bytes 32) :=
  if sized : bytes.length = 32 then .ok ⟨bytes, sized⟩ else .error (invalid bytes.length)

theorem text_of_json {print : Value → Document} {io json : String → Err}
    {decode : List Char → Except String Value} {value : Value}
    (reads : decode (jsonText print value).toList = .ok value) :
    textOf io json decode (utf8 (jsonText print value)) = .ok value := by
  simp only [textOf, read_text_utf8, reads, Except.mapError]

theorem key_of_bytes (invalid : Nat → Err) (key : Bytes 32) :
    keyOf invalid key.toList = .ok key := dif_pos key.size_eq
end Reading

/-! `IdentityStore`. -/
section SisterIdentities

inductive IdentityStoreError where
  | noConfigDir
  | io (error : String)
  | json (error : String)

def IdentityStoreError.display : IdentityStoreError → String
  | .noConfigDir => "Config dir not found"
  | .io error => "IO error: " ++ error
  | .json error => "JSON error: " ++ error

def IDENTITY_FILE : String := "identity.json"

def identityDocument (identity : SisterIdentity) : Document :=
  object [
    field "id" (number identity.id.toNat),
    field "nickname" (string identity.nickname),
    field "hostname" (string identity.hostname),
    field "platform" (string identity.platform),
    field "version" (string identity.version),
    field "listen_port" (number identity.listenPort.toNat)]

def identityBytes (identity : SisterIdentity) : List UInt8 :=
  utf8 (jsonText identityDocument identity)

variable (platform : StorePlatform)

def identityOf : List UInt8 → Except IdentityStoreError SisterIdentity :=
  textOf .io .json platform.identity

def generateIdentity (nickname : Option String) (listenPort : UInt16) :
    StoreTask IdentityStoreError SisterIdentity := do
  let uuid ← ask Question.uuid
  let hostname ← ask Question.hostname
  let id := UInt64.ofNat (ofBigEndian (uuid.toList.take 8))
  pure {
    id := id
    nickname := (nickname.filter (· ≠ "")).getD ("misaka-" ++ toString (id % 100000))
    hostname := hostname
    platform := platform.hostPlatform
    version := platform.binaryVersion
    listenPort := listenPort }

def saveIdentity (identity : SisterIdentity) : StoreTask IdentityStoreError Unit := do
  createDir .io
  writeFile IDENTITY_FILE (identityBytes identity) .io

def loadIdentity : StoreTask IdentityStoreError (Option SisterIdentity) :=
  loadFile IDENTITY_FILE .io (identityOf platform)

-- A new nickname is saved before the port is.
def loadOrInitIdentity (nickname : Option String) (listenPort : UInt16) :
    StoreTask IdentityStoreError SisterIdentity := do
  let existing ← loadIdentity platform
  match existing with
  | some existing => do
      let named ← (match nickname with
        | some nick => do
            let named := { existing with nickname := nick }
            saveIdentity named
            pure named
        | none => pure existing)
      let updated := { named with listenPort := listenPort }
      saveIdentity updated
      pure updated
  | none => do
      let fresh ← generateIdentity platform nickname listenPort
      saveIdentity fresh
      pure fresh

def updateNickname (nickname : String) : StoreTask IdentityStoreError SisterIdentity := do
  let existing ← loadIdentity platform
  let identity ← orFail existing .noConfigDir
  let named := { identity with nickname := nickname }
  saveIdentity named
  pure named
end SisterIdentities

/-! `NetworkAuthorityStore`. -/
section Authorities

inductive AuthorityStoreError where
  | io (error : String)
  | json (error : String)
  | invalidKeyLength (length : Nat)
  | keyMismatch

def AuthorityStoreError.display : AuthorityStoreError → String
  | .io error => "Network authority I/O error: " ++ error
  | .json error => "invalid Network authority descriptor: " ++ error
  | .invalidKeyLength length =>
    "Network authority key must be exactly 32 bytes, got " ++ toString length
  | .keyMismatch => "Network authority descriptor and private key are inconsistent"

def AUTHORITY_FILE : String := "network.json"

def AUTHORITY_KEY_FILE : String := "network-authority-key"

def authorityBytes (authority : NetworkAuthority) : List UInt8 :=
  utf8 (jsonText authorityDocument authority)

variable (platform : StorePlatform)

def authorityOf : List UInt8 → Except AuthorityStoreError NetworkAuthority :=
  textOf .io .json platform.authority

def loadAuthority : StoreTask AuthorityStoreError (Option NetworkAuthority) :=
  loadFile AUTHORITY_FILE .io (authorityOf platform)

def loadAuthorityKey : StoreTask AuthorityStoreError (Option (Bytes 32)) :=
  loadFile AUTHORITY_KEY_FILE .io (keyOf .invalidKeyLength)

variable (networkId : Option NetworkId)

def drawNetworkId : StoreTask AuthorityStoreError NetworkId :=
  match networkId with
  | some networkId => pure networkId
  | none => do
      let uuid ← ask Question.uuid
      pure ⟨uuid⟩

-- Only the descriptor is looked at; the key is written first.
def initAuthority :
    StoreTask AuthorityStoreError NetworkAuthority := do
  let existing ← loadAuthority platform
  match existing with
  | some existing => pure existing
  | none => do
      createDir .io
      let networkId ← drawNetworkId networkId
      let key ← ask Question.secretKey
      let authority : NetworkAuthority := ⟨networkId, platform.publicKey key⟩
      writeFile AUTHORITY_KEY_FILE key.toList .io
      writeFile AUTHORITY_FILE (authorityBytes authority) .io
      pure authority
end Authorities

/-! `HumanIdentityStore`. -/
section Humans

inductive HumanStoreError where
  | io (error : String)
  | json (error : String)
  | invalidKeyLength (length : Nat)
  | keyMismatch

def HumanStoreError.display : HumanStoreError → String
  | .io error => "human identity I/O error: " ++ error
  | .json error => "invalid human identity descriptor: " ++ error
  | .invalidKeyLength length =>
    "human identity key must be exactly 32 bytes, got " ++ toString length
  | .keyMismatch => "human identity descriptor and private key are inconsistent"

def HUMAN_FILE : String := "human-identity.json"

def HUMAN_KEY_FILE : String := "human-identity-key"

def humanDocument (human : HumanIdentity) : Document :=
  object [
    field "id" (string (uuidText human.id.uuid)),
    field "display_name" (string human.displayName),
    field "public_key" (byteArray human.publicKey.toList)]

def humanBytes (human : HumanIdentity) : List UInt8 := utf8 (jsonText humanDocument human)

variable (platform : StorePlatform)

def humanOf : List UInt8 → Except HumanStoreError HumanIdentity :=
  textOf .io .json platform.human

def loadHuman : StoreTask HumanStoreError (Option HumanIdentity) :=
  loadFile HUMAN_FILE .io (humanOf platform)

def loadHumanKey : StoreTask HumanStoreError (Option (Bytes 32)) :=
  loadFile HUMAN_KEY_FILE .io (keyOf .invalidKeyLength)

def loadHumanWithKey : StoreTask HumanStoreError (Option (HumanIdentity × Bytes 32)) := do
  let identity ← loadHuman platform
  match identity with
  | none => pure none
  | some identity => do
      let key ← loadHumanKey
      match key with
      | none => pure none
      | some key => do
          ensure (platform.publicKey key = identity.publicKey) .keyMismatch
          pure (some (identity, key))

-- One file without the other is refused.
def loadOrInitHuman (displayName : Option String) :
    StoreTask HumanStoreError (HumanIdentity × Bytes 32) := do
  let existing ← loadHumanWithKey platform
  match existing with
  | some existing => pure existing
  | none => do
      let described ← fileExists HUMAN_FILE
      let keyed ← fileExists HUMAN_KEY_FILE
      ensure (!(described || keyed)) .keyMismatch
      createDir .io
      let key ← ask Question.secretKey
      let uuid ← ask Question.uuid
      let identity : HumanIdentity :=
        ⟨⟨uuid⟩, (displayName.filter (· ≠ "")).getD "misaka operator", platform.publicKey key⟩
      writeFile HUMAN_KEY_FILE key.toList .io
      writeFile HUMAN_FILE (humanBytes identity) .io
      pure (identity, key)
end Humans

/-! `TlsIdentityStore`. -/

inductive TlsStoreError where
  | io (error : String)
  | generate (error : String)

def TlsStoreError.display : TlsStoreError → String
  | .io error => "TLS identity I/O error: " ++ error
  | .generate error => "TLS identity generation failed: " ++ error

def CERTIFICATE_FILE : String := "stream-cert.der"

def TLS_KEY_FILE : String := "stream-key.der"

def halfThere : TlsStoreError :=
  .io "TLS certificate and private key must either both exist or both be absent"

def loadTls : StoreTask TlsStoreError (Option (List UInt8 × List UInt8)) := do
  let certified ← fileExists CERTIFICATE_FILE
  let keyed ← fileExists TLS_KEY_FILE
  match certified, keyed with
  | true, true => do
      let certificate ← readFile CERTIFICATE_FILE .io
      let key ← readFile TLS_KEY_FILE .io
      pure (some (certificate, key))
  | false, false => pure none
  | _, _ => .fail halfThere

-- Here the certificate is written first.
def loadOrInitTls (serverName : String) : StoreTask TlsStoreError (List UInt8 × List UInt8) := do
  let certified ← fileExists CERTIFICATE_FILE
  let keyed ← fileExists TLS_KEY_FILE
  match certified, keyed with
  | true, true => do
      let existing ← loadTls
      orFail existing (.io "TLS identity files disappeared while loading")
  | false, false => do
      createDir .io
      let generated ← ask (Question.selfSigned serverName)
      let (certificate, key) ← orError .generate generated
      writeFile CERTIFICATE_FILE certificate .io
      writeFile TLS_KEY_FILE key .io
      pure (certificate, key)
  | _, _ => .fail halfThere
end Misaka.StateStores
