import Misaka.Identity

/-!
The three files of a data directory that a human authorization is judged by:
the authority descriptor, the signed revocations and the spent nonces. A file
is absent, unreadable as JSON, or holds a value. Reading can fail on its own;
writing the nonce file can fail and leave the old text, the new text or neither.
-/

namespace Misaka.AuthorizationStores
open Bincode Identity

inductive Stored (Value : Type) where
  | absent
  | corrupt (error : String)
  | present (value : Value)

def Stored.read {Value : Type} : Stored Value → Except String (Option Value)
  | .absent => .ok none
  | .corrupt error => .error error
  | .present value => .ok (some value)

inductive StoreError where
  | io (error : String)
  | json (error : String)
deriving DecidableEq

def authorityErrorDisplay : StoreError → String
  | .io error => "Network authority I/O error: " ++ error
  | .json error => "invalid Network authority descriptor: " ++ error

inductive RevocationStoreError where
  | io (error : String)
  | json (error : String)
  | invalidSignature
deriving DecidableEq

def RevocationStoreError.display : RevocationStoreError → String
  | .io error => "revocation I/O error: " ++ error
  | .json error => "invalid revocation list: " ++ error
  | .invalidSignature => "revocation record is not signed by this Network authority"

def RevocationStoreError.ofStore : StoreError → RevocationStoreError
  | .io error => .io error
  | .json error => .json error

inductive NonceStoreError where
  | io (error : String)
  | json (error : String)
  | replay
  | networkMismatch
deriving DecidableEq

def NonceStoreError.display : NonceStoreError → String
  | .io error => "authorization nonce I/O error: " ++ error
  | .json error => "invalid authorization nonce store: " ++ error
  | .replay => "command authorization nonce has already been used"
  | .networkMismatch => "command authorization belongs to another Network"

structure NonceEntry where
  networkId : NetworkId
  nonce : Bytes 16
  expiresAt : UInt64
deriving DecidableEq

structure DataDirectory where
  authority : Stored NetworkAuthority
  revocations : Stored (List RevocationRecord)
  nonces : Stored (List NonceEntry)

/-- A whole-file read: what the file holds, or an I/O error of its own. -/
def Reads {Value : Type} (file : Stored Value) (result : Except StoreError (Option Value)) :
    Prop :=
  (∃ error, result = .error (.io error)) ∨ result = file.read.mapError .json

theorem reads_ok {Value : Type} {file : Stored Value} {value : Option Value}
    (answer : Reads file (.ok value)) : file.read = .ok value := by
  rcases answer with ⟨error, impossible⟩ | answer
  · cases impossible
  · cases loaded : file.read with
    | ok found =>
      rw [loaded] at answer
      cases answer
      rfl
    | error error =>
      rw [loaded] at answer
      cases answer

theorem reads_value {Value : Type} {file : Stored Value} {value : Value}
    (answer : Reads file (.ok (some value))) : file = .present value := by
  have loaded := reads_ok answer
  cases file with
  | absent | corrupt error => cases loaded
  | present found =>
    cases loaded
    rfl

section Revocation
variable (verifies : SignatureCheck)

/-- The loop of `RevocationStore::is_revoked` over the loaded records. -/
def isRevoked (authority : NetworkAuthority) (network : NetworkId) (kind : MembershipKind)
    (serial : UInt64) : List RevocationRecord → Except RevocationStoreError Bool
  | [] => .ok false
  | record :: rest =>
    if record.networkId ≠ network then isRevoked authority network kind serial rest
    else if !record.verify verifies authority then .error .invalidSignature
    else if record.membershipKind = kind && record.membershipSerial = serial then .ok true
    else isRevoked authority network kind serial rest

variable (records : List RevocationRecord)

/-- No record of the Network names the membership. -/
def NotRevoked (network : NetworkId) (kind : MembershipKind) (serial : UInt64) : Prop :=
  ∀ record ∈ records, record.networkId = network → record.membershipKind = kind →
    record.membershipSerial ≠ serial

theorem is_revoked_false_sound {authority : NetworkAuthority} {network : NetworkId}
    {kind : MembershipKind} {serial : UInt64}
    (answer : isRevoked verifies authority network kind serial records = .ok false) :
    NotRevoked records network kind serial := by
  induction records with
  | nil => exact fun _ member => absurd member List.not_mem_nil
  | cons first rest ih =>
    rw [isRevoked] at answer
    intro record member sameNetwork sameKind
    by_cases foreign : first.networkId = network
    · rw [if_neg (not_not_intro foreign)] at answer
      split at answer
      · cases answer
      · split at answer
        · cases answer
        · rename_i different
          rcases List.mem_cons.mp member with rfl | later
          · intro sameSerial
            exact different (by simp [sameKind, sameSerial])
          · exact ih answer record later sameNetwork sameKind
    · rw [if_pos foreign] at answer
      rcases List.mem_cons.mp member with rfl | later
      · exact absurd sameNetwork foreign
      · exact ih answer record later sameNetwork sameKind
end Revocation

/-! `AuthorizationNonceStore::record`. Entries past their expiry are dropped
before the duplicate check, at the time the caller passed in. -/
section Nonces

def NonceEntry.matches (entry : NonceEntry) (authorization : CommandAuthorization) : Bool :=
  entry.networkId == authorization.networkId && entry.nonce == authorization.nonce

def nonceEntry (authorization : CommandAuthorization) : NonceEntry :=
  ⟨authorization.networkId, authorization.nonce, authorization.expiresAt⟩

def retained (entries : List NonceEntry) (now : UInt64) : List NonceEntry :=
  entries.filter (now ≤ ·.expiresAt)

/-- The entries a successful call writes back. -/
def record (file : Stored (List NonceEntry)) (authorization : CommandAuthorization)
    (now : UInt64) : Except NonceStoreError (List NonceEntry) :=
  if authorization.networkId ≠ authorization.membership.networkId then .error .networkMismatch
  else
    match file.read with
    | .error error => .error (.json error)
    | .ok loaded =>
      let live := retained (loaded.getD []) now
      if live.any (·.matches authorization) then .error .replay
      else .ok (live ++ [nonceEntry authorization])

inductive Records (file : Stored (List NonceEntry)) (authorization : CommandAuthorization)
    (now : UInt64) : Except NonceStoreError Unit → Stored (List NonceEntry) → Prop where
  | refused {error : NonceStoreError} (refusal : record file authorization now = .error error) :
      Records file authorization now (.error error) file
  | unread (error : String) : Records file authorization now (.error (.io error)) file
  | unwritten {entries : List NonceEntry} (error damage : String)
      (admitted : record file authorization now = .ok entries)
      {left : Stored (List NonceEntry)}
      (outcome : left = file ∨ left = .corrupt damage ∨ left = .present entries) :
      Records file authorization now (.error (.io error)) left
  | written {entries : List NonceEntry} (admitted : record file authorization now = .ok entries) :
      Records file authorization now (.ok ()) (.present entries)

/-- The nonce was not spent while its entry was live, and it is now. -/
structure NewlySpent (authorization : CommandAuthorization) (now : UInt64)
    (before after : Stored (List NonceEntry)) : Prop where
  unspent : ∀ entries, before = .present entries →
    ∀ entry ∈ retained entries now, entry.matches authorization = false
  spent : ∃ entries, after = .present (entries ++ [nonceEntry authorization])

variable {file : Stored (List NonceEntry)} {authorization : CommandAuthorization} {now : UInt64}
variable {entries : List NonceEntry}

theorem record_ok (admitted : record file authorization now = .ok entries) :
    ∃ loaded, file.read = .ok loaded ∧
      (retained (loaded.getD []) now).any (·.matches authorization) = false ∧
      entries = retained (loaded.getD []) now ++ [nonceEntry authorization] := by
  unfold record at admitted
  split at admitted
  · cases admitted
  · split at admitted
    · cases admitted
    · rename_i loaded readable
      simp only at admitted
      split at admitted
      · cases admitted
      · rename_i fresh
        simp only [Bool.not_eq_true] at fresh
        exact ⟨loaded, readable, fresh, (Except.ok.inj admitted).symm⟩

variable {before after : Stored (List NonceEntry)}

theorem records_ok_newly_spent (call : Records before authorization now (.ok ()) after) :
    NewlySpent authorization now before after := by
  cases call with
  | written admitted =>
    obtain ⟨loaded, readable, fresh, rfl⟩ := record_ok admitted
    refine ⟨?_, _, rfl⟩
    rintro entries rfl entry live
    obtain rfl : some entries = loaded := Except.ok.inj readable
    rw [List.any_eq_false] at fresh
    simpa using fresh entry live

/-- The file keeps the authorization from being recorded while it is valid. -/
def Blocks (authorization : CommandAuthorization) : Stored (List NonceEntry) → Prop
  | .absent => False
  | .corrupt _ => True
  | .present entries => ∃ entry ∈ entries, entry.matches authorization = true ∧
      authorization.expiresAt ≤ entry.expiresAt

theorem retained_blocks (valid : now ≤ authorization.expiresAt)
    (blocked : Blocks authorization (.present entries)) :
    Blocks authorization (.present (retained entries now)) := by
  obtain ⟨entry, member, same, lasts⟩ := blocked
  have live : now ≤ entry.expiresAt := UInt64.le_trans valid lasts
  exact ⟨entry, List.mem_filter.mpr ⟨member, by simpa using live⟩, same, lasts⟩

theorem blocks_append {more : List NonceEntry} (blocked : Blocks authorization (.present entries)) :
    Blocks authorization (.present (entries ++ more)) := by
  obtain ⟨entry, member, found⟩ := blocked
  exact ⟨entry, List.mem_append_left more member, found⟩

variable {authorization other : CommandAuthorization}

-- A call for any authorization keeps the entries that are still valid.
theorem record_keeps_blocked (valid : now ≤ authorization.expiresAt)
    (blocked : Blocks authorization file) (admitted : record file other now = .ok entries) :
    Blocks authorization (.present entries) := by
  obtain ⟨loaded, readable, _, rfl⟩ := record_ok admitted
  cases file with
  | absent => exact absurd blocked id
  | corrupt damage => cases readable
  | present stored =>
    obtain rfl := Except.ok.inj readable
    exact blocks_append (retained_blocks valid blocked)

theorem records_keep_blocked {answer : Except NonceStoreError Unit}
    (valid : now ≤ authorization.expiresAt) (blocked : Blocks authorization before)
    (call : Records before other now answer after) :
    Blocks authorization after := by
  cases call with
  | refused refusal | unread error => exact blocked
  | written admitted => exact record_keeps_blocked valid blocked admitted
  | unwritten error damage admitted outcome =>
    rcases outcome with rfl | rfl | rfl
    · exact blocked
    · trivial
    · exact record_keeps_blocked valid blocked admitted

theorem records_ok_blocks (call : Records before authorization now (.ok ()) after) :
    Blocks authorization after := by
  cases call with
  | written admitted =>
    obtain ⟨_, _, _, rfl⟩ := record_ok admitted
    refine ⟨nonceEntry authorization, by simp, ?_, UInt64.le_refl _⟩
    simp [NonceEntry.matches, nonceEntry]

theorem blocked_never_recorded (valid : now ≤ authorization.expiresAt)
    (blocked : Blocks authorization before) :
    ¬ Records before authorization now (.ok ()) after := by
  intro call
  cases call with
  | written admitted =>
    obtain ⟨loaded, readable, fresh, _⟩ := record_ok admitted
    cases before with
    | absent => exact blocked
    | corrupt damage => cases readable
    | present stored =>
      obtain rfl := Except.ok.inj readable
      obtain ⟨entry, live, same, _⟩ := retained_blocks valid blocked
      exact absurd same (List.any_eq_false.mp fresh entry live)
end Nonces
end Misaka.AuthorizationStores
