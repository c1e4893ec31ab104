import Misaka.JoinTransaction
import Misaka.JsonReading

/-!
The signed binding of a Sister to its Iroh endpoint, kept in a file: it stays as
it is while the endpoint does, and a new endpoint gets the next sequence. Calls
are one `load_or_update` after another, over any number of restarts, from a
directory without a binding.
-/

namespace Misaka.BindingRotation
open Bincode Identity JsonReading
open JoinTransaction (bindingDocument)

inductive TransportBindingStoreError where
  | json (error : String)
  | invalidSignature
  | identityMismatch
deriving DecidableEq

section Code
variable {verifies : SignatureCheck} (decode : List Char → Except String TransportBinding)
variable (key : SisterKeyPair verifies) (network : NetworkId) (sister : SisterId)

def signBinding (endpoint : IrohEndpointId) (sequence : UInt64) : TransportBinding :=
  let binding : TransportBinding :=
    ⟨network, sister, key.publicKey, endpoint, sequence, Bytes.fill 64 0⟩
  { binding with signatureBySisterKey := key.sign binding.signingBytes }

-- The answer and the file that is left.
def loadOrUpdate (endpoint : IrohEndpointId) (file : Option String) :
    Except TransportBindingStoreError TransportBinding × Option String :=
  let saved (binding : TransportBinding) :
      Except TransportBindingStoreError TransportBinding × Option String :=
    (.ok binding, some (jsonText bindingDocument binding))
  match file with
  | none => saved (signBinding key network sister endpoint 0)
  | some text =>
    match decode text.toList with
    | .error error => (.error (.json error), file)
    | .ok existing =>
      if existing.verify verifies = false then (.error .invalidSignature, file)
      else if existing.networkId ≠ network ∨ existing.sisterId ≠ sister ∨
          existing.sisterPublicKey ≠ key.publicKey then (.error .identityMismatch, file)
      else if existing.irohEndpointId = endpoint then (.ok existing, file)
      else saved (signBinding key network sister endpoint (saturatingAdd existing.sequence 1))

/-- The answers to calls, the newest first, and the file after them. -/
def calls : List IrohEndpointId →
    List (Except TransportBindingStoreError TransportBinding) × Option String
  | [] => ([], none)
  | endpoint :: earlier =>
    let (answers, file) := calls earlier
    let (answer, after) := loadOrUpdate decode key network sister endpoint file
    (answer :: answers, after)

def changes : List IrohEndpointId → Nat
  | endpoint :: previous :: earlier =>
    changes (previous :: earlier) + if endpoint = previous then 0 else 1
  | _ => 0
end Code

section Rotation
variable {verifies : SignatureCheck} {decode : List Char → Except String TransportBinding}
variable {key : SisterKeyPair verifies} {network : NetworkId} {sister : SisterId}

/-- The newest of the calls returned and stored this binding; none before it is ahead. -/
structure Current (decode : List Char → Except String TransportBinding)
    (key : SisterKeyPair verifies) (network : NetworkId) (sister : SisterId)
    (endpoint : IrohEndpointId) (earlier : List IrohEndpointId) (binding : TransportBinding) :
    Prop where
  returned : calls decode key network sister (endpoint :: earlier) =
    (.ok binding :: (calls decode key network sister earlier).1,
      some (jsonText bindingDocument binding))
  verified : binding.verify verifies = true
  identity : binding.networkId = network ∧ binding.sisterId = sister ∧
    binding.sisterPublicKey = key.publicKey
  named : binding.irohEndpointId = endpoint
  counted : binding.sequence.toNat = changes (endpoint :: earlier)
  ahead : ∀ answer ∈ (calls decode key network sister earlier).1,
    ∃ past, answer = .ok past ∧ past.sequence ≤ binding.sequence

theorem signed_verifies (endpoint : IrohEndpointId) (sequence : UInt64) :
    (signBinding key network sister endpoint sequence).verify verifies = true :=
  key.verified _

theorem saturating_add_one {sequence : UInt64} (room : sequence.toNat + 1 < 2 ^ 64) :
    (saturatingAdd sequence 1).toNat = sequence.toNat + 1 := by
  rw [saturatingAdd, if_pos (by exact room), UInt64.toNat_add]
  exact Nat.mod_eq_of_lt room

variable (readsBack : ∀ binding, decode (jsonText bindingDocument binding).toList = .ok binding)
include readsBack

variable {earlier : List IrohEndpointId} {last : TransportBinding} {previous : IrohEndpointId}

-- The binding on file passes every check, so only its endpoint decides.
theorem next_call (endpoint : IrohEndpointId)
    (current : Current decode key network sister previous earlier last) :
    calls decode key network sister (endpoint :: previous :: earlier) =
      let binding := if previous = endpoint then last
        else signBinding key network sister endpoint (saturatingAdd last.sequence 1)
      (.ok binding :: (calls decode key network sister (previous :: earlier)).1,
        some (jsonText bindingDocument binding)) := by
  obtain ⟨networked, sistered, keyed⟩ := current.identity
  rw [calls, current.returned]
  simp only [loadOrUpdate, readsBack, current.verified, current.named, networked, sistered, keyed,
    ne_eq, not_true_eq_false, or_self, if_false, reduceCtorEq]
  split <;> rfl

variable {endpoint : IrohEndpointId}

theorem same_endpoint (current : Current decode key network sister endpoint earlier last) :
    Current decode key network sister endpoint (endpoint :: earlier) last := by
  refine ⟨by simpa using next_call readsBack endpoint current, current.verified, current.identity,
    current.named, by simp [changes, current.counted], ?_⟩
  intro answer member
  rw [current.returned] at member
  rcases List.mem_cons.mp member with rfl | old
  · exact ⟨last, rfl, UInt64.le_refl _⟩
  · exact current.ahead answer old

theorem changed_endpoint (current : Current decode key network sister previous earlier last)
    (moved : endpoint ≠ previous) (few : changes (endpoint :: previous :: earlier) < 2 ^ 64) :
    ∃ binding, Current decode key network sister endpoint (previous :: earlier) binding ∧
      ∀ answer ∈ (calls decode key network sister (previous :: earlier)).1,
        ∃ past, answer = .ok past ∧ past.sequence < binding.sequence := by
  have counted := current.counted
  rw [changes, if_neg moved] at few
  have next : (saturatingAdd last.sequence 1).toNat = last.sequence.toNat + 1 :=
    saturating_add_one (by omega)
  have above : ∀ answer ∈ (calls decode key network sister (previous :: earlier)).1,
      ∃ past, answer = .ok past ∧ past.sequence < saturatingAdd last.sequence 1 := by
    intro answer member
    rw [current.returned] at member
    rcases List.mem_cons.mp member with rfl | old
    · exact ⟨last, rfl, UInt64.lt_iff_toNat_lt.mpr (by omega)⟩
    · obtain ⟨past, rfl, behind⟩ := current.ahead answer old
      refine ⟨past, rfl, UInt64.lt_iff_toNat_lt.mpr ?_⟩
      have := UInt64.le_iff_toNat_le.mp behind
      omega
  refine ⟨signBinding key network sister endpoint (saturatingAdd last.sequence 1),
    ⟨?_, signed_verifies _ _, ⟨rfl, rfl, rfl⟩, rfl, ?_, ?_⟩, above⟩
  · simpa [Ne.symm moved] using next_call readsBack endpoint current
  · rw [changes, if_neg moved, ← counted]
    exact next
  · intro answer member
    obtain ⟨past, answered, behind⟩ := above answer member
    exact ⟨past, answered, UInt64.le_of_lt behind⟩

theorem newest_current (endpoint : IrohEndpointId) (earlier : List IrohEndpointId)
    (few : changes (endpoint :: earlier) < 2 ^ 64) :
    ∃ binding, Current decode key network sister endpoint earlier binding := by
  induction earlier generalizing endpoint with
  | nil =>
    exact ⟨signBinding key network sister endpoint 0, rfl, signed_verifies endpoint 0,
      ⟨rfl, rfl, rfl⟩, rfl, rfl, nofun⟩
  | cons previous earlier ih =>
    obtain ⟨last, current⟩ := ih previous (Nat.lt_of_le_of_lt (Nat.le_add_right ..) few)
    by_cases same : endpoint = previous
    · subst same
      exact ⟨last, same_endpoint readsBack current⟩
    · obtain ⟨binding, kept, _⟩ := changed_endpoint readsBack current same few
      exact ⟨binding, kept⟩

theorem rotation_exact (endpoint : IrohEndpointId) (earlier : List IrohEndpointId)
    (few : changes (endpoint :: earlier) < 2 ^ 64) :
    ∃ binding,
      (calls decode key network sister (endpoint :: earlier)).1 =
        .ok binding :: (calls decode key network sister earlier).1 ∧
      binding.verify verifies = true ∧ binding.sisterPublicKey = key.publicKey ∧
      binding.irohEndpointId = endpoint ∧
      ∀ previous before, earlier = previous :: before →
        (endpoint = previous →
          (calls decode key network sister earlier).1.head? = some (.ok binding)) ∧
        (endpoint ≠ previous → ∀ answer ∈ (calls decode key network sister earlier).1,
          ∃ past, answer = .ok past ∧ past.sequence < binding.sequence) := by
  cases earlier with
  | nil =>
    obtain ⟨binding, current⟩ := newest_current readsBack endpoint [] few
    exact ⟨binding, by rw [current.returned], current.verified, current.identity.2.2,
      current.named, nofun⟩
  | cons previous before =>
    obtain ⟨last, current⟩ := newest_current readsBack previous before
      (Nat.lt_of_le_of_lt (Nat.le_add_right ..) few)
    by_cases same : endpoint = previous
    · subst same
      have kept := same_endpoint readsBack current
      refine ⟨last, by rw [kept.returned], kept.verified, kept.identity.2.2, kept.named, ?_⟩
      rintro _ _ ⟨⟩
      exact ⟨fun _ => by rw [current.returned]; rfl, fun moved => absurd rfl moved⟩
    · obtain ⟨binding, kept, above⟩ := changed_endpoint readsBack current same few
      refine ⟨binding, by rw [kept.returned], kept.verified, kept.identity.2.2, kept.named, ?_⟩
      rintro _ _ ⟨⟩
      exact ⟨fun equal => absurd equal same, fun _ => above⟩
end Rotation

theorem binding_separates : Separates bindingDocument := by
  have fields := fields_cons "sister_id" number_separates
    (fields_cons "sister_public_key" byte_array_separates
      (fields_cons "iroh_endpoint_id" byte_array_separates
        (fields_cons "sequence" number_separates
          (fields_cons "signature_by_sister_key" byte_array_separates fields_nil))))
  have view : Function.Injective fun binding : TransportBinding =>
      (binding.networkId.display, binding.sisterId.toNat, binding.sisterPublicKey.toList,
        binding.irohEndpointId.toList, binding.sequence.toNat,
        binding.signatureBySisterKey.toList, ()) := by
    rintro ⟨⟨uuid⟩, sister, key, endpoint, sequence, signature⟩
      ⟨⟨uuid'⟩, sister', key', endpoint', sequence', signature'⟩ same
    simp only [Prod.mk.injEq, and_true] at same
    obtain rfl : uuid = uuid' := UniqueDecoding.uuid_text_injective same.1
    rw [UInt64.toNat_inj.mp same.2.1, Bytes.ext same.2.2.1, Bytes.ext same.2.2.2.1,
      UInt64.toNat_inj.mp same.2.2.2.2.1, Bytes.ext same.2.2.2.2.2]
  have whole := separates_map (object_separates "network_id" string_separates fields) view
  exact whole

def sampleKey : SisterKeyPair fun _ message signature =>
    decide (signature = Bytes.fill 64 (message.foldl (· + ·) 0)) where
  publicKey := Bytes.fill 32 7
  sign message := Bytes.fill 64 (message.foldl (· + ·) 0)
  verified _ := decide_eq_true rfl

theorem second_endpoint_rotates :
    changes [Bytes.fill 32 2, Bytes.fill 32 1, Bytes.fill 32 1] < 2 ^ 64 ∧
    ∃ binding,
      (calls (readJson bindingDocument) sampleKey ⟨Bytes.fill 16 1⟩ 42
          [Bytes.fill 32 2, Bytes.fill 32 1, Bytes.fill 32 1]).1.head? = some (.ok binding) ∧
      binding.irohEndpointId = Bytes.fill 32 2 ∧
      ∀ answer ∈ (calls (readJson bindingDocument) sampleKey ⟨Bytes.fill 16 1⟩ 42
          [Bytes.fill 32 1, Bytes.fill 32 1]).1,
        ∃ past, answer = .ok past ∧ past.sequence < binding.sequence := by
  have few : changes [Bytes.fill 32 2, Bytes.fill 32 1, Bytes.fill 32 1] < 2 ^ 64 := by decide
  obtain ⟨binding, returned, _, _, named, rotated⟩ :=
    rotation_exact (read_json binding_separates) (Bytes.fill 32 2)
      [Bytes.fill 32 1, Bytes.fill 32 1] few
  exact ⟨few, binding, by rw [returned]; rfl, named, (rotated _ _ rfl).2 (by decide)⟩
end Misaka.BindingRotation
