import Misaka.StateStores

/-!
What becomes of the id of a Sister when its identity file is written again. Every
call that finds an identity keeps its id, but the file is overwritten in place: a
write that is cut off leaves a first part of the new text, and no later call reads
or replaces it.
-/

namespace Misaka.IdentityCrash
open Bincode EffectTask FileText Identity JsonText JsonReading StateDirectory StateStores

inductive IdentityCall where
  | loadOrInit (nickname : Option String) (listenPort : UInt16)
  | updateNickname (nickname : String)

section Calls
variable (platform : StorePlatform)

-- The host may have any name and any number may be drawn.
def anyReply (question : Question) : question.Reply → Prop := fun _ => True

def IdentityCall.Turn (faults : Faults) : IdentityCall → Directory → Directory → Prop
  | .loadOrInit nickname listenPort =>
    StateDirectory.Turn anyReply faults (loadOrInitIdentity platform nickname listenPort)
  | .updateNickname nickname =>
    StateDirectory.Turn anyReply faults (StateStores.updateNickname platform nickname)

def Persisted (id : SisterId) (directory : Directory) : Prop :=
  ∃ identity, loaded (identityOf platform) directory IDENTITY_FILE = .ok (some identity) ∧
    identity.id = id

/-- Anything may fail, but a write over a readable identity file happens as a whole or
not at all. -/
def carefulDisk : Faults where
  refuses := True
  cuts before name bytes after := CutOff before name bytes after ∧
    (name = IDENTITY_FILE → (∃ id, Persisted platform id before) →
      after = before ∨ after = before.put name bytes)

-- serde_json reads back the identities it prints.
def ReadsBack : Prop :=
  ∀ identity, platform.identity (jsonText identityDocument identity).toList = .ok identity
end Calls

section Steps
variable {platform : StorePlatform} {replies : (question : Question) → question.Reply → Prop}
variable {before after : Directory} {id : SisterId} {identity : SisterIdentity}
variable (reads : ReadsBack platform)
include reads

theorem saved_persisted (saved : after IDENTITY_FILE = some (identityBytes identity)) :
    Persisted platform identity.id after := by
  have decoded : identityOf platform (identityBytes identity) = .ok identity :=
    text_of_json (reads identity)
  refine ⟨identity, ?_, rfl⟩
  rw [loaded_held saved, decoded]
  rfl

/-- Every point of a save of the same id leaves that id persisted. -/
theorem save_keeps_id (here : Persisted platform identity.id before) :
    Holds (Acts replies (carefulDisk platform))
      (fun state _ => Persisted platform identity.id state) (saveIdentity identity)
      (fun after _ => Persisted platform identity.id after)
      (fun after _ => Persisted platform identity.id after) before := by
  have written : Persisted platform identity.id
      (before.put IDENTITY_FILE (identityBytes identity)) :=
    saved_persisted reads (put_self _ _ _)
  rw [saveIdentity, holds_bind]
  apply holds_create_dir
  case here => exact here
  case refused => exact fun _ _ => here
  apply holds_write_file
  case here => exact here
  case written => exact written
  rintro after error ⟨_, whole⟩
  rcases whole rfl ⟨_, here⟩ with rfl | rfl
  · exact here
  · exact written

theorem save_returns_id (same : identity.id = id) (here : Persisted platform id before) :
    Holds (Acts replies (carefulDisk platform)) (fun state _ => Persisted platform id state)
      (do
        saveIdentity identity
        pure identity)
      (fun after saved => saved = identity ∧ Persisted platform id after)
      (fun after _ => Persisted platform id after) before := by
  subst same
  rw [holds_bind]
  refine holds_mono (save_keeps_id reads here) ?_ fun _ _ kept => kept
  exact fun _ _ kept => (holds_pure _).mpr ⟨rfl, kept⟩

theorem load_or_init_keeps_id (nickname : Option String) (listenPort : UInt16)
    (here : Persisted platform id before) :
    Holds (Acts replies (carefulDisk platform)) (fun state _ => Persisted platform id state)
      (loadOrInitIdentity platform nickname listenPort)
      (fun after _ => Persisted platform id after)
      (fun after _ => Persisted platform id after) before := by
  have ⟨existing, held, same⟩ := here
  rw [loadOrInitIdentity, loadIdentity, holds_bind]
  apply holds_load_file
  case here => exact here
  case malformed => exact fun _ _ => here
  case refused => exact fun _ _ => here
  intro found read
  obtain rfl := Except.ok.inj (held.symm.trans read)
  rw [holds_bind]
  cases nickname with
  | none =>
    apply (holds_pure _).mpr
    refine holds_mono (save_returns_id reads same here) ?_ fun _ _ kept => kept
    exact fun _ _ kept => kept.2
  | some nick =>
    refine holds_mono (save_returns_id reads same here) ?_ fun _ _ kept => kept
    rintro middle named ⟨rfl, kept⟩
    refine holds_mono (save_returns_id reads same kept) ?_ fun _ _ kept => kept
    exact fun _ _ kept => kept.2

theorem update_nickname_keeps_id (nickname : String) (here : Persisted platform id before) :
    Holds (Acts replies (carefulDisk platform)) (fun state _ => Persisted platform id state)
      (updateNickname platform nickname) (fun after _ => Persisted platform id after)
      (fun after _ => Persisted platform id after) before := by
  have ⟨existing, held, same⟩ := here
  rw [updateNickname, loadIdentity, holds_bind]
  apply holds_load_file
  case here => exact here
  case malformed => exact fun _ _ => here
  case refused => exact fun _ _ => here
  intro found read
  obtain rfl := Except.ok.inj (held.symm.trans read)
  refine holds_mono (save_returns_id reads same here) ?_ fun _ _ kept => kept
  exact fun _ _ kept => kept.2

theorem call_keeps_id (call : IdentityCall)
    (turn : call.Turn platform (carefulDisk platform) before after)
    (here : Persisted platform id before) : Persisted platform id after := by
  cases call with
  | loadOrInit nickname listenPort =>
    exact turn_keeps (load_or_init_keeps_id reads nickname listenPort here) turn
  | updateNickname nickname => exact turn_keeps (update_nickname_keeps_id reads nickname here) turn

omit reads

theorem sister_id_survives (reads : ReadsBack platform)
    (saved : before IDENTITY_FILE = some (identityBytes identity))
    (history : History (IdentityCall.Turn platform (carefulDisk platform)) (fun _ _ => True)
      before after) :
    ∃ later, loaded (identityOf platform) after IDENTITY_FILE = .ok (some later) ∧
      later.id = identity.id := by
  refine history_keeps (Persisted platform identity.id) ?_ history (saved_persisted reads saved)
  intro middle later call here _ turn
  exact call_keeps_id reads call turn here
end Steps

/-! A save that is cut off. -/

theorem identity_separates : Separates identityDocument := by
  have fields := fields_cons "nickname" string_separates (fields_cons "hostname" string_separates
    (fields_cons "platform" string_separates (fields_cons "version" string_separates
      (fields_cons "listen_port" number_separates fields_nil))))
  have view : Function.Injective fun identity : SisterIdentity =>
      (identity.id.toNat, identity.nickname, identity.hostname, identity.platform,
        identity.version, identity.listenPort.toNat, ()) := by
    rintro ⟨_, _, _, _, _, _⟩ ⟨_, _, _, _, _, _⟩ same
    simp only [Prod.mk.injEq, UInt64.toNat_inj, UInt16.toNat_inj, and_true] at same
    obtain ⟨rfl, rfl, rfl, rfl, rfl, rfl⟩ := same
    rfl
  have whole := separates_map (object_separates "id" number_separates fields) view
  exact whole

noncomputable def samplePlatform : StorePlatform where
  hostPlatform := "linux x86_64"
  binaryVersion := "0.1.0"
  publicKey secret := secret
  identity := readJson identityDocument
  authority _ := .error "not read here"
  human _ := .error "not read here"

theorem sample_reads_back : ReadsBack samplePlatform := fun identity =>
  read_json identity_separates identity

def sampleIdentity : SisterIdentity := ⟨7, "imouto", "host", "linux x86_64", "0.1.0", 31700⟩

def savedDirectory : Directory :=
  Directory.put (fun _ => none) IDENTITY_FILE (identityBytes sampleIdentity)

theorem sample_saved : savedDirectory IDENTITY_FILE = some (identityBytes sampleIdentity) :=
  put_self _ _ _

theorem saved_loads :
    loaded (identityOf samplePlatform) savedDirectory IDENTITY_FILE = .ok (some sampleIdentity) := by
  have decoded : identityOf samplePlatform (identityBytes sampleIdentity) = .ok sampleIdentity :=
    text_of_json (sample_reads_back sampleIdentity)
  rw [loaded_held sample_saved, decoded]
  rfl

def renamedIdentity : SisterIdentity := { sampleIdentity with nickname := "last order" }

theorem nickname_turn {faults : Faults} {after : Directory}
    {ended : StoreTask IdentityStoreError Unit}
    (run : Reaches (Acts anyReply faults) (saveIdentity renamedIdentity) savedDirectory ended
      after) :
    (IdentityCall.updateNickname "last order").Turn samplePlatform faults savedDirectory after :=
  ⟨_, reaches_bind (reaches_load_file saved_loads)
    (reaches_bind (.here (.done sampleIdentity) _) (reaches_within run))⟩

theorem sample_id_survives :
    ∃ later, loaded (identityOf samplePlatform)
        (savedDirectory.put IDENTITY_FILE (identityBytes renamedIdentity)) IDENTITY_FILE =
          .ok (some later) ∧ later.id = 7 := by
  refine sister_id_survives sample_reads_back sample_saved (.single
    ⟨.updateNickname "last order", trivial, ?_⟩)
  exact nickname_turn (reaches_bind reaches_create_dir reaches_write_file)

/-- The write of a new nickname stops after it has emptied the file: the id is gone. -/
theorem sister_id_lost :
    ∃ after, savedDirectory IDENTITY_FILE = some (identityBytes sampleIdentity) ∧
      History (IdentityCall.Turn samplePlatform Faults.all) (fun _ _ => True) savedDirectory after ∧
      ∀ found, loaded (identityOf samplePlatform) after IDENTITY_FILE ≠ .ok found := by
  refine ⟨savedDirectory.put IDENTITY_FILE [], sample_saved, ?_, ?_⟩
  · refine .single ⟨.updateNickname "last order", trivial, ?_⟩
    apply nickname_turn
    apply reaches_bind reaches_create_dir
    exact reaches_write_cut "stopped" (.inr ⟨[], List.nil_prefix, rfl⟩)
  · intro found read
    have empty : readJson identityDocument [] = .error "not a document" := by
      refine dif_neg ?_
      rintro ⟨identity, same⟩
      cases same
    have malformed : identityOf samplePlatform [] = .error (.json "not a document") := by
      have text : readText [] = .ok [] := read_text_utf8 ""
      simp only [identityOf, textOf, text, samplePlatform, empty, Except.mapError]
    rw [loaded_held (put_self _ _ _), malformed] at read
    cases read
end Misaka.IdentityCrash
