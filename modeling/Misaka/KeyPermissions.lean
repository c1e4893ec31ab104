import Misaka.Bincode

/-!
The first creation of the Sister key and of the Iroh key, one file operation after
the other, and what a later start reads after a crash between any two of them. A
new file may be read by others until its mode is set.
-/

namespace Misaka.KeyPermissions
open Bincode

structure KeyFile where
  content : List UInt8
  ownerOnly : Bool
deriving DecidableEq

abbrev Directory := String → Option KeyFile

inductive FileOp where
  | createDirAll
  | create
  | append (bytes : List UInt8)
  | setPermissions

-- On the file at the store's path; a file that is truncated keeps its mode.
def FileOp.effect : FileOp → Option KeyFile → Option KeyFile
  | .createDirAll, file => file
  | .create, file => some ⟨[], (file.map KeyFile.ownerOnly).getD false⟩
  | .append bytes, file => file.map fun file => { file with content := file.content ++ bytes }
  | .setPermissions, file => file.map fun file => { file with ownerOnly := true }

/-- One of the two stores: its file, and what its errors call the key. -/
structure KeyStore where
  file : String
  named : String

def sisterKeyStore : KeyStore := ⟨"sister-identity-key", "Sister identity key"⟩

def irohIdentityStore : KeyStore := ⟨"iroh-stream-key.bin", "Iroh identity"⟩

/-- The writes by which `fs::write` puts the key into the file. -/
structure Writes (key : Bytes 32) where
  parts : List (List UInt8)
  whole : parts.flatten = key.toList

section Code
variable (store : KeyStore)

def load (directory : Directory) : Except String (Option (Bytes 32)) :=
  match directory store.file with
  | none => .ok none
  | some file =>
    if size : file.content.length = 32 then .ok (some ⟨file.content, size⟩)
    else .error s!"{store.named} must be exactly 32 bytes, got {file.content.length}"

def creation {key : Bytes 32} (writes : Writes key) : List FileOp :=
  .createDirAll :: .create :: (writes.parts.map .append ++ [.setPermissions])

def perform (directory : Directory) (ops : List FileOp) : Directory :=
  ops.foldl (fun directory op =>
    Function.update directory store.file (op.effect (directory store.file))) directory

-- The key that is returned and the directory that is left.
def loadOrInit {generated : Bytes 32} (writes : Writes generated) (directory : Directory) :
    Except String (Bytes 32) × Directory :=
  match load store directory with
  | .error message => (.error message, directory)
  | .ok (some key) => (.ok key, directory)
  | .ok none => (.ok generated, perform store directory (creation writes))

/-- The directory after a crash before the operation with this number. -/
def crashed {key : Bytes 32} (writes : Writes key) (directory : Directory) (point : Nat) :
    Directory :=
  perform store directory ((creation writes).take point)

/-- Whenever a later call returns a key, its file is the owner's only. -/
def StaysPrivate (directory : Directory) : Prop :=
  ∀ (generated : Bytes 32) (writes : Writes generated) (key : Bytes 32) (after : Directory),
    loadOrInit store writes directory = (.ok key, after) →
    ∃ file, after store.file = some file ∧ file.ownerOnly = true
end Code

section Permissions
variable {store : KeyStore} {key : Bytes 32} {directory : Directory}

theorem perform_entry (ops : List FileOp) :
    perform store directory ops store.file =
      ops.foldl (fun file op => op.effect file) (directory store.file) := by
  induction ops generalizing directory with
  | nil => rfl
  | cons op rest ih =>
    rw [perform, List.foldl_cons, ← perform, ih, Function.update_self, List.foldl_cons]

theorem append_effects (parts : List (List UInt8)) (file : KeyFile) :
    (parts.map FileOp.append).foldl (fun file op => op.effect file) (some file) =
      some { file with content := file.content ++ parts.flatten } := by
  induction parts generalizing file with
  | nil => simp
  | cons part rest ih =>
    rw [List.map_cons, List.foldl_cons, FileOp.effect, Option.map_some, ih, List.flatten_cons,
      List.append_assoc]

/-- The file after a crash: none, a part of the key that others may read, or the private key. -/
theorem crashed_entry (writes : Writes key) (fresh : directory store.file = none) (point : Nat) :
    crashed store writes directory point store.file =
      if point < 2 then none
      else if point < writes.parts.length + 3 then
        some ⟨(writes.parts.take (point - 2)).flatten, false⟩
      else some ⟨key.toList, true⟩ := by
  rw [crashed, perform_entry, fresh, creation]
  match point with
  | 0 => rfl
  | 1 => rfl
  | count + 2 =>
    change List.foldl _ (some (KeyFile.mk [] false))
      ((writes.parts.map FileOp.append ++ [FileOp.setPermissions]).take count) = _
    rw [List.take_append, ← List.map_take, List.foldl_append, append_effects, List.length_map,
      if_neg (by omega)]
    by_cases within : count ≤ writes.parts.length
    · rw [Nat.sub_eq_zero_of_le within, if_pos (by omega)]
      rfl
    · obtain ⟨more, beyond⟩ : ∃ more, count - writes.parts.length = more + 1 :=
        ⟨count - writes.parts.length - 1, by omega⟩
      rw [beyond, if_neg (by omega), List.take_of_length_le (by omega), writes.whole,
        List.take_succ_cons, List.take_nil]
      rfl

theorem load_entry {file : KeyFile} (found : directory store.file = some file)
    (whole : file.content = key.toList) : load store directory = .ok (some key) := by
  have size : file.content.length = 32 := whole ▸ key.size_eq
  rw [load, found]
  simp only [size, dif_pos]
  exact congrArg (fun key => Except.ok (some key)) (Bytes.ext whole)

/-- A key that others can read is returned exactly after a crash between the last byte of the
key and the change of its mode. -/
theorem crash_private_iff (writes : Writes key) (fresh : directory store.file = none)
    (point : Nat) :
    StaysPrivate store (crashed store writes directory point) ↔
      ¬ (2 ≤ point ∧ point < writes.parts.length + 3 ∧
        (writes.parts.take (point - 2)).flatten = key.toList) := by
  have entry := crashed_entry writes fresh point
  by_cases missing : point < 2
  · refine iff_of_true ?_ (by omega)
    intro generated later key after returned
    rw [if_pos missing] at entry
    have whole := crashed_entry later entry (later.parts.length + 3)
    rw [crashed, List.take_of_length_le (by simp [creation]), if_neg (by omega),
      if_neg (by omega)] at whole
    simp only [loadOrInit, load, entry, Prod.mk.injEq] at returned
    obtain ⟨-, rfl⟩ := returned
    exact ⟨_, whole, rfl⟩
  rw [if_neg missing] at entry
  by_cases open_ : point < writes.parts.length + 3
  · rw [if_pos open_] at entry
    by_cases whole : (writes.parts.take (point - 2)).flatten = key.toList
    · refine iff_of_false (fun private_ => ?_) (by simp [whole]; omega)
      have loaded := load_entry entry whole
      obtain ⟨file, found, owned⟩ := private_ key writes key _ (by rw [loadOrInit, loaded])
      rw [entry] at found
      cases found
      cases owned
    · refine iff_of_true ?_ (fun exposed => whole exposed.2.2)
      intro generated later key' after returned
      have short : (writes.parts.take (point - 2)).flatten.length ≠ 32 := by
        intro size
        have cut : (writes.parts.take (point - 2)).flatten <+: key.toList := by
          rw [← writes.whole, ← List.take_append_drop (point - 2) writes.parts,
            List.flatten_append, List.take_append_drop]
          exact List.prefix_append ..
        exact whole (cut.eq_of_length (size.trans key.size_eq.symm))
      simp only [loadOrInit, load, entry, short, dite_false] at returned
      cases returned
  · refine iff_of_true ?_ (by omega)
    rw [if_neg open_] at entry
    intro generated later key' after returned
    rw [loadOrInit, load_entry entry rfl] at returned
    cases returned
    exact ⟨_, entry, rfl⟩
end Permissions

def sampleWrites : Writes (Bytes.fill 32 7) := ⟨[(Bytes.fill 32 7).toList], by decide⟩

theorem finished_creation_private :
    StaysPrivate sisterKeyStore (crashed sisterKeyStore sampleWrites (fun _ => none) 4) :=
  (crash_private_iff sampleWrites rfl 4).mpr (by decide)

/-- A crash right before the mode is set. -/
theorem crash_exposes_key :
    loadOrInit irohIdentityStore sampleWrites
        (crashed irohIdentityStore sampleWrites (fun _ => none) 3) =
      (.ok (Bytes.fill 32 7), crashed irohIdentityStore sampleWrites (fun _ => none) 3) ∧
    crashed irohIdentityStore sampleWrites (fun _ => none) 3 irohIdentityStore.file =
      some ⟨(Bytes.fill 32 7).toList, false⟩ :=
  ⟨rfl, rfl⟩
end Misaka.KeyPermissions
