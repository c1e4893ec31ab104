import Misaka.Duplex
import Misaka.Sha256
import Misaka.StreamServices

/-!
The receiving side of a transfer with its files. The disk maps a path to the
bytes there, and answers the file operations that versions 0 and 1 of the
service perform. The stream is one end of a connection whose operations may work
or break; the other operations of the node are answered as the session says.
-/

namespace Misaka.TransferDisk
open Bincode Identity Protocol EffectTask NodeRuntime HumanAuthorization TransferFiles
open StreamServices Duplex Sha256

abbrev Disk := String → Option (List UInt8)

def missingFile : IoError := ⟨.other, "No such file or directory (os error 2)"⟩

def found {Value : Type} (content : Option (List UInt8)) (value : List UInt8 → Value) :
    Except IoError Value :=
  match content with
  | some bytes => .ok (value bytes)
  | none => .error missingFile

def moved (disk : Disk) (source target : String) : Disk :=
  match disk source with
  | some bytes => Function.update (Function.update disk source none) target (some bytes)
  | none => disk

/-- Handles are written in order, from the end of the file. Operations of transfer
v2 alone have no answer here. -/
def answer (disk : Disk) : (op : FileOp) → Option (op.Result × Disk)
  | .createDirAll _ => some (.ok (), disk)
  | .create path => some (.ok ⟨0⟩, Function.update disk path (some []))
  | .openAppend path => some (found (disk path) fun _ => ⟨0⟩, disk)
  | .writeAll file bytes =>
    some (.ok (), Function.update disk file.path ((disk file.path).map (· ++ bytes)))
  | .flush _ => some (.ok (), disk)
  | .read path => some (found (disk path) id, disk)
  | .write path bytes => some (.ok (), Function.update disk path (some bytes))
  | .rename source target => some (found (disk source) fun _ => (), moved disk source target)
  | .remove path => some (found (disk path) fun _ => (), Function.update disk path none)
  | .exists_ path => some (.ok (disk path).isSome, disk)
  | .length path => some (found (disk path) fun bytes => UInt64.ofNat bytes.length, disk)
  | .hash path => some (found (disk path) sha256, disk)
  | .openWrite _ | .seek _ _ | .setLen _ _ | .copy _ _ | .lock _ | .unlock _ => none

abbrev Receiver := End Disk UInt8 StreamFrame

/-- `works` and `breaks` tell how an operation on the stream may come out. One
that breaks has read or sent nothing that counts. -/
def ReceiverStep (works breaks : RuntimeOp → Prop) (answers : (op : RuntimeOp) → op.Result)
    (before : Receiver) (op : RuntimeOp) (result : op.Result) (after : Receiver) : Prop :=
  match op, result with
  | .readExact stream count, .ok bytes =>
    works (.readExact stream count) ∧ bytes.length = count ∧
      after = { before with received := before.received ++ bytes }
  | .readExact stream count, .error _ => breaks (.readExact stream count) ∧ after = before
  | .write stream frame, .ok _ =>
    works (.write stream frame) ∧ after = { before with sent := before.sent ++ [frame] }
  | .write stream frame, .error _ => breaks (.write stream frame) ∧ after = before
  | .file op, result =>
    ∃ disk, answer before.state op = some (result, disk) ∧ after = { before with state := disk }
  | op, result => result = answers op ∧ after = before

def bytesNeeded : RuntimeOp → Nat
  | .readExact _ count => count
  | _ => 0

def Answerable (world : Receiver) : RuntimeOp → Prop
  | .file op => (answer world.state op).isSome = true
  | _ => True

section Steps
variable {works breaks : RuntimeOp → Prop} {answers : (op : RuntimeOp) → op.Result}

theorem receiver_step_grows : Grows (ReceiverStep works breaks answers) := by
  intro before op result after taken
  cases op with
  | readExact stream count =>
    cases result with
    | ok bytes =>
      obtain ⟨_, _, rfl⟩ := taken
      exact List.prefix_rfl
    | error error =>
      obtain ⟨_, rfl⟩ := taken
      exact List.prefix_rfl
  | write stream frame =>
    cases result with
    | ok _ =>
      obtain ⟨_, rfl⟩ := taken
      exact List.prefix_append _ _
    | error error =>
      obtain ⟨_, rfl⟩ := taken
      exact List.prefix_rfl
  | file op =>
    obtain ⟨disk, _, rfl⟩ := taken
    exact List.prefix_rfl
  | _ =>
    obtain ⟨_, rfl⟩ := taken
    exact List.prefix_rfl

-- Every operation that can be answered has an outcome, and a read takes what is there.
theorem receiver_step_able (reads : ∀ stream count, works (.readExact stream count))
    (writes : ∀ stream frame, works (.write stream frame) ∨ breaks (.write stream frame))
    (world : Receiver) (op : RuntimeOp) (words : List UInt8) (guarded : Answerable world op)
    (long : words.length = bytesNeeded op) :
    ∃ result after, ReceiverStep works breaks answers world op result after ∧
      after.received = world.received ++ words := by
  have empty : bytesNeeded op = 0 → world.received = world.received ++ words := by
    intro none
    rw [none] at long
    rw [List.length_eq_zero_iff.mp long, List.append_nil]
  cases op with
  | readExact stream count => exact ⟨.ok words, _, ⟨reads stream count, long, rfl⟩, rfl⟩
  | write stream frame =>
    rcases writes stream frame with sends | fails
    · exact ⟨.ok (), _, ⟨sends, rfl⟩, empty rfl⟩
    · exact ⟨.error missingFile, _, ⟨fails, rfl⟩, empty rfl⟩
  | file op =>
    obtain ⟨⟨result, disk⟩, answered⟩ := Option.isSome_iff_exists.mp guarded
    exact ⟨result, _, ⟨disk, answered, rfl⟩, empty rfl⟩
  | _ => exact ⟨_, _, ⟨rfl, rfl⟩, empty rfl⟩

theorem receiver_step_mono {works' breaks' : RuntimeOp → Prop} {before after : Receiver}
    {op : RuntimeOp} {result : op.Result} (moreWorks : ∀ op, works op → works' op)
    (moreBreaks : ∀ op, breaks op → breaks' op)
    (taken : ReceiverStep works breaks answers before op result after) :
    ReceiverStep works' breaks' answers before op result after := by
  cases op with
  | readExact stream count =>
    cases result with
    | ok bytes => exact ⟨moreWorks _ taken.1, taken.2⟩
    | error error => exact ⟨moreBreaks _ taken.1, taken.2⟩
  | write stream frame =>
    cases result with
    | ok _ => exact ⟨moreWorks _ taken.1, taken.2⟩
    | error error => exact ⟨moreBreaks _ taken.1, taken.2⟩
  | _ => exact taken
end Steps

/-! One rule per kind of operation, for a receiver that keeps to a script. -/
section Rules
variable (script : List (Turn UInt8 StreamFrame)) (works breaks : RuntimeOp → Prop)
variable (answers : (op : RuntimeOp) → op.Result)

abbrev Receives {Err Val : Type} (task : RuntimeTask Err Val) (post : Receiver → Val → Prop)
    (failed : Receiver → Err → Prop) (world : Receiver) : Prop :=
  Holds (attending script (ReceiverStep works breaks answers))
    (fun middle op => Hosts script bytesNeeded middle op ∧ Answerable middle op) task post failed
    world

variable {script works breaks answers} {Err : Type} {failed : Receiver → Err → Prop}
variable {disk : Disk} {received : List UInt8} {sent : List StreamFrame}
variable (replied : sent <+: replying script)
include replied

variable {stream : NetworkStream}

theorem receives_read {count : Nat} {words later : List UInt8}
    {post : Receiver → Except IoError (List UInt8) → Prop}
    (cued : cue script sent.length = received ++ (words ++ later)) (long : words.length = count)
    (arrives : post ⟨disk, received ++ words, sent⟩ (.ok words))
   
    (lost : breaks (.readExact stream count) → ∀ error, post ⟨disk, received, sent⟩ (.error error)) :
    Receives script works breaks answers (perform (RuntimeOp.readExact stream count)) post failed
      ⟨disk, received, sent⟩ := by
  refine (holds_perform _).mpr ⟨⟨⟨replied, fun _ => ?_⟩, trivial⟩, ?_⟩
  · rw [cued, List.length_append, List.length_append, long]
    exact Nat.add_le_add_left (Nat.le_add_right _ _) _
  · rintro result after ⟨taken, attended⟩
    cases result with
    | ok bytes =>
      obtain ⟨_, read, rfl⟩ := taken
      rw [cued, List.prefix_append_right_inj] at attended
      -- The script leaves no choice of the bytes that come next.
      have same : bytes = words := by
        rw [List.prefix_iff_eq_take.mp attended, read, ← long, List.take_left]
      rw [same]
      exact arrives
    | error error =>
      obtain ⟨broken, rfl⟩ := taken
      exact lost broken error

theorem receives_reply {frame : StreamFrame} {post : Receiver → Except IoError Unit → Prop}
    (sends : post ⟨disk, received, sent ++ [frame]⟩ (.ok ()))
    (lost : breaks (.write stream frame) → ∀ error, post ⟨disk, received, sent⟩ (.error error)) :
    Receives script works breaks answers (perform (RuntimeOp.write stream frame)) post failed
      ⟨disk, received, sent⟩ := by
  refine (holds_perform _).mpr ⟨⟨⟨replied, fun needed => absurd rfl needed⟩, trivial⟩, ?_⟩
  rintro result after ⟨taken, _⟩
  cases result with
  | ok _ =>
    obtain ⟨_, rfl⟩ := taken
    exact sends
  | error error =>
    obtain ⟨broken, rfl⟩ := taken
    exact lost broken error

theorem receives_file {op : FileOp} {result : op.Result} {after : Disk}
    {post : Receiver → op.Result → Prop} (answered : answer disk op = some (result, after))
    (next : post ⟨after, received, sent⟩ result) :
    Receives script works breaks answers (perform (RuntimeOp.file op)) post failed
      ⟨disk, received, sent⟩ := by
  refine (holds_perform _).mpr ⟨⟨⟨replied, fun needed => absurd rfl needed⟩, ?_⟩, ?_⟩
  · rw [Answerable, answered]
    rfl
  · rintro given world ⟨⟨other, taken, rfl⟩, _⟩
    obtain ⟨rfl, rfl⟩ := Prod.mk.inj (Option.some.inj (answered.symm.trans taken))
    exact next
end Rules
end Misaka.TransferDisk
