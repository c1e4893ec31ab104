import Misaka.TransferResume

/-!
What a crash of the receiver can leave behind of transfer v1. Sessions for one
destination follow each other, each with any sender, and each may stop after any
of its operations; a write that is cut off leaves the first part of its bytes.
The destination only takes content with the digest of the session, and the
offset a session reports is the length of the part file.
-/

namespace Misaka.TransferCrash
open Bincode Identity Protocol EffectTask NodeRuntime HumanAuthorization TransferFiles
open StreamServices Duplex Sha256 CopyCommand TransferDisk TransferDialogue
variable {path : String} {disk : Disk} {received : List UInt8} {sent : List StreamFrame}
variable {content : List UInt8} {stream : NetworkStream}

/-- What a file operation leaves on the disk: all of its effect or, when a crash
cuts it off, the first part of what it writes. -/
inductive Leaves (disk : Disk) : FileOp → Disk → Prop where
  | whole {op : FileOp} {result : op.Result} {after : Disk}
      (answered : answer disk op = some (result, after)) : Leaves disk op after
  | written {path : String} {bytes kept : List UInt8} (first : kept <+: bytes) :
      Leaves disk (.write path bytes) (Function.update disk path (some kept))
  | appended {file : OpenFile} {bytes kept : List UInt8} (first : kept <+: bytes) :
      Leaves disk (.writeAll file bytes)
        (Function.update disk file.path ((disk file.path).map (· ++ kept)))

/-- A session from the request it admits on. -/
structure Session (path : String) where
  request : TransferV1Request
  stream : NetworkStream
  answers : (op : RuntimeOp) → op.Result
  targets : request.destination = path

section Sessions
variable (platform : Platform)

def Session.task (session : Session path) : RuntimeTask IoError Unit :=
  resumeTransferV1 platform session.request (partPath path) (statePath path) session.stream

-- The sender says anything at any time, and the stream may break.
def Session.Step (session : Session path) :
    Receiver → (op : RuntimeOp) → op.Result → Receiver → Prop :=
  ReceiverStep (fun _ => True) (fun _ => True) session.answers

-- `metadata` gives the length of a file as a `u64`.
def PartFits (path : String) (disk : Disk) : Prop :=
  ∀ content, disk (partPath path) = some content → content.length < 2 ^ 64

/-- The disks that sessions and crashes lead to. -/
inductive Reached (path : String) : Disk → Prop where
  | start {disk : Disk} (fits : PartFits path disk) : Reached path disk
  | stopped {world after : Receiver} {task : RuntimeTask IoError Unit} (session : Session path)
      (before : Reached path world.state)
      (run : Reaches session.Step (session.task platform) world task after) :
      Reached path after.state
  | cut {world middle : Receiver} {op : FileOp} {next : op.Result → RuntimeTask IoError Unit}
      {after : Disk} (session : Session path) (before : Reached path world.state)
      (run : Reaches session.Step (session.task platform) world (.call (.file op) next) middle)
      (left : Leaves middle.state op after) : Reached path after

def Delivered (request : TransferV1Request) (path : String) (disk : Disk) : Prop :=
  ∃ content, disk path = some content ∧ sha256 content = request.digest

/-- The offset is the length of the part file, which a complete transfer has
already moved to the destination. -/
def Reports (path : String) (disk : Disk) (resume : TransferV1Resume) : Prop :=
  ∃ content, disk (if resume.complete then path else partPath path) = some content ∧
    content.length = resume.offset.toNat

structure Sound (request : TransferV1Request) (path : String) (world : Receiver)
    (op : RuntimeOp) : Prop where
  delivers : ∀ called after, op = .file called → Leaves world.state called after →
    after path = world.state path ∨ Delivered request path after
  reports : ∀ stream resume, op = .write stream (.transferV1Resume resume) →
    Reports path world.state resume

def StateReadable (path : String) (disk : Disk) : Prop :=
  ∀ bytes, disk (statePath path) = some bytes → ∃ state, platform.transferV1State bytes = .ok state
end Sessions

/-! Operations that leave the destination alone. -/
section Harmless
variable {target : String}

def Harmless (path : String) (disk : Disk) (op : FileOp) : Prop :=
  ∀ after, Leaves disk op after → PartFits path after ∧ after path = disk path

def isReading : FileOp → Bool
  | .createDirAll _ | .openAppend _ | .flush _ | .read _ | .exists_ _ | .length _ | .hash _ => true
  | _ => false

theorem part_ne_path : partPath path ≠ path := by
  intro same
  exact append_ne (by decide : ".misaka-part" ≠ "") (same.trans String.append_empty.symm)

theorem harmless_reading {op : FileOp} (fits : PartFits path disk) (reading : isReading op = true) :
    Harmless path disk op := by
  intro after left
  cases left with
  | @whole _ result _ answered =>
    have same : after = disk := by
      cases op <;> first | (cases answered; rfl) | cases reading
    rw [same]
    exact ⟨fits, rfl⟩
  | written first | appended first => cases reading

theorem harmless_update {content : Option (List UInt8)} (elsewhere : target ≠ path)
    (fits : PartFits path disk)
    (small : ∀ bytes, target = partPath path → content = some bytes → bytes.length < 2 ^ 64) :
    PartFits path (Function.update disk target content) ∧
      Function.update disk target content path = disk path := by
  constructor
  · intro bytes found
    by_cases same : partPath path = target
    · rw [same, Function.update_self] at found
      exact small bytes same.symm found
    · rw [Function.update_of_ne same] at found
      exact fits bytes found
  · rw [Function.update_of_ne elsewhere.symm]

theorem harmless_remove (elsewhere : target ≠ path) (fits : PartFits path disk) :
    Harmless path disk (.remove target) := by
  intro after left
  cases left with
  | whole answered =>
    cases answered
    apply harmless_update elsewhere fits
    intro bytes _ removed
    cases removed

theorem harmless_create (fits : PartFits path disk) :
    Harmless path disk (.create (partPath path)) := by
  intro after left
  cases left with
  | whole answered =>
    cases answered
    apply harmless_update part_ne_path fits
    intro bytes _ emptied
    cases emptied
    decide

variable {bytes : List UInt8}

theorem harmless_save (fits : PartFits path disk) :
    Harmless path disk (.write (statePath path) bytes) := by
  have saved : ∀ kept, PartFits path (Function.update disk (statePath path) (some kept)) ∧
      Function.update disk (statePath path) (some kept) path = disk path := by
    intro kept
    apply harmless_update state_ne_path fits
    intro _ same
    exact absurd same.symm part_ne_state
  intro after left
  cases left with
  | whole answered =>
    cases answered
    exact saved bytes
  | written first => exact saved _

theorem harmless_append {handle : FileHandle} (fits : PartFits path disk)
    (part : disk (partPath path) = some content) (small : content.length + bytes.length < 2 ^ 64) :
    Harmless path disk (.writeAll ⟨partPath path, handle⟩ bytes) := by
  have appended : ∀ kept, kept <+: bytes →
      PartFits path (Function.update disk (partPath path)
        ((disk (partPath path)).map (· ++ kept))) ∧
      Function.update disk (partPath path) ((disk (partPath path)).map (· ++ kept)) path =
        disk path := by
    intro kept first
    apply harmless_update part_ne_path fits
    intro longer _ grown
    rw [part] at grown
    cases grown
    rw [List.length_append]
    have shorter := first.length_le
    omega
  intro after left
  cases left with
  | whole answered =>
    cases answered
    exact appended bytes List.prefix_rfl
  | appended first => exact appended _ first
end Harmless

/-! The file side of a session, for any way the stream may behave. -/
section Files
variable {platform : Platform}
variable {step : Receiver → (op : RuntimeOp) → op.Result → Receiver → Prop}
variable {guard : Receiver → RuntimeOp → Prop}

/-- The disk answers the file operations, and the guard asks nothing of those
that leave the destination alone. -/
structure OnDisk (path : String)
    (step : Receiver → (op : RuntimeOp) → op.Result → Receiver → Prop)
    (guard : Receiver → RuntimeOp → Prop) : Prop where
  files : ∀ {world after : Receiver} {op : FileOp} {result given : op.Result} {disk : Disk},
    answer world.state op = some (result, disk) → step world (.file op) given after →
      given = result ∧ after = { world with state := disk }
  allowed : ∀ {world : Receiver} {op : FileOp}, PartFits path world.state →
    Harmless path world.state op → guard world (.file op)

variable (onDisk : OnDisk path step guard)
variable {failed : Receiver → IoError → Prop}

include onDisk

variable {after : Disk}

theorem holds_file {op : FileOp} {result : op.Result} {post : Receiver → op.Result → Prop}
    (fits : PartFits path disk) (harmless : Harmless path disk op)
    (answered : answer disk op = some (result, after))
    (next : post ⟨after, received, sent⟩ result) :
    Holds step guard (perform (RuntimeOp.file op)) post failed ⟨disk, received, sent⟩ := by
  rw [holds_perform]
  constructor
  · exact onDisk.allowed fits harmless
  · intro given world taken
    obtain ⟨rfl, rfl⟩ := onDisk.files answered taken
    exact next

theorem holds_file_call {op : FileOp} {Value : Type} {fallible : op.Result = Except IoError Value}
    {value : Value} {result : op.Result} {post : Receiver → Value → Prop}
    (fits : PartFits path disk) (harmless : Harmless path disk op)
    (answered : answer disk op = some (result, after)) (worked : cast fallible result = .ok value)
    (next : post ⟨after, received, sent⟩ value) :
    Holds step guard (fileCall op fallible) post failed ⟨disk, received, sent⟩ := by
  unfold fileCall
  rw [holds_bind]
  apply holds_file onDisk fits harmless answered
  rw [worked]
  exact (holds_done value).mpr next

variable {post : Receiver → Unit → Prop}

theorem holds_discard {target : String} (elsewhere : target ≠ path) (fits : PartFits path disk)
    (next : post ⟨Function.update disk target none, received, sent⟩ ()) :
    Holds step guard (discardFile target) post failed ⟨disk, received, sent⟩ := by
  unfold discardFile
  rw [holds_bind]
  apply holds_file onDisk fits (harmless_remove elsewhere fits) rfl
  exact (holds_pure ()).mpr next

theorem parent_holds (fits : PartFits path disk) (next : post ⟨disk, received, sent⟩ ()) :
    Holds step guard (createParent platform (partPath path)) post failed ⟨disk, received, sent⟩ := by
  unfold createParent
  cases platform.parentDir (partPath path) with
  | some parent => exact holds_file_call onDisk fits (harmless_reading fits rfl) rfl rfl next
  | none => exact (holds_pure ()).mpr next

variable {request : TransferV1Request} {state : TransferV1State}

variable {post : Receiver → Bool → Prop}

theorem part_is_stale_holds (fits : PartFits path disk) (stale : post ⟨disk, received, sent⟩ true)
    (fresh : ∀ content, disk (partPath path) = some content → content.length = state.offset.toNat →
      state.offset ≤ request.size → post ⟨disk, received, sent⟩ false) :
    Holds step guard (partIsStale request (partPath path) state) post failed
      ⟨disk, received, sent⟩ := by
  unfold partIsStale
  by_cases beyond : state.offset > request.size
  · rw [if_pos beyond, holds_pure]
    exact stale
  · rw [if_neg beyond, holds_bind]
    apply holds_file onDisk fits (harmless_reading fits rfl) rfl
    cases part : disk (partPath path) with
    | none => exact (holds_pure true).mpr stale
    | some content =>
      change Holds step guard (pure (UInt64.ofNat content.length != state.offset)) _ _ _
      rw [holds_pure]
      by_cases same : UInt64.ofNat content.length = state.offset
      · rw [same, bne_self_eq_false]
        apply fresh content part
        · rw [← same, UInt64.toNat_ofNat_of_lt' (fits content part)]
        · exact UInt64.not_lt.mp beyond
      · rw [bne_iff_ne.mpr same]
        exact stale

/-- Where a session starts: afresh, or at the end of the part file that the saved
state describes. -/
inductive Settled (platform : Platform) (request : TransferV1Request) (path : String)
    (disk : Disk) : Disk → TransferV1State → Prop where
  | afresh {after : Disk} {state : TransferV1State}
      (same : sameTransferV1 request state = true) (start : state.offset = 0)
      (gone : after (partPath path) = none) (destination : after path = disk path) :
      Settled platform request path disk after state
  | kept {state : TransferV1State} {bytes content : List UInt8}
      (same : sameTransferV1 request state = true)
      (saved : disk (statePath path) = some bytes)
      (reads : platform.transferV1State bytes = .ok state)
      (part : disk (partPath path) = some content)
      (length : content.length = state.offset.toNat) (within : state.offset ≤ request.size) :
      Settled platform request path disk disk state

-- Of no use to this transfer, so both files go.
theorem drop_holds {post : Receiver → TransferV1State → Prop} (fits : PartFits path disk)
    (next : ∀ after state, Settled platform request path disk after state →
      post ⟨after, received, sent⟩ state) :
    Holds step guard (do
        discardFile (partPath path)
        discardFile (statePath path)
        pure (freshTransferV1State request))
      (fun middle state => Holds step guard (do
        let stale ← partIsStale request (partPath path) state
        if stale then do
          discardFile (partPath path)
          pure { state with offset := 0 }
        else pure state) post failed middle) failed ⟨disk, received, sent⟩ := by
  have same : sameTransferV1 request (freshTransferV1State request) = true := by
    simp [sameTransferV1, freshTransferV1State]
  rw [holds_bind]
  apply holds_discard onDisk part_ne_path fits
  have partGone := harmless_remove part_ne_path fits _ (.whole rfl)
  rw [holds_bind]
  apply holds_discard onDisk state_ne_path partGone.1
  have bothGone := harmless_remove state_ne_path partGone.1 _ (.whole rfl)
  rw [holds_pure, holds_bind]
  apply part_is_stale_holds onDisk bothGone.1
  · rw [if_pos rfl, holds_bind]
    apply holds_discard onDisk part_ne_path bothGone.1
    have again := harmless_remove part_ne_path bothGone.1 _ (.whole rfl)
    rw [holds_pure]
    apply next
    exact .afresh same rfl (Function.update_self _ _ _) (again.2.trans (bothGone.2.trans partGone.2))
  · intro content part
    rw [Function.update_of_ne part_ne_state, Function.update_self] at part
    cases part

theorem settled_holds {post : Receiver → TransferV1State → Prop} (fits : PartFits path disk)
    (unreadable : ¬ StateReadable platform path disk → ∀ error, failed ⟨disk, received, sent⟩ error)
    (next : StateReadable platform path disk → ∀ after state,
      Settled platform request path disk after state → post ⟨after, received, sent⟩ state) :
    Holds step guard
      (settledTransferV1State platform request (partPath path) (statePath path)) post failed
      ⟨disk, received, sent⟩ := by
  unfold settledTransferV1State resumedTransferV1State loadTransferV1State loadState
  rw [holds_bind, holds_bind, holds_bind]
  apply holds_file_call onDisk fits (harmless_reading fits rfl) rfl rfl
  cases saved : disk (statePath path) with
  | none =>
    have readable : StateReadable platform path disk := by
      intro bytes found
      cases saved.symm.trans found
    rw [Option.isSome_none, if_neg Bool.false_ne_true, holds_pure, holds_bind]
    apply holds_file_call onDisk fits (harmless_reading fits rfl) rfl rfl
    exact drop_holds onDisk fits (next readable)
  | some bytes =>
    rw [Option.isSome_some, if_pos rfl, holds_bind]
    apply holds_file_call onDisk fits (harmless_reading fits rfl) rfl
    · exact found_some id saved
    rw [id_eq, holds_bind, holds_or_error]
    cases decoded : platform.transferV1State bytes with
    | error message =>
      refine ⟨fun found impossible => (by cases impossible), fun error _ => ?_⟩
      apply unreadable
      intro readable
      obtain ⟨state, found⟩ := readable bytes saved
      cases decoded.symm.trans found
    | ok state =>
      have readable : StateReadable platform path disk := by
        intro other found
        cases saved.symm.trans found
        exact ⟨state, decoded⟩
      refine ⟨?_, fun error impossible => (by cases impossible)⟩
      rintro _ ⟨⟩
      rw [holds_pure, holds_bind]
      apply holds_file_call onDisk fits (harmless_reading fits rfl) rfl rfl
      by_cases useful : sameTransferV1 request state = true ∧
          (disk (partPath path)).isSome = true
      · obtain ⟨same, present⟩ := useful
        rw [Option.any_some, same, present, Bool.not_true, Bool.false_or, if_neg Bool.false_ne_true,
          holds_pure, holds_bind]
        apply part_is_stale_holds onDisk fits
        · rw [if_pos rfl, holds_bind]
          apply holds_discard onDisk part_ne_path fits
          have gone := harmless_remove part_ne_path fits _ (.whole rfl)
          rw [holds_pure]
          apply next readable
          exact .afresh same rfl (Function.update_self _ _ _) gone.2
        · intro content part length within
          rw [if_neg Bool.false_ne_true, holds_pure]
          exact next readable _ _ (.kept same saved decoded part length within)
      · have dropped : (!(some state).any (sameTransferV1 request) ||
            !(disk (partPath path)).isSome) = true := by
          rw [Option.any_some]
          revert useful
          cases sameTransferV1 request state <;> cases (disk (partPath path)).isSome <;> simp
        rw [dropped]
        exact drop_holds onDisk fits (next readable)

/-- The part file is there, and its length is the offset. -/
structure Opened (platform : Platform) (request : TransferV1Request) (path : String)
    (disk after : Disk) (state : TransferV1State) (content : List UInt8) : Prop where
  same : sameTransferV1 request state = true
  part : after (partPath path) = some content
  length : content.length = state.offset.toNat
  within : state.offset ≤ request.size
  destination : after path = disk path
  since : state.offset = 0 ∨ after = disk ∧ ∃ bytes, disk (statePath path) = some bytes ∧
    platform.transferV1State bytes = .ok state

omit onDisk in
theorem opened_fits (opened : Opened platform request path disk after state content) :
    PartFits path after := by
  intro bytes found
  cases opened.part.symm.trans found
  rw [opened.length]
  exact state.offset.toNat_lt

theorem create_holds {post : Receiver → Unit → Prop}
    (settled : Settled platform request path disk after state)
    (next : ∀ created content, Opened platform request path disk created state content →
      post ⟨created, received, sent⟩ ()) :
    Holds step guard (createMissingPart (partPath path)) post failed ⟨after, received, sent⟩ := by
  unfold createMissingPart createFile openAt
  rw [holds_bind]
  cases settled with
  | afresh same start gone destination =>
    have fits : PartFits path after := by
      intro content found
      cases gone.symm.trans found
    have created := harmless_create fits _ (.whole rfl)
    apply holds_file_call onDisk fits (harmless_reading fits rfl) rfl rfl
    rw [gone, Option.isSome_none, if_neg Bool.false_ne_true, holds_bind, holds_bind]
    apply holds_file_call onDisk fits (harmless_create fits) rfl rfl
    rw [holds_pure, holds_pure]
    apply next _ []
    constructor
    · exact same
    · exact Function.update_self _ _ _
    · rw [start]
      rfl
    · rw [start]
      exact UInt64.zero_le
    · exact created.2.trans destination
    · exact .inl start
  | @kept _ bytes content same saved reads part length within =>
    have fits : PartFits path disk := by
      intro found present
      cases part.symm.trans present
      rw [length]
      exact state.offset.toNat_lt
    apply holds_file_call onDisk fits (harmless_reading fits rfl) rfl rfl
    rw [part, Option.isSome_some, if_pos rfl, holds_pure]
    exact next disk content ⟨same, part, length, within, rfl, .inr ⟨rfl, bytes, saved, reads⟩⟩

theorem part_is_complete_holds (fits : PartFits path disk)
    (part : disk (partPath path) = some content)
    (complete : state.offset = request.size → sha256 content = request.digest → post ⟨disk,
      received, sent⟩ true)
    (incomplete : (state.offset = request.size → sha256 content ≠ request.digest) → post ⟨disk,
      received, sent⟩ false) :
    Holds step guard (partIsComplete request (partPath path) state) post failed
      ⟨disk, received, sent⟩ := by
  unfold partIsComplete
  by_cases full : state.offset = request.size
  · rw [if_pos full, holds_bind]
    apply holds_file_call onDisk fits (harmless_reading fits rfl) rfl
    · exact found_some sha256 part
    rw [holds_pure]
    by_cases matching : sha256 content = request.digest
    · rw [beq_iff_eq.mpr matching]
      exact complete full matching
    · rw [beq_eq_false_iff_ne.mpr matching]
      exact incomplete fun _ => matching
  · rw [if_neg full, holds_pure]
    exact incomplete fun reached => absurd reached full

theorem commit_holds {post : Receiver → Unit → Prop}
    (part : disk (partPath path) = some content)
    (renames : guard ⟨disk, received, sent⟩ (.file (.rename (partPath path) path)))
    (next : ∀ after : Disk, PartFits path after → after path = some content →
      after (statePath path) = none → post ⟨after, received, sent⟩ ()) :
    Holds step guard (commitPart (partPath path) (statePath path) path) post failed
      ⟨disk, received, sent⟩ := by
  have renamed : moved disk (partPath path) path =
      Function.update (Function.update disk (partPath path) none) path (some content) := by
    rw [moved, part]
  have fits : PartFits path (moved disk (partPath path) path) := by
    intro bytes found
    rw [renamed, Function.update_of_ne part_ne_path, Function.update_self] at found
    cases found
  unfold commitPart finalizeTransferPart renameOver
  rw [holds_bind, holds_bind]
  rw [holds_perform]
  constructor
  · exact renames
  intro given world taken
  obtain ⟨rfl, rfl⟩ := onDisk.files rfl taken
  rw [found_some _ part]
  change Holds step guard (.done ()) _ failed _
  rw [holds_done]
  apply holds_discard onDisk state_ne_path fits
  have cleared := harmless_remove state_ne_path fits _ (.whole rfl)
  apply next
  · exact cleared.1
  · rw [cleared.2, renamed, Function.update_self]
  · exact Function.update_self _ _ _

theorem restart_holds {post : Receiver → TransferV1State → Prop}
    (fits : PartFits path disk)
    (full : state.offset = request.size → ∀ after : Disk, after (partPath path) = some [] →
      after path = disk path → post ⟨after, received, sent⟩ { state with offset := 0 })
    (unfinished : state.offset ≠ request.size → post ⟨disk, received, sent⟩ state) :
    Holds step guard (restartPart platform request (partPath path) (statePath path) state) post
      failed ⟨disk, received, sent⟩ := by
  unfold restartPart createFile openAt saveTransferV1State writeFile
  by_cases complete : state.offset = request.size
  · have created := harmless_create fits _ (.whole rfl)
    rw [if_pos complete, holds_bind, holds_bind]
    apply holds_file_call onDisk fits (harmless_create fits) rfl rfl
    rw [holds_pure, holds_bind]
    apply holds_file_call onDisk created.1 (harmless_save created.1) rfl rfl
    rw [holds_pure]
    apply full complete
    · rw [Function.update_of_ne part_ne_state, Function.update_self]
    · exact (harmless_save created.1 _ (.whole rfl)).2.trans created.2
  · rw [if_neg complete, holds_pure]
    exact unfinished complete

theorem append_holds {payload : List UInt8} {offset : Nat} {post : Receiver → Unit → Prop}
    (part : disk (partPath path) = some content)
    (small : content.length + payload.length < 2 ^ 64)
    (next : ∀ after : Disk, after (partPath path) = some (content ++ payload) →
      after (statePath path) = some (platform.transferV1Json
        { freshTransferV1State request with offset := UInt64.ofNat offset }) →
      post ⟨after, received, sent⟩ ()) :
    Holds step guard
      (appendChunk platform request (partPath path) (statePath path) payload offset) post failed
      ⟨disk, received, sent⟩ := by
  have fits : PartFits path disk := by
    intro bytes found
    cases part.symm.trans found
    omega
  have appending : Harmless path disk (.writeAll ⟨partPath path, ⟨0⟩⟩ payload) :=
    harmless_append fits part small
  have grown := (appending _ (.whole rfl)).1
  unfold appendChunk openAppend openAt
  rw [holds_bind, holds_bind]
  apply holds_file_call onDisk fits (harmless_reading fits rfl) rfl
  · exact found_some _ part
  rw [holds_pure, holds_bind]
  apply holds_file_call onDisk fits appending rfl rfl
  rw [holds_bind]
  apply holds_file_call onDisk grown (harmless_reading grown rfl) rfl rfl
  apply holds_file_call onDisk grown (harmless_save grown) rfl rfl
  apply next
  · rw [Function.update_of_ne part_ne_state, Function.update_self, part, Option.map_some]
  · exact Function.update_self _ _ _
end Files

/-! Any sender. -/
section Senders
variable {platform : Platform}

structure Guarded (request : TransferV1Request) (path : String) (world : Receiver)
    (op : RuntimeOp) : Prop where
  fits : PartFits path world.state
  keeps : ∀ called after, op = .file called → Leaves world.state called after → PartFits path after
  sound : Sound request path world op

variable {session : Session path}

theorem session_on_disk : OnDisk path session.Step (Guarded session.request path) := by
  constructor
  · intro world after op result given disk answered taken
    obtain ⟨left, given, rfl⟩ := taken
    rw [answered] at given
    obtain ⟨rfl, rfl⟩ := given
    exact ⟨rfl, rfl⟩
  · intro world op fits harmless
    constructor
    · exact fits
    · rintro called after ⟨⟩ left
      exact (harmless after left).1
    · constructor
      · rintro called after ⟨⟩ left
        exact .inl (harmless after left).2
      · intro stream resume same
        cases same

variable (fits : PartFits path disk)
include fits

variable {count : Nat}

theorem guarded_read :
    Guarded session.request path ⟨disk, received, sent⟩ (.readExact stream count) := by
  constructor
  · exact fits
  · intro called after same
    cases same
  · constructor
    · intro called after same
      cases same
    · intro stream resume same
      cases same

variable {frame : StreamFrame}

theorem guarded_write
    (reports : ∀ resume, frame = .transferV1Resume resume → Reports path disk resume) :
    Guarded session.request path ⟨disk, received, sent⟩ (.write stream frame) := by
  constructor
  · exact fits
  · intro called after same
    cases same
  · constructor
    · intro called after same
      cases same
    · rintro stream resume ⟨⟩
      exact reports resume rfl

theorem guarded_rename (part : disk (partPath path) = some content)
    (matching : sha256 content = session.request.digest) :
    Guarded session.request path ⟨disk, received, sent⟩ (.file (.rename (partPath path) path)) := by
  have renamed : ∀ after, Leaves disk (.rename (partPath path) path) after →
      after = Function.update (Function.update disk (partPath path) none) path (some content) := by
    intro after left
    cases left with
    | whole answered =>
      cases answered
      rw [moved, part]
  constructor
  · exact fits
  · rintro called after ⟨⟩ left bytes found
    rw [renamed after left, Function.update_of_ne part_ne_path, Function.update_self] at found
    cases found
  · constructor
    · rintro called after ⟨⟩ left
      rw [renamed after left]
      exact .inr ⟨content, Function.update_self _ _ _, matching⟩
    · intro stream resume same
      cases same

abbrev Kept (path : String) {Value : Type} (after : Receiver) (_ : Value) : Prop :=
  PartFits path after.state

theorem any_read {post : Receiver → Except IoError (List UInt8) → Prop}
    {failed : Receiver → IoError → Prop}
    (next : ∀ heard result, (∀ bytes, result = .ok bytes → bytes.length = count) →
      post ⟨disk, heard, sent⟩ result) :
    Holds session.Step (Guarded session.request path) (perform (RuntimeOp.readExact stream count))
      post failed ⟨disk, received, sent⟩ := by
  rw [holds_perform]
  constructor
  · exact guarded_read fits
  · intro result after taken
    cases result with
    | ok bytes =>
      obtain ⟨_, long, rfl⟩ := taken
      apply next
      rintro _ ⟨⟩
      exact long
    | error error =>
      obtain ⟨_, rfl⟩ := taken
      apply next
      intro bytes same
      cases same

theorem any_write {post : Receiver → Unit → Prop}
    (reports : ∀ resume, frame = .transferV1Resume resume → Reports path disk resume)
    (next : post ⟨disk, received, sent ++ [frame]⟩ ()) :
    Holds session.Step (Guarded session.request path) (writeBincodeFrame stream frame) post
      (Kept path) ⟨disk, received, sent⟩ := by
  unfold writeBincodeFrame
  rw [holds_bind, holds_perform]
  constructor
  · exact guarded_write fits reports
  · intro result after taken
    cases result with
    | ok done =>
      obtain ⟨_, rfl⟩ := taken
      exact (holds_done ()).mpr next
    | error error =>
      obtain ⟨_, rfl⟩ := taken
      exact (holds_fail error).mpr fits

theorem any_frame {limit : Nat} {Value : Type} {decode : Decoder Value}
    {post : Receiver → Value → Prop} (next : ∀ heard value, post ⟨disk, heard, sent⟩ value) :
    Holds session.Step (Guarded session.request path) (readBincodeFrame limit decode stream) post
      (Kept path) ⟨disk, received, sent⟩ := by
  unfold readBincodeFrame readRequest readFrame
  rw [holds_bind]
  apply any_read fits
  intro heard header _
  simp only [holds_bind, holds_or_error, holds_ensure]
  refine ⟨fun bytes _ => ⟨fun _ => ?_, fun _ => fits⟩, fun error _ => fits⟩
  apply any_read fits
  intro heard payload _
  exact ⟨fun bytes _ => ⟨fun value _ => next heard value, fun error _ => fits⟩, fun error _ => fits⟩

theorem any_payload {post : Receiver → List UInt8 → Prop}
    (next : ∀ heard payload, payload.length = count → post ⟨disk, heard, sent⟩ payload) :
    Holds session.Step (Guarded session.request path) (readPayload stream count) post (Kept path)
      ⟨disk, received, sent⟩ := by
  unfold readPayload
  rw [holds_bind]
  apply any_read fits
  intro heard payload long
  rw [holds_or_error]
  exact ⟨fun bytes same => next heard bytes (long bytes same), fun error _ => fits⟩

theorem any_finish (part : disk (partPath path) = some content) :
    Holds session.Step (Guarded session.request path)
      (finishTransferV1 session.request (partPath path) (statePath path) stream) (Kept path)
      (Kept path) ⟨disk, received, sent⟩ := by
  have silent : ∀ {result : TransferResult} {disk : Disk} (resume : TransferV1Resume),
      StreamFrame.transferResult result = .transferV1Resume resume → Reports path disk resume := by
    intro result disk resume same
    cases same
  unfold finishTransferV1 commitMatching
  rw [holds_bind]
  apply holds_file_call session_on_disk fits (harmless_reading fits rfl) rfl
  · exact found_some sha256 part
  rw [holds_bind]
  by_cases matching : sha256 content = session.request.digest
  · rw [beq_iff_eq.mpr matching, session.targets]
    apply commit_holds session_on_disk part (guarded_rename fits part matching)
    intro after fits _ _
    exact any_write fits silent fits
  · rw [beq_eq_false_iff_ne.mpr matching, if_neg Bool.false_ne_true, holds_pure]
    exact any_write fits silent fits

omit fits

theorem any_chunks {offset : Nat} (within : offset ≤ session.request.size.toNat)
    (part : disk (partPath path) = some content) (length : content.length = offset) :
    Holds session.Step (Guarded session.request path)
      (receiveChunks platform session.request (partPath path) (statePath path) stream offset)
      (Kept path) (Kept path) ⟨disk, received, sent⟩ := by
  induction missing : session.request.size.toNat - offset using Nat.strong_induction_on
    generalizing offset content disk received sent with
  | _ count ih =>
    subst missing
    have limit := session.request.size.toNat_lt
    have fits : PartFits path disk := by
      intro bytes found
      cases part.symm.trans found
      omega
    rw [receiveChunks, holds_bind]
    apply any_frame fits
    intro heard chunk
    by_cases checked : chunkFits session.request chunk offset
    · have bounded := checked.2.2.2.2
      rw [dif_pos checked, holds_bind]
      apply any_payload fits
      intro heard payload long
      rw [holds_bind, holds_ensure]
      refine ⟨fun _ => ?_, fun _ => fits⟩
      rw [holds_bind]
      apply append_holds session_on_disk part
      · omega
      intro after grown _
      have longer : (content ++ payload).length = offset + chunk.len.toNat := by
        rw [List.length_append, length, long]
      have kept : PartFits path after := by
        intro bytes found
        cases grown.symm.trans found
        omega
      rw [holds_bind]
      apply any_write kept
      · intro resume same
        cases same
      by_cases last : (offset + chunk.len.toNat == session.request.size.toNat) = true
      · rw [if_pos last]
        exact any_finish kept grown
      · rw [if_neg last]
        exact ih _ (chunk_fits_progress checked) bounded grown longer rfl
    · rw [dif_neg checked]
      exact (holds_fail _).mpr fits

theorem any_session (fits : PartFits path disk) :
    Holds session.Step (Guarded session.request path) (session.task platform) (Kept path)
      (Kept path) ⟨disk, received, sent⟩ := by
  unfold Session.task resumeTransferV1
  rw [holds_bind]
  apply parent_holds session_on_disk fits
  rw [holds_bind]
  apply settled_holds session_on_disk fits
  · intro _ error
    exact fits
  intro _ settledDisk state settled
  rw [holds_bind]
  apply create_holds session_on_disk settled
  intro after content opened
  have fits := opened_fits opened
  rw [holds_bind]
  apply part_is_complete_holds session_on_disk fits opened.part
  · intro full matching
    rw [if_pos rfl, holds_bind, session.targets]
    apply commit_holds session_on_disk opened.part (guarded_rename fits opened.part matching)
    intro committed fits delivered _
    rw [holds_bind]
    apply any_write fits
    · rintro resume ⟨⟩
      exact ⟨content, delivered, opened.length⟩
    apply any_write fits
    · intro resume same
      cases same
    exact fits
  · intro _
    rw [if_neg Bool.false_ne_true, holds_bind]
    apply restart_holds session_on_disk fits
    · intro _ emptied part _
      have fits : PartFits path emptied := by
        intro bytes found
        cases part.symm.trans found
        decide
      rw [holds_bind]
      apply any_write fits
      · rintro resume ⟨⟩
        exact ⟨[], part, rfl⟩
      exact any_chunks (Nat.zero_le _) part rfl
    · intro _
      rw [holds_bind]
      apply any_write fits
      · rintro resume ⟨⟩
        exact ⟨content, opened.part, opened.length⟩
      exact any_chunks (UInt64.le_iff_toNat_le.mp opened.within) opened.part opened.length

theorem reached_fits (reached : Reached platform path disk) : PartFits path disk := by
  induction reached with
  | start fits => exact fits
  | @stopped world after task session _ run fits =>
    have now := holds_reaches (any_session fits) run
    cases task with
    | done value => exact (holds_done value).mp now
    | fail error => exact (holds_fail error).mp now
    | call op next => exact ((holds_call op next).mp now).1.fits
  | cut session _ run left fits =>
    have now := holds_reaches (any_session fits) run
    exact ((holds_call _ _).mp now).1.keeps _ _ rfl left

def OffDisk : RuntimeOp → Prop
  | .file _ => False
  | _ => True

variable {answers : (op : RuntimeOp) → op.Result}

theorem off_disk_reaches {Value : Type} {before after : Receiver}
    {task final : RuntimeTask IoError Value} (quiet : Only OffDisk task)
    (run : Reaches (ReceiverStep (fun _ => True) (fun _ => True) answers) task before final after) :
    after.state = before.state := by
  refine reaches_keeps (fun later => later.state = before.state) quiet ?_ run rfl
  intro world op result next off taken kept
  rw [← kept]
  cases op with
  | file op => exact off.elim
  | readExact stream count =>
    cases result with
    | ok bytes =>
      obtain ⟨_, _, rfl⟩ := taken
      rfl
    | error error =>
      obtain ⟨_, rfl⟩ := taken
      rfl
  | write stream frame =>
    cases result with
    | ok done | error error =>
      obtain ⟨_, rfl⟩ := taken
      rfl
  | _ =>
    obtain ⟨_, rfl⟩ := taken
    rfl
end Senders

/-! Runs that come to a given file operation. -/
section Coming
variable {session : Session path}

/-- Some run of the session comes to the file operation. -/
def Comes (session : Session path) (task : RuntimeTask IoError Unit) (world : Receiver)
    (op : FileOp) : Prop :=
  ∃ next after, Reaches session.Step task world (.call (.file op) next) after

variable {target : FileOp}

theorem comes_next {op : RuntimeOp} {result : op.Result} {world middle : Receiver}
    {next : op.Result → RuntimeTask IoError Unit} (taken : session.Step world op result middle)
    (rest : Comes session (next result) middle target) :
    Comes session (.call op next) world target := by
  obtain ⟨later, after, run⟩ := rest
  exact ⟨later, after, .next taken run⟩

theorem comes_file (op : FileOp) {result : op.Result} {after : Disk}
    {next : op.Result → RuntimeTask IoError Unit} (answered : answer disk op = some (result, after))
    (rest : Comes session (next result) ⟨after, received, sent⟩ target) :
    Comes session (.call (.file op) next) ⟨disk, received, sent⟩ target := by
  have taken : session.Step ⟨disk, received, sent⟩ (.file op) result ⟨after, received, sent⟩ :=
    ⟨after, answered, rfl⟩
  exact comes_next taken rest

theorem comes_write {frame : StreamFrame} {next : Except IoError Unit → RuntimeTask IoError Unit}
    (rest : Comes session (next (.ok ())) ⟨disk, received, sent ++ [frame]⟩ target) :
    Comes session (.call (.write stream frame) next) ⟨disk, received, sent⟩ target := by
  have taken : session.Step ⟨disk, received, sent⟩ (.write stream frame) (.ok ())
      ⟨disk, received, sent ++ [frame]⟩ := ⟨trivial, rfl⟩
  exact comes_next taken rest

theorem comes_read {count : Nat} (words : List UInt8)
    {next : Except IoError (List UInt8) → RuntimeTask IoError Unit} (long : words.length = count)
    (rest : Comes session (next (.ok words)) ⟨disk, received ++ words, sent⟩ target) :
    Comes session (.call (.readExact stream count) next) ⟨disk, received, sent⟩ target := by
  have taken : session.Step ⟨disk, received, sent⟩ (.readExact stream count) (.ok words)
      ⟨disk, received ++ words, sent⟩ := ⟨trivial, long, rfl⟩
  exact comes_next taken rest

theorem comes_frame {limit : Nat} {Value : Type} {decode : Decoder Value} (body : List UInt8)
    {value : Value} {rest : Value → RuntimeTask IoError Unit} (short : body.length ≤ limit)
    (small : limit < 256 ^ 4) (decodes : decode body = .ok value)
    (next : Comes session (rest value) ⟨disk, received ++ framed body, sent⟩ target) :
    Comes session (readBincodeFrame limit decode stream >>= rest) ⟨disk, received, sent⟩ target := by
  have header : ofBigEndian (bigEndian 4 body.length) = body.length :=
    of_big_endian_encoding 4 body.length (short.trans_lt small)
  have width : (bigEndian 4 body.length).length = 4 := by
    rw [bigEndian, List.length_reverse, little_endian_length]
  unfold readBincodeFrame readRequest readFrame perform
  simp only [call_bind, done_bind]
  apply comes_read _ width
  rw [or_error_ok, done_bind, header, decide_eq_true short]
  apply comes_read body rfl
  change Comes session (orError invalidData (decode body) >>= rest) _ _
  rw [decodes, List.append_assoc]
  exact next
end Coming
end Misaka.TransferCrash
