import Misaka.CopyCommand
import Misaka.TransferDisk

/-!
What the two sides of transfer v1 say to each other about one file, from the
offset the receiver resumes at: the request and the offset, then chunk by chunk
and acknowledgement by acknowledgement. Both sides keep to this script, the
receiver with its part file and its saved state in step.
-/

namespace Misaka.TransferDialogue
open Bincode Identity Protocol EffectTask NodeRuntime HumanAuthorization TransferFiles
open StreamServices Duplex Sha256 CopyCommand TransferDisk
variable {offset : Nat} {past : List (Turn UInt8 StreamFrame)} {disk : Disk}
variable {stream : NetworkStream}

def partPath (path : String) : String := path ++ ".misaka-part"

def statePath (path : String) : String := path ++ ".misaka-part.json"

def savedState (file : SourceFile) (offset : Nat) : TransferV1State where
  size := file.size
  digest := sha256 file.bytes
  chunkSize := TRANSFER_V1_CHUNK_SIZE
  offset := UInt64.ofNat offset

-- What the sender asks for.
abbrev asked (prepared : PreparedCopy) (file : SourceFile) : TransferV1Request :=
  copyRequest prepared file.size (sha256 file.bytes)

/-! Chunks. -/
section Chunks
variable (file : SourceFile) (reads : Nat → Nat)

def chunkSlice (offset : Nat) : List UInt8 :=
  sourceSlice file reads TRANSFER_V1_CHUNK_SIZE.toNat offset

def chunkEnd (offset : Nat) : Nat := offset + (chunkSlice file reads offset).length

theorem chunk_slice_length (more : offset < file.bytes.length) :
    0 < (chunkSlice file reads offset).length ∧ (chunkSlice file reads offset).length ≤ 65536 ∧
      chunkEnd file reads offset ≤ file.bytes.length := by
  have size : TRANSFER_V1_CHUNK_SIZE.toNat = 65536 := rfl
  simp only [chunkEnd, chunkSlice, sourceSlice, readLength, List.length_take, List.length_drop]
  omega

theorem chunk_end_progress (more : offset < file.bytes.length) :
    file.bytes.length - chunkEnd file reads offset < file.bytes.length - offset := by
  have sizes := chunk_slice_length file reads more
  unfold chunkEnd at sizes ⊢
  omega

theorem take_chunk_end :
    file.bytes.take offset ++ chunkSlice file reads offset =
      file.bytes.take (chunkEnd file reads offset) := by
  rw [chunkEnd, List.take_add]
  congr 1
  rw [chunkSlice, sourceSlice, List.length_take, List.take_eq_take_min]

def framed (body : List UInt8) : List UInt8 := bigEndian 4 body.length ++ body

def ackFrame (next : Nat) : StreamFrame :=
  .transferV1Ack ⟨UInt64.ofNat next, next == file.bytes.length, none⟩

def resultFrame : StreamFrame := .transferResult ⟨true, file.size, sha256 file.bytes, none⟩

-- The last acknowledgement is followed by the result.
def chunkReplies (next : Nat) : List StreamFrame :=
  ackFrame file next :: if next = file.bytes.length then [resultFrame file] else []

def chunkTurn (offset : Nat) : Turn UInt8 StreamFrame where
  words := framed (chunkHeader offset (chunkSlice file reads offset)).encode ++
    chunkSlice file reads offset
  replies := chunkReplies file (chunkEnd file reads offset)

def chunkTurns (offset : Nat) : List (Turn UInt8 StreamFrame) :=
  if _ : offset < file.bytes.length then
    chunkTurn file reads offset :: chunkTurns (chunkEnd file reads offset)
  else []
termination_by file.bytes.length - offset
decreasing_by exact chunk_end_progress file reads ‹_›

theorem chunk_turns_more (more : offset < file.bytes.length) :
    chunkTurns file reads offset =
      chunkTurn file reads offset :: chunkTurns file reads (chunkEnd file reads offset) := by
  rw [chunkTurns, dif_pos more]

theorem chunk_turns_end : chunkTurns file reads file.bytes.length = [] := by
  rw [chunkTurns, dif_neg (Nat.lt_irrefl _)]
end Chunks

/-! Where a turn stands in the script. -/
section Turns
variable {file : SourceFile} {reads : Nat → Nat}
variable {script : List (Turn UInt8 StreamFrame)} (more : offset < file.bytes.length)
variable (split : script = past ++ chunkTurns file reads offset)

include more split

theorem split_next :
    script = (past ++ [chunkTurn file reads offset]) ++
      chunkTurns file reads (chunkEnd file reads offset) := by
  rw [split, chunk_turns_more file reads more, List.append_assoc]
  rfl

theorem cue_chunk :
    cue script (replying past).length = saying past ++ (chunkTurn file reads offset).words := by
  rw [split, chunk_turns_more file reads more]
  exact cue_opened past _ _ (List.cons_ne_nil _ _)

omit more in
theorem replying_past : replying past <+: replying script := by
  rw [split, replying_append]
  exact List.prefix_append _ _

theorem ack_due : ackFrame file (chunkEnd file reads offset) ∈ replying script := by
  rw [split, chunk_turns_more file reads more, replying_append]
  exact List.mem_append_right _ List.mem_cons_self

variable (last : chunkEnd file reads offset = file.bytes.length)

include last

theorem split_last : script = past ++ [chunkTurn file reads offset] := by
  rw [split_next more split, last, chunk_turns_end, List.append_nil]

-- After the last acknowledgement only the result is due.
theorem replying_last :
    replying script =
      replying past ++ [ackFrame file (chunkEnd file reads offset)] ++ [resultFrame file] := by
  rw [split_last more split last, replying_append, chunkTurn, chunkReplies, if_pos last,
    List.append_assoc]
  rfl

theorem cue_last :
    cue script (replying past ++ [ackFrame file (chunkEnd file reads offset)]).length =
      saying past ++ (chunkTurn file reads offset).words := by
  have two : 1 < (chunkTurn file reads offset).replies.length := by
    rw [chunkTurn, chunkReplies, if_pos last]
    exact Nat.lt_succ_self 1
  rw [split_last more split last, List.length_append]
  exact cue_turn past _ [] two
end Turns

variable {file : SourceFile} {reads : Nat → Nat}

theorem saying_next (past : List (Turn UInt8 StreamFrame)) :
    saying past ++ (chunkTurn file reads offset).words =
      saying (past ++ [chunkTurn file reads offset]) := by
  rw [saying_append, saying_cons, saying_nil, List.append_nil]

theorem replying_next (past : List (Turn UInt8 StreamFrame))
    (open_ : chunkEnd file reads offset ≠ file.bytes.length) :
    replying past ++ [ackFrame file (chunkEnd file reads offset)] =
      replying (past ++ [chunkTurn file reads offset]) := by
  rw [replying_append, replying_cons, replying_nil, List.append_nil, chunkTurn, chunkReplies,
    if_neg open_]

section Script
variable (file : SourceFile) (reads : Nat → Nat) (request : TransferV1Request)

def openingWords : List UInt8 := TRANSFER_V1_MAGIC ++ framed request.encode

def resumeFrame (offset : Nat) (complete : Bool) : StreamFrame :=
  .transferV1Resume ⟨UInt64.ofNat offset, complete, none⟩

def transferScript (offset : Nat) : List (Turn UInt8 StreamFrame) :=
  if offset = file.bytes.length then
    [⟨openingWords request, [resumeFrame offset true, resultFrame file]⟩]
  else ⟨openingWords request, [resumeFrame offset false]⟩ :: chunkTurns file reads offset
end Script

/-! The sender. -/
section Sending
variable {file : SourceFile} {reads : Nat → Nat} {answers : (op : CopyOp) → op.Result}
variable {script : List (Turn UInt8 StreamFrame)} {world : Sender}

variable (file reads answers script) in
abbrev Sends {Val : Type} (task : CopyTask Val) (post : Sender → Val → Prop)
    (failed : Sender → String → Prop) (world : Sender) : Prop :=
  Holds (hearing script (CopyStep file reads answers)) (Calls script WaitsForFrame) task post failed
    world

variable {failed : Sender → String → Prop}

theorem sends_free {op : CopyOp} {post : Sender → op.Result → Prop} (free : ¬ WaitsForFrame op)
    (cued : Cued script world)
    (next : ∀ result after, CopyStep file reads answers world op result after → post after result) :
    Sends file reads answers script (perform op) post failed world :=
  (holds_perform _).mpr ⟨⟨cued, fun waits => absurd waits free⟩,
    fun result after taken => next result after taken.1⟩

variable {context : String} {Value : Type} {value : Value}

theorem sends_call {op : CopyOp} {fallible : op.Result = Except String Value} {given : op.Result}
    {after : Sender} {post : Sender → Value → Prop} (free : ¬ WaitsForFrame op)
    (cued : Cued script world)
    (answered : ∀ result other, CopyStep file reads answers world op result other →
      result = given ∧ other = after) (worked : cast fallible given = .ok value)
    (next : post after value) :
    Sends file reads answers script (copyCall op fallible context) post failed world := by
  unfold copyCall
  rw [Sends, holds_bind]
  apply sends_free free cued
  intro result other taken
  obtain ⟨rfl, rfl⟩ := answered result other taken
  rw [worked]
  exact (holds_done value).mpr next

variable {post : Sender → Unit → Prop}

theorem sends_write {bytes : List UInt8} (cued : Cued script world)
    (next : post { world with sent := world.sent ++ bytes } ()) :
    Sends file reads answers script (writeBytes context bytes) post failed world := by
  unfold writeBytes
  rw [Sends, holds_bind]
  apply sends_free id cued
  rintro result after ⟨rfl, rfl⟩
  exact (holds_done ()).mpr next

/-- Writing is free while it stays inside what the script lets the sender say. -/
theorem sends_frame {body later : List UInt8}
    (cued : cue script world.received.length = world.sent ++ (framed body ++ later))
    (next : post { world with sent := world.sent ++ framed body } ()) :
    Sends file reads answers script (writeCliBincodeFrame body) post failed world := by
  unfold writeCliBincodeFrame
  rw [Sends, holds_bind]
  apply sends_write
  · exact ⟨_, cued.symm⟩
  apply sends_write
  · refine ⟨body ++ later, ?_⟩
    rw [cued, framed, List.append_assoc, List.append_assoc]
  · rw [List.append_assoc]
    exact next

theorem sends_hear {decode : StreamFrame → Except String Value} {frame : StreamFrame}
    {later : List StreamFrame} {post : Sender → Value → Prop}
    (said : world.sent = cue script world.received.length)
    (due : replying script = world.received ++ frame :: later) (decodes : decode frame = .ok value)
    (next : post { world with received := world.received ++ [frame] } value) :
    Sends file reads answers script (readCliBincodeFrame decode) post failed world := by
  unfold readCliBincodeFrame
  rw [Sends, holds_bind]
  refine (holds_perform _).mpr ⟨⟨⟨[], by rw [List.append_nil, said]⟩, fun _ => ⟨said, ?_⟩⟩, ?_⟩
  · rw [due, List.length_append, List.length_cons]
    omega
  · rintro result after ⟨⟨given, rfl, rfl⟩, heard⟩
    -- The reply that is due is the only one that can come.
    rw [due, List.prefix_append_right_inj, List.cons_prefix_cons] at heard
    obtain ⟨rfl, _⟩ := heard
    rw [or_error_ok, done_bind, decodes]
    exact (holds_done value).mpr next

theorem send_chunk_sends (more : offset < file.bytes.length)
    (split : script = past ++ chunkTurns file reads offset) (heard : world.received = replying past)
    (said : world.sent = saying past) (next : post
      { world with
        received := replying past ++ [ackFrame file (chunkEnd file reads offset)]
        sent := saying past ++ (chunkTurn file reads offset).words } ()) :
    Sends file reads answers script (sendChunk offset (chunkSlice file reads offset)) post failed
      world := by
  obtain ⟨cursor, received, sent⟩ := world
  obtain rfl : received = replying past := heard
  obtain rfl : sent = saying past := said
  have cued := cue_chunk more split
  have sizes := chunk_slice_length file reads more
  have small : chunkEnd file reads offset < 2 ^ 64 := sizes.2.2.trans_lt file.fits
  unfold sendChunk
  rw [Sends, holds_bind]
  apply sends_frame cued
  rw [holds_bind]
  apply sends_write
  · exact ⟨chunkSlice file reads offset, by rw [List.append_assoc]; exact cued.symm⟩
  rw [holds_bind]
  apply sends_call id
  · refine ⟨[], ?_⟩
    rw [List.append_nil, List.append_assoc]
    exact cued.symm
  · exact fun _ _ taken => taken
  · rfl
  rw [holds_bind]
  apply sends_hear
  · rw [List.append_assoc]
    exact cued.symm
  · rw [split, chunk_turns_more file reads more, replying_append]
    rfl
  · rfl
  rw [holds_bind, refuse, holds_pure, holds_ensure, UInt64.toNat_ofNat_of_lt' small]
  constructor
  · intro _
    rw [List.append_assoc]
    exact next
  · intro wrong
    simp [chunkEnd] at wrong

/-- Everything has been said, and only the result is due. -/
structure AwaitsResult (file : SourceFile) (script : List (Turn UInt8 StreamFrame))
    (world : Sender) : Prop where
  said : world.sent = cue script world.received.length
  finished : world.sent = saying script
  due : replying script = world.received ++ [resultFrame file]

/-- The invariant of the loop: between two chunks the sender has said and heard
exactly the turns that are over, and stands at the next chunk. -/
theorem send_chunks_sends (more : offset < file.bytes.length)
    (split : script = past ++ chunkTurns file reads offset) (heard : world.received = replying past)
    (said : world.sent = saying past) (cursor : world.state = offset)
    (next : ∀ after : Sender, AwaitsResult file script after → post after ()) :
    Sends file reads answers script (sendChunks file.size offset) post failed world := by
  induction missing : file.bytes.length - offset using Nat.strong_induction_on
    generalizing offset past world with
  | _ count ih =>
    subst missing cursor
    obtain ⟨positive, bounded, within⟩ := chunk_slice_length file reads more
    have whole : (chunkSlice file reads world.state).take TRANSFER_V1_CHUNK_SIZE.toNat =
        chunkSlice file reads world.state := List.take_of_length_le bounded
    rw [sendChunks, dif_pos (by rwa [file.size_to_nat]), Sends, holds_bind]
    apply sends_call id
    · refine ⟨(chunkTurn file reads world.state).words, ?_⟩
      rw [said, heard, cue_chunk more split]
    · exact fun _ _ taken => taken
    · rfl
    have nonempty : ¬ ((sourceSlice file reads TRANSFER_V1_CHUNK_SIZE.toNat
        world.state).take TRANSFER_V1_CHUNK_SIZE.toNat).length = 0 := by
      change ¬ ((chunkSlice file reads world.state).take _).length = 0
      rw [whole]
      omega
    rw [dif_neg nonempty]
    change Sends file reads answers script
      (sendChunk world.state ((chunkSlice file reads world.state).take _) >>= fun _ =>
        sendChunks file.size
          (world.state + ((chunkSlice file reads world.state).take _).length)) post failed _
    rw [whole, Sends, holds_bind]
    apply send_chunk_sends more split
    · exact heard
    · exact said
    by_cases last : chunkEnd file reads world.state = file.bytes.length
    · -- The result is still to come when the loop ends.
      have through : ¬ chunkEnd file reads world.state < file.size.toNat := by
        rw [file.size_to_nat, last]
        exact Nat.lt_irrefl _
      rw [sendChunks]
      change Sends file reads answers script
        (if _ : chunkEnd file reads world.state < file.size.toNat then _ else _) post failed _
      rw [dif_neg through, Sends, holds_pure]
      apply next
      constructor
      · exact (cue_last more split last).symm
      · rw [saying_next, ← split_last more split last]
      · exact replying_last more split last
    · apply ih _ (chunk_end_progress file reads more) (lt_of_le_of_ne within last)
        (split_next more split)
      · exact replying_next past last
      · exact saying_next past
      · rfl
      · rfl

theorem finish_copy_sends (awaits : AwaitsResult file script world)
    (next : ∀ after : Sender, after.received = replying script → after.sent = saying script →
      post after ()) :
    Sends file reads answers script (finishCopyV1 file.size (sha256 file.bytes)) post failed
      world := by
  unfold finishCopyV1
  rw [Sends, holds_bind]
  apply sends_hear awaits.said awaits.due
  · rfl
  rw [holds_ensure]
  constructor
  · intro _
    exact next _ awaits.due.symm awaits.finished
  · intro wrong
    simp at wrong

-- What the sender asks of the offset it is given.
def Aligned (offset : Nat) : Prop := offset % TRANSFER_V1_CHUNK_SIZE.toNat = 0

instance (offset : Nat) : Decidable (Aligned offset) := inferInstanceAs (Decidable (_ = _))

theorem accepts_offset_iff (within : offset ≤ file.bytes.length) :
    acceptsOffset file.size (UInt64.ofNat offset) = true ↔ Aligned offset := by
  have small : (UInt64.ofNat offset).toNat = offset :=
    UInt64.toNat_ofNat_of_lt' (within.trans_lt file.fits)
  rw [acceptsOffset, Bool.and_eq_true, decide_eq_true_eq, UInt64.le_iff_toNat_le, small,
    file.size_to_nat, beq_iff_eq]
  exact and_iff_right within

variable {request : TransferV1Request}

theorem script_replies (whole : script = transferScript file reads request offset) :
    ∃ later, replying script = resumeFrame offset (offset == file.bytes.length) :: later := by
  unfold transferScript at whole
  by_cases complete : offset = file.bytes.length
  · rw [if_pos complete] at whole
    rw [whole, beq_iff_eq.mpr complete]
    exact ⟨[resultFrame file], rfl⟩
  · rw [if_neg complete] at whole
    rw [whole, beq_eq_false_iff_ne.mpr complete]
    exact ⟨_, rfl⟩

theorem script_opening (whole : script = transferScript file reads request offset) :
    cue script 0 = openingWords request := by
  unfold transferScript at whole
  by_cases complete : offset = file.bytes.length
  · rw [whole, if_pos complete]
    simp [cue]
  · rw [whole, if_neg complete]
    simp [cue]

theorem send_from_sends (within : offset ≤ file.bytes.length)
    (whole : script = transferScript file reads request offset)
    (heard : world.received = [resumeFrame offset (offset == file.bytes.length)])
    (said : world.sent = openingWords request)
    (next : ∀ after : Sender, after.received = replying script → after.sent = saying script →
      post after ()) :
    Sends file reads answers script (sendFrom file.size (sha256 file.bytes)
      ⟨UInt64.ofNat offset, offset == file.bytes.length, none⟩) post failed world := by
  unfold sendFrom
  unfold transferScript at whole
  by_cases complete : offset = file.bytes.length
  · rw [if_pos complete] at whole
    rw [beq_iff_eq.mpr complete]
    rw [beq_iff_eq.mpr complete] at heard
    apply finish_copy_sends _ next
    constructor
    · rw [said, whole]
      simp [cue]
    · rw [said, whole]
      simp
    · rw [heard, whole]
      rfl
  · rw [if_neg complete] at whole
    rw [beq_eq_false_iff_ne.mpr complete, if_neg Bool.false_ne_true, Sends, holds_bind]
    rw [beq_eq_false_iff_ne.mpr complete] at heard
    have more : offset < file.bytes.length := lt_of_le_of_ne within complete
    have small : (UInt64.ofNat offset).toNat = offset :=
      UInt64.toNat_ofNat_of_lt' (more.trans file.fits)
    have opened : script = [⟨openingWords request, [resumeFrame offset false]⟩] ++
        chunkTurns file reads offset := whole
    apply sends_call id
    · rw [Cued, said, whole]
      simp [cue]
    · exact fun _ _ taken => taken
    · rfl
    rw [holds_bind, small]
    apply send_chunks_sends more opened
    · exact heard
    · rw [said, saying_cons, saying_nil, List.append_nil]
    · rfl
    · intro after awaits
      exact finish_copy_sends awaits next

/-- The sender keeps to the script from any offset, and ends well exactly when it
accepts the offset. -/
theorem copy_prepared_keeps (source : String) (prepared : PreparedCopy) (cursor : Nat)
    (within : offset ≤ file.bytes.length)
    (whole : script = transferScript file reads
      (asked prepared file) offset) :
    CallerKeeps script (CopyStep file reads answers) WaitsForFrame
      (fun after _ => Aligned offset ∧ after.received = replying script ∧
        after.sent = saying script)
      (fun _ _ => ¬ Aligned offset) (copyPrepared source prepared) ⟨cursor, [], []⟩ := by
  have opening := script_opening whole
  obtain ⟨later, replies⟩ := script_replies whole
  unfold CallerKeeps copyPrepared
  have unsaid : cue script 0 = TRANSFER_V1_MAGIC ++
      (framed (asked prepared file).encode ++ []) := by
    rw [opening, List.append_nil]
    rfl
  have silent : ∀ {cursor : Nat}, Cued script (⟨cursor, [], []⟩ : Sender) := List.nil_prefix
  rw [holds_bind]
  refine sends_call id silent (fun _ _ taken => taken) rfl ?_
  rw [holds_bind]
  refine sends_call id silent (fun _ _ taken => taken) rfl ?_
  rw [holds_bind]
  refine sends_call id silent (fun _ _ taken => taken) rfl ?_
  rw [holds_bind]
  refine sends_call id silent (fun _ _ taken => taken) rfl ?_
  rw [holds_bind]
  apply sends_write silent
  rw [holds_bind]
  apply sends_frame
  · exact unsaid
  rw [holds_bind]
  apply sends_hear
  · exact opening.symm
  · exact replies
  · rfl
  rw [holds_bind, refuse, holds_pure, holds_bind, holds_ensure]
  constructor
  · intro accepted
    have aligned := (accepts_offset_iff within).mp accepted
    apply send_from_sends within whole
    · rfl
    · rfl
    · intro after heard said
      refine ⟨?_, aligned, heard, said⟩
      rw [Cued, heard, cue_all, said]
  · intro refused
    constructor
    · have longer := cue_mono script (Nat.zero_le 1)
      rw [opening] at longer
      exact longer
    · intro aligned
      rw [(accepts_offset_iff within).mpr aligned] at refused
      cases refused
end Sending

/-! The files of a transfer. -/
section Files
variable (platform : Platform) (file : SourceFile) (path : String)

/-- `serde_json` and `bincode` read back what they wrote, for the values that
transferring the file can produce. -/
structure ReadsBack : Prop where
  state : ∀ offset ≤ file.bytes.length,
    platform.transferV1State (platform.transferV1Json (savedState file offset)) =
      .ok (savedState file offset)
  chunk : ∀ offset count, 0 < count → offset + count ≤ file.bytes.length →
    platform.transferV1Chunk
        (chunkHeader offset ((file.bytes.drop offset).take count)).encode =
      .ok (chunkHeader offset ((file.bytes.drop offset).take count))

/-- Between two sessions: there is no saved state, or it names the length of a
part file with the bytes the file begins with. -/
structure Resumes (disk : Disk) (offset : Nat) : Prop where
  within : offset ≤ file.bytes.length
  kept : (disk (statePath path) = none ∧ offset = 0) ∨
    (disk (statePath path) = some (platform.transferV1Json (savedState file offset)) ∧
      disk (partPath path) = some (file.bytes.take offset))

/-- In a session, once the receiver has settled where to resume. -/
structure Settled (disk : Disk) (offset : Nat) : Prop where
  resumes : Resumes platform file path disk offset
  part : disk (partPath path) = some (file.bytes.take offset)

variable {path}

theorem append_ne {left right : String} (different : left ≠ right) :
    path ++ left ≠ path ++ right := by
  intro same
  have lists := congrArg String.toList same
  rw [String.toList_append, String.toList_append, List.append_cancel_left_eq] at lists
  exact different (String.toList_inj.mp lists)

theorem part_ne_state : partPath path ≠ statePath path := append_ne (by decide)

theorem state_ne_path : statePath path ≠ path := by
  intro same
  exact append_ne (by decide : ".misaka-part.json" ≠ "") (same.trans String.append_empty.symm)

variable {platform file}

theorem resumes_small (resumes : Resumes platform file path disk offset) :
    (UInt64.ofNat offset).toNat = offset :=
  UInt64.toNat_ofNat_of_lt' (resumes.within.trans_lt file.fits)

theorem offset_at_end_iff (within : offset ≤ file.bytes.length) :
    UInt64.ofNat offset = file.size ↔ offset = file.bytes.length := by
  rw [← UInt64.toNat_inj, file.size_to_nat,
    UInt64.toNat_ofNat_of_lt' (within.trans_lt file.fits)]
end Files

section Receiving
variable (platform : Platform) (file : SourceFile) (path : String)
variable (script : List (Turn UInt8 StreamFrame)) (works breaks : RuntimeOp → Prop)

/-- The session was cut off by an operation on the stream. If that was the
sending of an acknowledgement, the chunk it is for is saved. -/
def Interrupted (world : Receiver) : Prop :=
  ∃ op offset, breaks op ∧ Resumes platform file path world.state offset ∧
    ∀ stream ack, op = .write stream (.transferV1Ack ack) →
      ack.nextOffset.toNat = offset ∧ StreamFrame.transferV1Ack ack ∈ replying script

def Stopped (world : Receiver) : Prop :=
  world.sent <+: replying script ∧ Interrupted platform file path script breaks world

abbrev Stops : Receiver → IoError → Prop :=
  fun after _ => Stopped platform file path script breaks after

structure Completed (world : Receiver) : Prop where
  replied : world.sent = replying script
  delivered : world.state path = some file.bytes
  cleared : world.state (statePath path) = none

variable {platform file path script works breaks} {answers : (op : RuntimeOp) → op.Result}
variable {received : List UInt8} {sent : List StreamFrame} (replied : sent <+: replying script)
include replied

variable (resumes : Resumes platform file path disk offset)
include resumes

theorem stopped_reading {count : Nat} (broken : breaks (.readExact stream count)) :
    Stopped platform file path script breaks ⟨disk, received, sent⟩ := by
  refine ⟨replied, _, offset, broken, resumes, ?_⟩
  intro stream ack same
  cases same

theorem receives_payload {count : Nat} {words later : List UInt8}
    {post : Receiver → List UInt8 → Prop}
    (cued : cue script sent.length = received ++ (words ++ later)) (long : words.length = count)
    (next : post ⟨disk, received ++ words, sent⟩ words) :
    Receives script works breaks answers (readPayload stream count) post
      (Stops platform file path script breaks) ⟨disk, received, sent⟩ := by
  unfold readPayload
  rw [Receives, holds_bind]
  apply receives_read replied cued long
  · exact (holds_done words).mpr next
  · intro broken error
    exact (holds_fail error).mpr (stopped_reading replied resumes broken)

variable {Value : Type} {value : Value}

theorem receives_frame {limit : Nat} {decode : Decoder Value} {body later : List UInt8}
    {post : Receiver → Value → Prop}
    (cued : cue script sent.length = received ++ (framed body ++ later))
    (short : body.length ≤ limit) (small : limit < 256 ^ 4) (decodes : decode body = .ok value)
    (next : post ⟨disk, received ++ framed body, sent⟩ value) :
    Receives script works breaks answers (readBincodeFrame limit decode stream) post
      (Stops platform file path script breaks) ⟨disk, received, sent⟩ := by
  have header : ofBigEndian (bigEndian 4 body.length) = body.length :=
    of_big_endian_encoding 4 body.length (short.trans_lt small)
  have width : (bigEndian 4 body.length).length = 4 := by
    rw [bigEndian, List.length_reverse, little_endian_length]
  rw [framed, List.append_assoc] at cued
  unfold readBincodeFrame readRequest readFrame
  rw [Receives, holds_bind]
  apply receives_read replied cued width
  · rw [or_error_ok, done_bind, header, decide_eq_true short, ensure_true, done_bind, holds_bind]
    rw [← List.append_assoc] at cued
    apply receives_read replied cued rfl
    · rw [or_error_ok, done_bind, decodes, List.append_assoc]
      exact (holds_done value).mpr next
    · intro broken error
      exact (holds_fail _).mpr (stopped_reading replied resumes broken)
  · intro broken error
    exact (holds_fail _).mpr (stopped_reading replied resumes broken)

variable {post : Receiver → Unit → Prop}

theorem receives_reply_frame {frame : StreamFrame}
    (acknowledges : ∀ ack, frame = .transferV1Ack ack → ack.nextOffset.toNat = offset ∧
      frame ∈ replying script) (next : post ⟨disk, received, sent ++ [frame]⟩ ()) :
    Receives script works breaks answers (writeBincodeFrame stream frame) post
      (Stops platform file path script breaks) ⟨disk, received, sent⟩ := by
  unfold writeBincodeFrame
  rw [Receives, holds_bind]
  apply receives_reply replied
  · exact (holds_done ()).mpr next
  · intro broken error
    refine (holds_fail _).mpr ⟨replied, _, offset, broken, resumes, ?_⟩
    intro stream ack same
    cases same
    exact acknowledges ack rfl

omit resumes

variable {prepared : PreparedCopy} {failed : Receiver → IoError → Prop}

theorem receives_file_call {op : FileOp} {fallible : op.Result = Except IoError Value}
    {result : op.Result} {after : Disk} {post : Receiver → Value → Prop}
    (answered : answer disk op = some (result, after)) (worked : cast fallible result = .ok value)
    (next : post ⟨after, received, sent⟩ value) :
    Receives script works breaks answers (fileCall op fallible) post failed
      ⟨disk, received, sent⟩ := by
  unfold fileCall
  rw [Receives, holds_bind]
  apply receives_file replied answered
  rw [worked]
  exact (holds_done value).mpr next

theorem receives_discard {target : String}
    (next : post ⟨Function.update disk target none, received, sent⟩ ()) :
    Receives script works breaks answers (discardFile target) post failed
      ⟨disk, received, sent⟩ := by
  unfold discardFile
  rw [Receives, holds_bind]
  apply receives_file replied rfl
  exact (holds_done ()).mpr next

omit replied

theorem found_some {content : Option (List UInt8)} {bytes : List UInt8} (value : List UInt8 → Value)
    (present : content = some bytes) :
    found content value = .ok (value bytes) := by
  rw [present]
  rfl

-- Nothing was saved: whatever stands at the path of the part is dropped.
theorem settle_afresh {post : Receiver → TransferV1State → Prop}
    (replied : sent <+: replying script) (unsaved : disk (statePath path) = none)
    (next : ∀ after : Disk, after (statePath path) = none → after (partPath path) = none →
      post ⟨after, received, sent⟩ (savedState file 0)) :
    Receives script works breaks answers
      (settledTransferV1State platform (asked prepared file)
        (partPath path) (statePath path)) post failed ⟨disk, received, sent⟩ := by
  unfold settledTransferV1State resumedTransferV1State loadTransferV1State loadState
  rw [Receives, holds_bind, holds_bind, holds_bind]
  apply receives_file_call replied rfl rfl
  rw [unsaved, Option.isSome_none, if_neg Bool.false_ne_true, holds_pure, holds_bind]
  apply receives_file_call replied rfl rfl
  rw [Option.any_none, Bool.not_false, Bool.true_or, if_pos rfl, holds_bind]
  apply receives_discard replied
  rw [holds_bind]
  apply receives_discard replied
  rw [holds_pure, holds_bind]
  unfold partIsStale
  rw [if_neg (by simp [freshTransferV1State]), holds_bind]
  apply receives_file replied rfl
  have dropped : Function.update (Function.update disk (partPath path) none) (statePath path)
      none (partPath path) = none := by
    rw [Function.update_of_ne part_ne_state, Function.update_self]
  simp only [dropped, found, holds_pure, if_true, holds_bind]
  apply receives_discard replied
  apply next
  · rw [Function.update_of_ne part_ne_state.symm, Function.update_self]
  · rw [Function.update_self]

-- The saved state and the part file agree, so the transfer goes on from there.
theorem settle_saved {post : Receiver → TransferV1State → Prop}
    (readsBack : ReadsBack platform file) (replied : sent <+: replying script)
    (within : offset ≤ file.bytes.length)
    (saved : disk (statePath path) = some (platform.transferV1Json (savedState file offset)))
    (part : disk (partPath path) = some (file.bytes.take offset))
    (next : post ⟨disk, received, sent⟩ (savedState file offset)) :
    Receives script works breaks answers
      (settledTransferV1State platform (asked prepared file)
        (partPath path) (statePath path)) post failed ⟨disk, received, sent⟩ := by
  have small : (UInt64.ofNat offset).toNat = offset :=
    UInt64.toNat_ofNat_of_lt' (within.trans_lt file.fits)
  unfold settledTransferV1State resumedTransferV1State loadTransferV1State loadState
  rw [Receives, holds_bind, holds_bind, holds_bind]
  apply receives_file_call replied rfl rfl
  rw [saved, Option.isSome_some, if_pos rfl, holds_bind]
  apply receives_file_call replied rfl
  · exact found_some id saved
  rw [id_eq, readsBack.state offset within, or_error_ok, done_bind, holds_pure, holds_bind]
  apply receives_file_call replied rfl rfl
  have same : sameTransferV1 (asked prepared file)
      (savedState file offset) = true := by
    simp [sameTransferV1, copyRequest, savedState]
  rw [part, Option.isSome_some, Option.any_some, same]
  simp only [Bool.not_true, Bool.or_false, Bool.false_eq_true, if_false, holds_pure,
    Option.getD_some, holds_bind]
  unfold partIsStale
  have inside : ¬ (savedState file offset).offset >
      (asked prepared file).size := by
    change ¬ file.size.toNat < (UInt64.ofNat offset).toNat
    rw [small, file.size_to_nat]
    exact Nat.not_lt.mpr within
  rw [if_neg inside, holds_bind]
  apply receives_file replied rfl
  rw [found_some _ part, List.length_take_of_le within]
  simp only [savedState, bne_self_eq_false, holds_pure, Bool.false_eq_true, if_false]
  exact next

theorem settle_receives {rest : TransferV1State → RuntimeTask IoError Unit}
    {ended : Receiver → Unit → Prop} (readsBack : ReadsBack platform file)
    (replied : sent <+: replying script) (resumes : Resumes platform file path disk offset)
    (next : ∀ after : Disk, Settled platform file path after offset →
      Receives script works breaks answers (rest (savedState file offset)) ended failed
        ⟨after, received, sent⟩) :
    Receives script works breaks answers
      (settledTransferV1State platform (asked prepared file)
          (partPath path) (statePath path) >>= fun state =>
        createMissingPart (partPath path) >>= fun _ => rest state) ended failed
      ⟨disk, received, sent⟩ := by
  rw [Receives, holds_bind]
  rcases resumes.kept with ⟨unsaved, rfl⟩ | ⟨saved, part⟩
  · apply settle_afresh replied unsaved
    intro after cleared missing
    unfold createMissingPart
    rw [holds_bind, holds_bind]
    apply receives_file_call replied rfl rfl
    rw [missing, Option.isSome_none, if_neg Bool.false_ne_true]
    unfold createFile openAt
    rw [holds_bind, holds_bind]
    apply receives_file_call replied rfl rfl
    rw [holds_pure, holds_pure]
    apply next
    have created : Function.update after (partPath path) (some []) (statePath path) = none := by
      rw [Function.update_of_ne part_ne_state.symm, cleared]
    exact ⟨⟨resumes.within, .inl ⟨created, rfl⟩⟩, Function.update_self _ _ _⟩
  · apply settle_saved readsBack replied resumes.within saved part
    unfold createMissingPart
    rw [holds_bind, holds_bind]
    apply receives_file_call replied rfl rfl
    rw [part, Option.isSome_some, if_pos rfl, holds_pure]
    exact next disk ⟨resumes, part⟩

theorem commit_receives (replied : sent <+: replying script)
    (part : disk (partPath path) = some file.bytes)
    (next : ∀ after : Disk, after path = some file.bytes → after (statePath path) = none →
      post ⟨after, received, sent⟩ ()) :
    Receives script works breaks answers (commitPart (partPath path) (statePath path) path) post
      failed ⟨disk, received, sent⟩ := by
  unfold commitPart finalizeTransferPart renameOver
  rw [Receives, holds_bind, holds_bind]
  apply receives_file replied rfl
  rw [found_some _ part]
  change Receives script works breaks answers (.done ()) _ failed _
  rw [Receives, holds_done]
  apply receives_discard replied
  have renamed : moved disk (partPath path) path =
      Function.update (Function.update disk (partPath path) none) path (some file.bytes) := by
    rw [moved, part]
  apply next
  · rw [Function.update_of_ne state_ne_path.symm, renamed, Function.update_self]
  · rw [Function.update_self]

theorem cleared_resumes (cleared : disk (statePath path) = none) :
    Resumes platform file path disk 0 :=
  ⟨Nat.zero_le _, .inl ⟨cleared, rfl⟩⟩

variable {reads : Nat → Nat}

theorem append_receives (replied : sent <+: replying script) (more : offset < file.bytes.length)
    (part : disk (partPath path) = some (file.bytes.take offset))
    (next : ∀ after : Disk, Settled platform file path after (chunkEnd file reads offset) →
      post ⟨after, received, sent⟩ ()) :
    Receives script works breaks answers
      (appendChunk platform (asked prepared file) (partPath path)
        (statePath path) (chunkSlice file reads offset) (chunkEnd file reads offset)) post failed
      ⟨disk, received, sent⟩ := by
  unfold appendChunk openAppend openAt
  rw [Receives, holds_bind, holds_bind]
  apply receives_file_call replied rfl
  · exact found_some _ part
  rw [holds_pure, holds_bind]
  apply receives_file_call replied rfl rfl
  rw [holds_bind]
  apply receives_file_call replied rfl rfl
  apply receives_file_call replied rfl rfl
  apply next
  have appended : Function.update (Function.update disk (partPath path)
      ((disk (partPath path)).map (· ++ chunkSlice file reads offset))) (statePath path)
      (some (platform.transferV1Json (savedState file (chunkEnd file reads offset))))
      (partPath path) = some (file.bytes.take (chunkEnd file reads offset)) := by
    rw [Function.update_of_ne part_ne_state, Function.update_self, part, Option.map_some,
      take_chunk_end]
  refine ⟨⟨(chunk_slice_length file reads more).2.2, .inr ⟨?_, appended⟩⟩, appended⟩
  exact Function.update_self _ _ _

theorem finish_receives (targets : prepared.remotePath = path)
    (replied : sent <+: replying script)
    (settled : Settled platform file path disk file.bytes.length)
    (due : replying script = sent ++ [resultFrame file]) :
    Receives script works breaks answers
      (finishTransferV1 (asked prepared file) (partPath path)
        (statePath path) stream)
      (fun after _ => after.sent <+: replying script ∧ Completed file path script after)
      (Stops platform file path script breaks) ⟨disk, received, sent⟩ := by
  have part := settled.part
  rw [List.take_length] at part
  unfold finishTransferV1 commitMatching
  rw [Receives, holds_bind]
  apply receives_file_call replied rfl
  · exact found_some sha256 part
  change Receives script works breaks answers
    ((if (sha256 file.bytes == sha256 file.bytes) = true then
        commitPart (partPath path) (statePath path) prepared.remotePath else pure ()) >>= _) _ _ _
  rw [beq_self_eq_true, targets, Receives, holds_bind]
  apply commit_receives replied part
  intro after delivered cleared
  have result : StreamFrame.transferResult (transferResultV1
      (asked prepared file) (sha256 file.bytes)) =
      resultFrame file := by
    simp [transferResultV1, copyRequest, resultFrame]
  rw [result]
  apply receives_reply_frame replied (cleared_resumes cleared)
  · intro ack same
    cases same
  · rw [← due]
    exact ⟨List.prefix_rfl, due.symm ▸ rfl, delivered, cleared⟩

theorem chunk_header_fits (more : offset < file.bytes.length) :
    chunkFits (asked prepared file)
        (chunkHeader offset (chunkSlice file reads offset)) offset ∧
      (chunkHeader offset (chunkSlice file reads offset)).len.toNat =
        (chunkSlice file reads offset).length := by
  obtain ⟨positive, bounded, within⟩ := chunk_slice_length file reads more
  have small := file.fits
  have length : (UInt32.ofNat (chunkSlice file reads offset).length).toNat =
      (chunkSlice file reads offset).length := UInt32.toNat_ofNat_of_lt' (by
    change _ < 2 ^ 32
    omega)
  refine ⟨⟨?_, ?_, ?_, ?_, ?_⟩, length⟩
  · exact UInt64.toNat_ofNat_of_lt' ((Nat.div_le_self _ _).trans_lt (more.trans small))
  · exact UInt64.toNat_ofNat_of_lt' (more.trans small)
  · intro zero
    have nothing := congrArg UInt32.toNat zero
    rw [chunkHeader, length] at nothing
    change (chunkSlice file reads offset).length = 0 at nothing
    omega
  · rw [UInt32.le_iff_toNat_le, chunkHeader, length]
    exact bounded
  · rw [chunkHeader, length]
    change _ ≤ file.size.toNat
    rw [file.size_to_nat]
    exact within

theorem chunk_reads_back (readsBack : ReadsBack platform file)
    (more : offset < file.bytes.length) :
    platform.transferV1Chunk (chunkHeader offset (chunkSlice file reads offset)).encode =
      .ok (chunkHeader offset (chunkSlice file reads offset)) := by
  have size : TRANSFER_V1_CHUNK_SIZE.toNat = 65536 := rfl
  apply readsBack.chunk
  · unfold readLength
    omega
  · unfold readLength
    omega

/-- One pass of the loop: the chunk is heard, saved and acknowledged. -/
theorem receive_chunk_receives (readsBack : ReadsBack platform file)
    (more : offset < file.bytes.length) (split : script = past ++ chunkTurns file reads offset)
    (settled : Settled platform file path disk offset)
    (next : ∀ after : Disk, Settled platform file path after (chunkEnd file reads offset) →
      Receives script works breaks answers (if (chunkEnd file reads offset == file.bytes.length) =
      true then finishTransferV1 (asked prepared file) (partPath
      path) (statePath path) stream else receiveChunks platform (asked prepared file) (partPath path) (statePath path) stream (chunkEnd file reads offset))
      post (Stops platform file path script breaks) ⟨after,
      saying (past ++ [chunkTurn file reads offset]),
      replying past ++ [ackFrame file (chunkEnd file reads offset)]⟩) :
    Receives script works breaks answers
      (receiveChunks platform (asked prepared file) (partPath path)
        (statePath path) stream offset) post
      (Stops platform file path script breaks)
      ⟨disk, saying past, replying past⟩ := by
  have checked : chunkFits (asked prepared file)
      (chunkHeader offset (chunkSlice file reads offset)) offset ∧ _ := chunk_header_fits more
  obtain ⟨fits, length⟩ := checked
  have replied := replying_past split
  have cued := cue_chunk more split
  rw [receiveChunks, Receives, holds_bind]
  apply receives_frame replied settled.resumes cued
  · rw [TransferV1Chunk.encode_length]
    decide
  · decide
  · exact chunk_reads_back readsBack more
  rw [dif_pos fits, holds_bind, length]
  apply receives_payload replied settled.resumes
  · rw [cued, chunkTurn, List.append_assoc, List.append_nil]
  · rfl
  have digest : (transferDigest (chunkSlice file reads offset) ==
      (chunkHeader offset (chunkSlice file reads offset)).digest) = true := beq_self_eq_true _
  have complete : (chunkEnd file reads offset ==
      (asked prepared file).size.toNat) =
      (chunkEnd file reads offset == file.bytes.length) := by
    change (_ == file.size.toNat) = _
    rw [file.size_to_nat]
  rw [digest]
  change Receives script works breaks answers
    (appendChunk platform _ _ _ _ (chunkEnd file reads offset) >>= fun _ =>
      writeBincodeFrame stream (.transferV1Ack ⟨UInt64.ofNat (chunkEnd file reads offset),
        chunkEnd file reads offset ==
          (asked prepared file).size.toNat, none⟩) >>= fun _ =>
      if (chunkEnd file reads offset ==
          (asked prepared file).size.toNat) = true then _
      else _) _ _ _
  rw [complete, Receives, holds_bind]
  apply append_receives replied more settled.part
  intro after saved
  rw [holds_bind, List.append_assoc]
  change Receives script works breaks answers _ _ _
    ⟨after, saying past ++ (chunkTurn file reads offset).words, _⟩
  rw [saying_next]
  apply receives_reply_frame replied saved.resumes
  · intro ack same
    cases same
    exact ⟨resumes_small saved.resumes, ack_due more split⟩
  exact next after saved

/-- The invariant of the loop: between two chunks the receiver has heard and
answered exactly the turns that are over, and their chunks are saved. -/
theorem receive_chunks_receives (targets : prepared.remotePath = path)
    (readsBack : ReadsBack platform file) (more : offset < file.bytes.length)
    (split : script = past ++ chunkTurns file reads offset)
    (settled : Settled platform file path disk offset) (heard : received = saying past)
    (said : sent = replying past) :
    Receives script works breaks answers
      (receiveChunks platform (asked prepared file) (partPath path)
        (statePath path) stream offset)
      (fun after _ => after.sent <+: replying script ∧ Completed file path script after)
      (Stops platform file path script breaks) ⟨disk, received, sent⟩ := by
  induction missing : file.bytes.length - offset using Nat.strong_induction_on
    generalizing offset past disk received sent with
  | _ count ih =>
    subst missing heard said
    apply receive_chunk_receives readsBack more split settled
    intro after saved
    by_cases last : chunkEnd file reads offset = file.bytes.length
    · have due := replying_last more split last
      rw [if_pos (beq_iff_eq.mpr last)]
      apply finish_receives targets
      · rw [due]
        exact List.prefix_append _ _
      · rw [last] at saved
        exact saved
      · exact due
    · have within := (chunk_slice_length file reads more).2.2
      rw [if_neg (by simpa using last)]
      exact ih _ (chunk_end_progress file reads more) (lt_of_le_of_ne within last)
        (split_next more split) saved rfl (replying_next past last) rfl

theorem part_is_complete_receives {post : Receiver → Bool → Prop}
    (replied : sent <+: replying script) (settled : Settled platform file path disk offset)
    (next : post ⟨disk, received, sent⟩ (offset == file.bytes.length)) :
    Receives script works breaks answers
      (partIsComplete (asked prepared file) (partPath path)
        (savedState file offset)) post failed ⟨disk, received, sent⟩ := by
  change Receives script works breaks answers
    (if UInt64.ofNat offset = file.size then _ else _) post failed _
  by_cases complete : offset = file.bytes.length
  · have part := settled.part
    rw [complete, List.take_length] at part
    rw [beq_iff_eq.mpr complete] at next
    rw [if_pos ((offset_at_end_iff settled.resumes.within).mpr complete), Receives, holds_bind]
    apply receives_file_call replied rfl
    · exact found_some sha256 part
    rw [holds_pure]
    change post _ (sha256 file.bytes == sha256 file.bytes)
    rw [beq_self_eq_true]
    exact next
  · rw [beq_eq_false_iff_ne.mpr complete] at next
    rw [if_neg (mt (offset_at_end_iff settled.resumes.within).mp complete), Receives, holds_pure]
    exact next

theorem resume_transfer_receives (targets : prepared.remotePath = path)
    (readsBack : ReadsBack platform file)
    (whole : script = transferScript file reads
      (asked prepared file) offset)
    (resumes : Resumes platform file path disk offset) :
    Receives script works breaks answers
      (resumeTransferV1 platform (asked prepared file)
        (partPath path) (statePath path) stream)
      (fun after _ => after.sent <+: replying script ∧ Completed file path script after)
      (Stops platform file path script breaks)
      ⟨disk, openingWords (asked prepared file), []⟩ := by
  have silent : [] <+: replying script := List.nil_prefix
  unfold resumeTransferV1
  rw [Receives, holds_bind]
  have parent : ∀ {rest : Receiver → Unit → Prop},
      rest ⟨disk, openingWords (asked prepared file), []⟩ () →
      Receives script works breaks answers
        (createParent platform (partPath path)) rest
        (Stops platform file path script breaks)
        ⟨disk, openingWords (asked prepared file), []⟩ := by
    intro rest next
    unfold createParent
    cases platform.parentDir (partPath path) with
    | some parent => exact receives_file_call silent rfl rfl next
    | none => exact (holds_pure ()).mpr next
  apply parent
  apply settle_receives readsBack silent resumes
  intro after settled
  rw [Receives, holds_bind]
  apply part_is_complete_receives silent settled
  unfold transferScript at whole
  by_cases complete : offset = file.bytes.length
  · have part := settled.part
    rw [complete, List.take_length] at part
    rw [if_pos complete] at whole
    rw [beq_iff_eq.mpr complete, if_pos rfl, holds_bind]
    change Receives script works breaks answers (commitPart _ _ prepared.remotePath) _ _ _
    rw [targets]
    apply commit_receives silent part
    intro committed delivered cleared
    rw [holds_bind]
    apply receives_reply_frame silent (cleared_resumes cleared)
    · intro ack same
      cases same
    apply receives_reply_frame
    · rw [whole]
      exact List.prefix_append [resumeFrame offset true] [resultFrame file]
    · exact cleared_resumes cleared
    · intro ack same
      cases same
    have replied : [] ++ [StreamFrame.transferV1Resume ⟨(savedState file offset).offset, true, none⟩] ++
        [StreamFrame.transferResult ⟨true, (asked prepared file).size,
          (asked prepared file).digest, none⟩] = replying script := by
      rw [whole]
      rfl
    rw [replied]
    exact ⟨List.prefix_rfl, rfl, delivered, cleared⟩
  · have more : offset < file.bytes.length := lt_of_le_of_ne resumes.within complete
    rw [if_neg complete] at whole
    have opened : script = [⟨openingWords (asked prepared file),
        [resumeFrame offset false]⟩] ++ chunkTurns file reads offset := whole
    rw [beq_eq_false_iff_ne.mpr complete, if_neg Bool.false_ne_true, holds_bind]
    change Receives script works breaks answers
      (if UInt64.ofNat offset = file.size then _ else _) _ _ _
    rw [if_neg (mt (offset_at_end_iff resumes.within).mp complete), Receives, holds_pure,
      holds_bind]
    apply receives_reply_frame silent settled.resumes
    · intro ack same
      cases same
    change Receives script works breaks answers
      (receiveChunks platform _ _ _ stream (UInt64.ofNat offset).toNat) _ _ _
    rw [resumes_small resumes]
    apply receive_chunks_receives targets readsBack more opened settled
    · rw [saying_cons, saying_nil, List.append_nil]
    · rfl

-- What the authorization of a stream operation asks of the node.
def IsAuthorization : RuntimeOp → Prop
  | .loadAuthority _ | .nowSecs | .loadRevocations _ | .recordNonce _ _ => True
  | _ => False

variable {context : Option NodeConfig}

theorem only_authorize_stream_operation {authorization : Option CommandAuthorization}
    {permission : Permission} {constraints : List String} {recordNonce : Bool} :
    Only IsAuthorization (authorizeStreamOperation platform context authorization permission
      constraints recordNonce) := by
  apply only_bind
  · simp [requireStreamAuthorization]
  intro _
  cases authorization with
  | none => simp
  | some authorization =>
    apply only_bind
    · simp
    intro node
    apply only_bind
    · simp [IsAuthorization]
    intro loaded
    apply only_bind
    · simp
    intro loaded
    apply only_bind
    · simp
    intro authority
    apply only_bind
    · simp
    intro _
    apply only_bind
    · simp [IsAuthorization]
    intro now
    apply only_bind
    · simp
    intro _
    apply only_bind
    · exact only_is_revoked_in trivial
    intro revoked
    apply only_bind
    · simp
    intro _
    cases recordNonce with
    | false => simp
    | true =>
      apply only_bind
      · simp [IsAuthorization]
      intro recorded
      simp

/-- The receiver's side of a session, from the preamble on. -/
theorem echo_stream_keeps {others : List UInt8 → RuntimeTask IoError Unit}
    (targets : prepared.remotePath = path) (readsBack : ReadsBack platform file)
    (whole : script = transferScript file reads (asked prepared file) offset)
    (resumes : Resumes platform file path disk offset)
    (short : (asked prepared file).encode.length ≤ 1024 * 1024)
    (decodes : platform.transferV1Request (asked prepared file).encode = .ok (asked prepared file))
    (authorized : ((authorizeStreamOperation platform context prepared.authorization .fileSend
      [destinationConstraint path] true).run (fun known op => (answers op, known)) ()).1 = .ok ()) :
    HostKeeps script (ReceiverStep works breaks answers) bytesNeeded Answerable
      (fun after _ => Completed file path script after ∨
        Interrupted platform file path script breaks after)
      (fun after _ => Interrupted platform file path script breaks after)
      (echoStreamAfterGreeting platform others context stream) ⟨disk, [], []⟩ := by
  have silent : [] <+: replying script := List.nil_prefix
  have opening : cue script 0 = [] ++ (TRANSFER_V1_MAGIC ++
      framed (asked prepared file).encode) := script_opening whole
  unfold HostKeeps echoStreamAfterGreeting
  rw [holds_bind]
  apply receives_read silent opening rfl
  · simp only [if_true]
    unfold receiveTransferV1
    rw [holds_bind]
    apply receives_frame silent resumes
    · rw [List.append_nil]
      exact opening
    · exact short
    · decide
    · exact decodes
    rw [holds_bind]
    apply holds_mono (holds_answered answers only_authorize_stream_operation ?_ ?_)
    · rintro after _ ⟨rfl, _⟩
      rw [holds_bind]
      change Receives script works breaks answers
        (ensure (TRANSFER_V1_CHUNK_SIZE == TRANSFER_V1_CHUNK_SIZE) _) _ _ _
      rw [beq_self_eq_true, ensure_true, Receives, holds_done]
      change Receives script works breaks answers (resumeTransferV1 platform _
        (partPath prepared.remotePath) (statePath prepared.remotePath) stream) _ _ _
      rw [targets]
      apply holds_mono (resume_transfer_receives targets readsBack whole resumes)
      · rintro after _ ⟨replied, completed⟩
        exact ⟨replied, .inl completed⟩
      · intro after error stopped
        exact stopped
    · rintro after error ⟨_, refused⟩
      rw [← targets] at authorized
      cases authorized.symm.trans refused
    · intro op allowed
      refine ⟨⟨silent, fun needed => ?_⟩, ?_⟩
      · cases op <;> first | exact allowed.elim | exact absurd rfl needed
      · cases op <;> first | exact allowed.elim | trivial
    · rintro op result after allowed ⟨taken, _⟩
      cases op <;> first | exact allowed.elim | exact taken
  · intro broken error
    exact (holds_pure ()).mpr ⟨silent, .inr (stopped_reading silent resumes broken).2⟩
end Receiving
end Misaka.TransferDialogue
