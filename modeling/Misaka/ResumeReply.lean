import Misaka.TransferResume
import Misaka.TransferVolume

/-!
The reply to a Prepare beside the limit with which the sender reads it. The
reply lists each completed chunk in eight bytes, and a valid transfer may have
eight times as many chunks as such a frame can list.
-/

namespace Misaka.ResumeReply
open Bincode Identity Protocol EffectTask NodeRuntime TransferFiles StreamServices Sha256
open TransferDisk TransferVolume
open TransferResume (sampleNodeAnswers)

-- With which `send_transfer_v2_control` reads the reply.
def controlFrameLimit : Nat := 1024 * 1024

-- `u64::div_ceil`.
def divCeil (size chunkSize : UInt64) : UInt64 :=
  UInt64.ofNat ((size.toNat + chunkSize.toNat - 1) / chunkSize.toNat)

-- The Prepare of `misaka cp --parallel`.
def baseRequest (remotePath : String) (size : UInt64) (digest : Bytes 32)
    (authorization : Option CommandAuthorization) : TransferV2Request where
  operation := .prepare
  destination := remotePath
  size := size
  digest := digest
  chunkSize := TRANSFER_V1_CHUNK_SIZE
  chunkCount := divCeil size TRANSFER_V1_CHUNK_SIZE.toUInt64
  index := 0
  offset := 0
  len := 0
  chunkDigest := Bytes.fill 32 0
  authorization := authorization

/-- How many indices a frame within the limit can list. -/
def replyCapacity : Nat := 131070

theorem reply_fits_iff {indices : List UInt64} {complete : Bool} :
    (TransferV2Resume.mk indices complete none).encode.length ≤ controlFrameLimit ↔
      indices.length ≤ replyCapacity := by
  have listed : (indices.flatMap u64).length = 8 * indices.length := by
    induction indices with
    | nil => rfl
    | cons index rest ih =>
      rw [List.flatMap_cons, List.length_append, u64, little_endian_length, ih, List.length_cons]
      omega
  simp only [TransferV2Resume.encode, Bincode.sequence, option, Bincode.bool, length64,
    List.length_append, little_endian_length, listed, List.length_cons, List.length_nil,
    controlFrameLimit, replyCapacity]
  omega

theorem fresh_completed (request : TransferV2Request) :
    completedTransferV2Indices (freshTransferV2State request) = [] := by
  have clear : ∀ index, transferV2IsCompleted (freshTransferV2State request) index = false := by
    intro index
    have zero : (List.replicate (transferV2BitmapLen request.chunkCount) (0 : UInt8)).getD
        (index / 8) 0 = 0 := by
      rw [List.getD_eq_getElem?_getD, List.getElem?_replicate]
      split <;> rfl
    simp only [transferV2IsCompleted, freshTransferV2State, zero, UInt8.zero_and, bne_self_eq_false]
  rw [completedTransferV2Indices, List.map_eq_nil_iff, List.filter_eq_nil_iff]
  intro index _
  simp [clear index]

section Replies
variable (platform : Platform) (root : String) (stream : NetworkStream)
variable (request : TransferV2Request) (disk : Disk)

abbrev Resumable (state : TransferV2State) : Prop :=
  Usable platform request (transferV2Paths request.destination).1
    (transferV2Paths request.destination).2 disk state

abbrev Absent : Prop := ∀ content, ¬ Stored platform root request.digest disk content

/-- What the receiver may list: all chunks of a stored object, those of a saved
state, or none. -/
inductive Lists : List UInt64 → Prop where
  | whole {content : List UInt8} (stored : Stored platform root request.digest disk content) :
      Lists ((List.range request.chunkCount.toNat).map UInt64.ofNat)
  | partly {state : TransferV2State} (absent : Absent platform root request disk)
      (resumable : Resumable platform request disk state) :
      Lists (completedTransferV2Indices state)
  | nothing (absent : Absent platform root request disk)
      (fresh : ∀ state, ¬ Resumable platform request disk state) : Lists []

def Prepares (outcome : Except IoError Unit) (after : Visit) : Prop :=
  Reaches (VisitStep True)
    (serveTransferV2 platform root (transferV2Paths request.destination).1
      (transferV2Paths request.destination).2 stream request) ⟨⟨disk, 0⟩, []⟩
    (ofExcept outcome) after

/-- However the request ends, a reply it has sent is within the sender's limit. -/
def RepliesFit : Prop :=
  ∀ outcome after, Prepares platform root stream request disk outcome after →
    ∀ resume, .transferV2Resume resume ∈ after.sent → resume.encode.length ≤ controlFrameLimit

variable {platform root stream request disk} {breaks : Prop}

theorem prepare_holds (prepares : request.operation = .prepare) :
    Visits breaks (serveTransferV2 platform root (transferV2Paths request.destination).1
        (transferV2Paths request.destination).2 stream request)
      (fun after _ => ∃ indices complete, Lists platform root request disk indices ∧
        after.sent = [.transferV2Resume ⟨indices, complete, none⟩])
      (fun after _ => after.sent = [] ∧ (breaks ∨ Absent platform root request disk ∧
        ∀ state, ¬ Resumable platform request disk state)) ⟨⟨disk, 0⟩, []⟩ := by
  rw [serveTransferV2, prepares, prepareTransferV2, Visits, holds_bind]
  apply contains_holds
  · intro content stored
    exact visits_reply ⟨_, _, .whole stored, rfl⟩ fun lost _ => ⟨rfl, .inl lost⟩
  · intro absent
    apply visits_locked
    rw [Visits, holds_bind]
    refine holds_mono (ensure_holds (paths_apart request.destination)) ?_ ?_
    · rintro ⟨volume, sent⟩ state ⟨rfl, found⟩
      refine visits_reply ⟨_, _, ?_, rfl⟩ fun lost _ => ⟨rfl, .inl lost⟩
      rcases found with ⟨resumable, _⟩ | ⟨fresh, rfl, _⟩
      · exact .partly absent resumable
      · rw [fresh_completed]
        exact .nothing absent fresh
    · rintro after error ⟨silent, ⟨bytes, cause, saved, broken⟩, _⟩
      refine ⟨silent, .inr ⟨absent, ?_⟩⟩
      rintro state ⟨⟨found, held, decodes⟩, _⟩
      cases saved.symm.trans held
      cases broken.symm.trans decodes

theorem usable_unique {part statePath : String} {state other : TransferV2State}
    (first : Usable platform request part statePath disk state)
    (second : Usable platform request part statePath disk other) : state = other := by
  obtain ⟨⟨bytes, held, decodes⟩, _⟩ := first
  obtain ⟨⟨bytes', held', decodes'⟩, _⟩ := second
  cases held.symm.trans held'
  exact Except.ok.inj (decodes.symm.trans decodes')

theorem visit_loses {before after : Visit} {op : RuntimeOp} {result : op.Result}
    (taken : VisitStep False before op result after) : VisitStep breaks before op result after := by
  cases op with
  | write | readExact =>
    cases result with
    | error error => first | exact taken.1.elim | exact taken
    | ok value => exact taken
  | _ => exact taken

/-- Only one list is possible. -/
theorem lists_unique {first second : List UInt64} (left : Lists platform root request disk first)
    (right : Lists platform root request disk second) : first = second := by
  cases left with
  | whole stored =>
    cases right with
    | whole => rfl
    | partly absent | nothing absent => exact absurd stored (absent _)
  | partly absent resumable =>
    cases right with
    | whole stored => exact absurd stored (absent _)
    | partly _ other => rw [usable_unique resumable other]
    | nothing _ fresh => exact absurd resumable (fresh _)
  | nothing absent fresh =>
    cases right with
    | whole stored => exact absurd stored (absent _)
    | partly _ resumable => exact absurd resumable (fresh _)
    | nothing => rfl

/-- A reply that there is to send reaches the stream in some run. -/
theorem prepare_sends (answers : (op : RuntimeOp) → op.Result)
    (prepares : request.operation = .prepare) {indices : List UInt64}
    (lists : Lists platform root request disk indices) (some : indices ≠ []) :
    ∃ after complete, Prepares platform root stream request disk (.ok ()) after ∧
      .transferV2Resume ⟨indices, complete, none⟩ ∈ after.sent := by
  have proved := @prepare_holds platform root stream request disk False prepares
  obtain ⟨outcome, after, run⟩ := holds_ends (fun state op _ => visit_able answers state op) proved
  have ended := holds_reaches proved run
  cases outcome with
  | ok value =>
    obtain ⟨listed, complete, lists', sent⟩ := (holds_done value).mp ended
    refine ⟨after, complete, reaches_mono ?_ run, ?_⟩
    · exact fun _ _ _ _ taken => visit_loses taken
    · rw [sent, lists_unique lists lists']
      exact List.mem_singleton.mpr rfl
  | error error =>
    obtain ⟨_, lost | ⟨absent, fresh⟩⟩ := (holds_fail error).mp ended
    · exact lost.elim
    · cases lists with
      | whole stored => exact absurd stored (absent _)
      | partly _ resumable => exact absurd resumable (fresh _)
      | nothing => exact absurd rfl some

theorem replies_fit_iff_lists (answers : (op : RuntimeOp) → op.Result)
    (prepares : request.operation = .prepare) :
    RepliesFit platform root stream request disk ↔
      ∀ indices, Lists platform root request disk indices → indices.length ≤ replyCapacity := by
  constructor
  · intro fits indices lists
    by_cases some : indices = []
    · rw [some]
      exact Nat.zero_le _
    · obtain ⟨after, complete, run, sent⟩ := prepare_sends answers prepares lists some
      exact reply_fits_iff.mp (fits _ _ run _ sent)
  · intro within outcome after run resume sent
    have ended := holds_reaches (prepare_holds prepares) run
    cases outcome with
    | ok value =>
      obtain ⟨indices, complete, lists, written⟩ := (holds_done value).mp ended
      rw [written, List.mem_singleton] at sent
      cases sent
      exact reply_fits_iff.mpr (within indices lists)
    | error error =>
      rw [((holds_fail error).mp ended).1] at sent
      cases sent
end Replies

def largeContent : List UInt8 := List.replicate 8589869056 0

/-- Somebody has sent the content before. -/
def storedDisk : Disk := Function.update (fun _ => none)
  (objectPath samplePlatform "/o" (sha256 largeContent)) (some largeContent)

theorem large_request_valid (digest : Bytes 32) :
    validateTransferV2Request (baseRequest "/a" 8589869056 digest none) = .ok () := by
  have counted : ¬ ((divCeil 8589869056 TRANSFER_V1_CHUNK_SIZE.toUInt64).toNat ≠
      ((8589869056 : UInt64).toNat + TRANSFER_V1_CHUNK_SIZE.toNat - 1) /
        TRANSFER_V1_CHUNK_SIZE.toNat ∨
      divCeil 8589869056 TRANSFER_V1_CHUNK_SIZE.toUInt64 > TRANSFER_V2_MAX_CHUNKS) := by
    decide
  simp only [validateTransferV2Request, validateChunkCount, validateOperation, baseRequest,
    ne_eq, not_true_eq_false, counted, if_false, or_self]
  rfl
end Misaka.ResumeReply
