import Misaka.FileText
import Misaka.TransferDialogue

/-!
Whole sessions of transfer v1 for one file and one destination: `run_copy_v1` at
one end, the receiving node at the other, and the disk of the receiver between
sessions. A session that is cut off leaves a disk from which the next one can
resume. Whether the next session then succeeds depends on the offset it resumes
at, because the sender takes no offset that is not on a chunk boundary.
-/

namespace Misaka.TransferResume
open Bincode Identity Protocol EffectTask NodeRuntime HumanAuthorization TransferFiles
open StreamServices Duplex Sha256 CopyCommand TransferDisk TransferDialogue
variable {platform : Platform} {file : SourceFile} {path : String} {disk : Disk} {offset : Nat}

/-- An honest session: the sender gets as far as opening the file, for the given
destination, and its request is one the receiver admits. -/
structure CopySession (platform : Platform) (file : SourceFile) (path : String) where
  parseId : String → Except String UInt64
  source : String
  destination : String
  reads : Nat → Nat
  copyAnswers : (op : CopyOp) → op.Result
  prepared : PreparedCopy
  others : List UInt8 → RuntimeTask IoError Unit
  context : Option NodeConfig
  stream : NetworkStream
  nodeAnswers : (op : RuntimeOp) → op.Result
  prepares : ((prepareCopy platform parseId destination).run
    (fun known op => (copyAnswers op, known)) ()).1 = .ok prepared
  targets : prepared.remotePath = path
  short : (copyRequest prepared file.size (sha256 file.bytes)).encode.length ≤ 1024 * 1024
  decodes : platform.transferV1Request (copyRequest prepared file.size (sha256 file.bytes)).encode =
    .ok (copyRequest prepared file.size (sha256 file.bytes))
  authorized : ((authorizeStreamOperation platform context prepared.authorization .fileSend
    [destinationConstraint path] true).run (fun known op => (nodeAnswers op, known)) ()).1 = .ok ()

abbrev CopyConnection :=
  Connection CopyOp CopyOp.Result String Unit Nat RuntimeOp RuntimeOp.Result IoError Unit Disk UInt8
    StreamFrame

section Sessions

variable (session : CopySession platform file path)

def CopySession.connect (disk : Disk) :
    CopyConnection where
  calling := runCopyV1 platform session.parseId session.source session.destination
  caller := ⟨0, [], []⟩
  hosting := echoStreamAfterGreeting platform session.others session.context session.stream
  host := ⟨disk, [], []⟩

def CopySession.Step (works breaks : RuntimeOp → Prop) :
    CopyConnection → CopyConnection → Prop :=
  Duplex.Step (CopyStep file session.reads session.copyAnswers)
    (ReceiverStep works breaks session.nodeAnswers)

/-- The connection lasts as long as the two sides need it. -/
def CopySession.Lasting :
    CopyConnection → CopyConnection → Prop :=
  session.Step (fun _ => True) (fun _ => False)

/-- The connection may be gone at any operation of the receiver, which then runs to
its end. The sender may stop anywhere. -/
def CopySession.Fragile :
    CopyConnection → CopyConnection → Prop :=
  session.Step (fun _ => True) (fun _ => True)

variable (platform file path) in
/-- The disks a receiver can have after sessions that were cut off, one at a time. -/
inductive Reachable : Disk → Prop where
  | fresh {disk : Disk} (unsaved : disk (statePath path) = none) : Reachable disk
  | cut {disk : Disk} (session : CopySession platform file path) {final : CopyConnection}
      (before : Reachable disk)
      (run : Relation.ReflTransGen session.Fragile (session.connect disk) final)
      (ended : Ended final.hosting) : Reachable final.host.state

/-- On every schedule the session ends, the sender reports success and the
destination holds the file. -/
def CopySession.Completes (disk : Disk) : Prop :=
  Settles session.Lasting
    (fun final => final.calling = .done () ∧ final.host.state path = some file.bytes)
    (session.connect disk)

-- The offset in `<destination>.misaka-part.json`, zero where there is none.
def recordedOffset (platform : Platform) (path : String) (disk : Disk) : Nat :=
  match disk (statePath path) with
  | none => 0
  | some bytes =>
    match platform.transferV1State bytes with
    | .ok state => state.offset.toNat
    | .error _ => 0

theorem recorded_offset_resumes (readsBack : ReadsBack platform file)
    (resumes : Resumes platform file path disk offset) :
    recordedOffset platform path disk = offset := by
  unfold recordedOffset
  rcases resumes.kept with ⟨unsaved, rfl⟩ | ⟨saved, _⟩
  · rw [unsaved]
  · rw [saved]
    simp only [readsBack.state offset resumes.within]
    exact resumes_small resumes

variable {works breaks : RuntimeOp → Prop} (session : CopySession platform file path)

/-- Both sides keep to the script of the offset the receiver resumes at. -/
def CopySession.script (offset : Nat) :
    List (Turn UInt8 StreamFrame) :=
  transferScript file session.reads
    (copyRequest session.prepared file.size (sha256 file.bytes)) offset

def CopySession.InStep (breaks : RuntimeOp → Prop) (works : RuntimeOp → Prop) (offset : Nat) :
    CopyConnection → Prop :=
  Duplex.InStep (session.script offset) (CopyStep file session.reads session.copyAnswers)
    (ReceiverStep works breaks session.nodeAnswers) WaitsForFrame bytesNeeded Answerable
    (fun after _ => Aligned offset ∧ after.received = replying (session.script offset) ∧
      after.sent = saying (session.script offset))
    (fun _ _ => ¬ Aligned offset)
    (fun after _ => Completed file path (session.script offset) after ∨
      Interrupted platform file path (session.script offset) breaks after)
    (fun after _ => Interrupted platform file path (session.script offset) breaks after)

theorem session_starts (readsBack : ReadsBack platform file)
    (session : CopySession platform file path) (resumes : Resumes platform file path disk offset) :
    session.InStep breaks works offset (session.connect disk) := by
  constructor
  · exact List.prefix_rfl
  · exact List.prefix_rfl
  · have silent : Cued (session.script offset) (⟨0, [], []⟩ : Sender) := List.nil_prefix
    unfold CallerKeeps CopySession.connect runCopyV1
    rw [holds_bind]
    apply holds_mono (holds_answered session.copyAnswers (only_prepare_copy _ _ _) ?_ ?_)
    · rintro after prepared ⟨rfl, outcome⟩
      obtain rfl : session.prepared = prepared :=
        Except.ok.inj (session.prepares.symm.trans outcome)
      exact copy_prepared_keeps session.source session.prepared 0 resumes.within rfl
    · rintro after error ⟨_, outcome⟩
      cases session.prepares.symm.trans outcome
    · intro op allowed
      refine ⟨silent, fun waits => ?_⟩
      cases op <;> first | exact allowed.elim | exact waits.elim
    · rintro op result after allowed ⟨taken, _⟩
      cases op <;> first | exact allowed.elim | exact taken
  · exact echo_stream_keeps session.targets readsBack rfl resumes session.short session.decodes
      session.authorized

variable {session : CopySession platform file path} {before after : CopyConnection}

theorem session_kept (inStep : session.InStep breaks works offset before)
    (taken : session.Step works breaks before after) :
    session.InStep breaks works offset after :=
  in_step_kept copy_step_grows receiver_step_grows inStep taken

theorem session_run (run : Relation.ReflTransGen (session.Step works breaks) before after)
    (inStep : session.InStep breaks works offset before) :
    session.InStep breaks works offset after := by
  induction run with
  | refl => exact inStep
  | tail _ last ih => exact session_kept ih last

variable {final : CopyConnection}

theorem host_outcome (inStep : session.InStep breaks works offset final)
    (ended : Ended final.hosting) :
    Completed file path (session.script offset) final.host ∨
      Interrupted platform file path (session.script offset) breaks final.host := by
  obtain ⟨calling, caller, hosting, host⟩ := final
  have hosts := inStep.hosts
  cases hosting with
  | done value => exact ((holds_done value).mp hosts).2
  | fail error => exact .inr ((holds_fail error).mp hosts).2
  | call op next => exact ended.elim

/-- Whatever cut a session off, the next one finds a part file and a saved state
that agree. -/
theorem reachable_resumes (readsBack : ReadsBack platform file)
    (reachable : Reachable platform file path disk) :
    ∃ offset, Resumes platform file path disk offset := by
  induction reachable with
  | fresh unsaved => exact ⟨0, cleared_resumes unsaved⟩
  | cut session before run ended ih =>
    obtain ⟨offset, resumes⟩ := ih
    have kept := session_run run (session_starts readsBack session resumes)
    rcases host_outcome kept ended with completed | ⟨op, reached, _, resumes, _⟩
    · exact ⟨0, cleared_resumes completed.cleared⟩
    · exact ⟨reached, resumes⟩

theorem session_at_rest (reading : ∀ stream count, works (.readExact stream count))
    (writing : ∀ stream frame, works (.write stream frame) ∨ breaks (.write stream frame))
    (inStep : session.InStep breaks works offset final)
    (resting : ∀ after, ¬ session.Step works breaks final after) :
    (Aligned offset ∧ final.calling = .done () ∧ Ended final.hosting ∧
        final.host.sent = replying (session.script offset)) ∨
      (¬ Aligned offset ∧ ∃ error, final.calling = .fail error) ∨
      (Ended final.hosting ∧
        final.host.sent.length < (replying (session.script offset)).length) := by
  have able : ∀ world op words, Answerable world op → words.length = bytesNeeded op →
      ∃ result after, ReceiverStep works breaks session.nodeAnswers world op result after ∧
        after.received = world.received ++ words := receiver_step_able reading writing
  have replied := host_replies inStep.hosts
  rcases caller_ended_or_waits resting inStep copy_step_free copy_step_hears with
    ended | ⟨said, level, due⟩
  · obtain ⟨calling, caller, hosting, host⟩ := final
    cases calling with
    | done value =>
      obtain ⟨_, aligned, heard, spoken⟩ := (holds_done value).mp inStep.calls
      -- All replies were heard, so all were sent.
      have level : host.sent = caller.received := by
        apply List.IsPrefix.eq_of_length_le
        · rw [heard]
          exact replied
        · exact inStep.heard.length_le
      have said : caller.sent = cue (session.script offset) caller.received.length := by
        rw [heard, cue_all, spoken]
      exact .inl ⟨aligned, rfl, host_ended resting inStep able said level, level.trans heard⟩
    | fail error =>
      obtain ⟨_, refused⟩ := (holds_fail error).mp inStep.calls
      exact .inr (.inl ⟨refused, error, rfl⟩)
    | call op next => exact ended.elim
  · refine .inr (.inr ⟨host_ended resting inStep able said level, ?_⟩)
    rw [level]
    exact due

theorem session_settles (readsBack : ReadsBack platform file)
    (resumes : Resumes platform file path disk offset)
    (session : CopySession platform file path) :
    Settles session.Lasting
      (fun final =>
        (Aligned offset ∧ final.calling = .done () ∧ final.host.state path = some file.bytes) ∨
        (¬ Aligned offset ∧ ∃ error, final.calling = .fail error)) (session.connect disk) := by
  have start : session.InStep (fun _ => False) (fun _ => True) offset (session.connect disk) :=
    session_starts readsBack session resumes
  apply connection_settles _ (fun _ _ => session_kept) _ _ start
  intro final inStep resting
  -- Nothing broke, so a receiver that has ended is through.
  have completed : Ended final.hosting → Completed file path (session.script offset) final.host := by
    intro ended
    rcases host_outcome inStep ended with completed | ⟨_, _, broken, _⟩
    · exact completed
    · exact broken.elim
  rcases session_at_rest (fun _ _ => trivial) (fun _ _ => .inl trivial) inStep resting with
    ⟨aligned, succeeded, ended, _⟩ | refused | ⟨ended, missing⟩
  · exact .inl ⟨aligned, succeeded, (completed ended).delivered⟩
  · exact .inr refused
  · rw [(completed ended).replied] at missing
    exact absurd missing (Nat.lt_irrefl _)

theorem completes_iff_aligned (readsBack : ReadsBack platform file)
    (resumes : Resumes platform file path disk offset)
    (session : CopySession platform file path) : session.Completes disk ↔ Aligned offset := by
  have settles := session_settles readsBack resumes session
  constructor
  · intro completes
    obtain ⟨final, run, succeeded, _⟩ := settles_run completes
    have start : session.InStep (fun _ => False) (fun _ => True) offset (session.connect disk) :=
      session_starts readsBack session resumes
    have kept := (session_run run start).calls
    rw [succeeded] at kept
    exact ((holds_done ()).mp kept).2.1
  · intro aligned
    apply settles_mono settles
    rintro final (⟨_, succeeded⟩ | ⟨refused, _⟩)
    · exact succeeded
    · exact absurd aligned refused

/-- An uninterrupted session succeeds from every reachable disk whose recorded
offset is on a chunk boundary, and from no other. -/
theorem resumed_copy_completes_iff (readsBack : ReadsBack platform file)
    (reachable : Reachable platform file path disk) (session : CopySession platform file path) :
    session.Completes disk ↔ Aligned (recordedOffset platform path disk) := by
  obtain ⟨offset, resumes⟩ := reachable_resumes readsBack reachable
  rw [recorded_offset_resumes readsBack resumes]
  exact completes_iff_aligned readsBack resumes session
end Sessions

/-! The connection is lost while an acknowledgement is on its way. -/

def SendsAck (op : RuntimeOp) : Prop := ∃ stream ack, op = .write stream (.transferV1Ack ack)

def IsAck (frame : StreamFrame) : Prop := ∃ ack, frame = .transferV1Ack ack

theorem no_ack_sent {answers : (op : RuntimeOp) → op.Result} {before after : Receiver}
    {op : RuntimeOp} {result : op.Result}
    (taken : ReceiverStep (fun op => ¬ SendsAck op) SendsAck answers before op result after)
    (unsent : ∀ frame ∈ before.sent, ¬ IsAck frame) : ∀ frame ∈ after.sent, ¬ IsAck frame := by
  cases op with
  | readExact stream count =>
    cases result with
    | ok bytes =>
      obtain ⟨_, _, rfl⟩ := taken
      exact unsent
    | error error =>
      obtain ⟨_, rfl⟩ := taken
      exact unsent
  | write stream written =>
    cases result with
    | ok _ =>
      obtain ⟨passes, rfl⟩ := taken
      intro frame member
      rcases List.mem_append.mp member with old | new
      · exact unsent frame old
      · rintro ⟨ack, rfl⟩
        rw [List.mem_singleton] at new
        exact passes ⟨stream, ack, by rw [new]⟩
    | error error =>
      obtain ⟨_, rfl⟩ := taken
      exact unsent
  | file op =>
    obtain ⟨_, _, rfl⟩ := taken
    exact unsent
  | _ =>
    obtain ⟨_, rfl⟩ := taken
    exact unsent

theorem script_last_chunk (session : CopySession platform file path)
    (more : offset < file.bytes.length)
    (last : chunkEnd file session.reads offset = file.bytes.length) :
    replying (session.script offset) =
      [resumeFrame offset false, ackFrame file file.bytes.length, resultFrame file] := by
  rw [CopySession.script, transferScript, if_neg (Nat.ne_of_lt more), chunk_turns_more _ _ more,
    last, chunk_turns_end, replying_cons, replying_cons, replying_nil, chunkTurn, chunkReplies, last,
    if_pos rfl]
  rfl

/-- When the last chunk has been saved and its acknowledgement is lost, the whole
file is left in the part file, uncommitted. -/
theorem lost_acknowledgement (readsBack : ReadsBack platform file)
    (session : CopySession platform file path) (resumes : Resumes platform file path disk offset)
    (aligned : Aligned offset) (more : offset < file.bytes.length)
    (last : chunkEnd file session.reads offset = file.bytes.length) :
    ∃ final, Relation.ReflTransGen session.Fragile (session.connect disk) final ∧
      Ended final.hosting ∧ Resumes platform file path final.host.state file.bytes.length := by
  have replies := script_last_chunk session more last
  have acked : IsAck (ackFrame file file.bytes.length) := ⟨_, rfl⟩
  have settles : Settles (session.Step (fun op => ¬ SendsAck op) SendsAck)
      (fun final => Ended final.hosting ∧
        Resumes platform file path final.host.state file.bytes.length) (session.connect disk) := by
    have start : session.InStep SendsAck (fun op => ¬ SendsAck op) offset (session.connect disk) ∧
        ∀ frame ∈ (session.connect disk).host.sent, ¬ IsAck frame :=
      ⟨session_starts readsBack session resumes, fun _ member => nomatch member⟩
    refine connection_settles (fun final =>
      session.InStep SendsAck (fun op => ¬ SendsAck op) offset final ∧
        ∀ frame ∈ final.host.sent, ¬ IsAck frame) ?_ ?_ _ start
    · rintro before after ⟨inStep, unsent⟩ taken
      refine ⟨session_kept inStep taken, ?_⟩
      cases taken with
      | caller _ _ => exact unsent
      | host acted _ => exact no_ack_sent acted unsent
    · rintro final ⟨inStep, unsent⟩ resting
      have incomplete : final.host.sent ≠ replying (session.script offset) := by
        intro complete
        rw [replies] at complete
        refine unsent (ackFrame file file.bytes.length) ?_ acked
        rw [complete]
        exact List.mem_cons_of_mem _ List.mem_cons_self
      have ended : Ended final.hosting := by
        have reading : ∀ stream count, ¬ SendsAck (.readExact stream count) := by
          rintro stream count ⟨_, _, same⟩
          cases same
        have writing : ∀ stream frame,
            ¬ SendsAck (.write stream frame) ∨ SendsAck (.write stream frame) :=
          fun _ _ => (Classical.em _).symm
        rcases session_at_rest reading writing inStep resting with
          ⟨_, _, _, complete⟩ | ⟨refused, _⟩ | ⟨ended, _⟩
        · exact absurd complete incomplete
        · exact absurd aligned refused
        · exact ended
      refine ⟨ended, ?_⟩
      rcases host_outcome inStep ended with completed | ⟨op, reached, ⟨stream, ack, same⟩, kept, saved⟩
      · exact absurd completed.replied incomplete
      · obtain ⟨rfl, member⟩ := saved stream ack same
        rw [replies] at member
        -- There is only one acknowledgement to lose.
        have only : ack = ⟨UInt64.ofNat file.bytes.length, true, none⟩ := by
          simpa [resumeFrame, ackFrame, resultFrame] using member
        rw [only] at kept
        rwa [UInt64.toNat_ofNat_of_lt' file.fits] at kept
  obtain ⟨final, run, ended, saved⟩ := settles_run settles
  refine ⟨final, Relation.ReflTransGen.mono ?_ _ _ run, ended, saved⟩
  intro before after taken
  cases taken with
  | caller acted delivered => exact .caller acted delivered
  | host acted delivered =>
    exact .host (receiver_step_mono (fun _ _ => trivial) (fun _ _ => trivial) acted) delivered

/-! One byte, copied to a node that lets unauthenticated operations through. -/

def sampleFile : SourceFile := ⟨[7], by decide⟩

def samplePrepared : PreparedCopy := ⟨2, "/r", none⟩

theorem sample_targets : samplePrepared.remotePath = "/r" := rfl

def sampleRequest : TransferV1Request :=
  copyRequest samplePrepared sampleFile.size (sha256 sampleFile.bytes)

-- The number and its digits, as `serde_json` writes them.
def jsonNumber (value : Nat) : List UInt8 := (FileText.decimal value).flatMap String.utf8EncodeChar

def stateJsonHead (state : TransferV1State) : List UInt8 :=
  utf8 "\x7b\"size\":" ++ jsonNumber state.size.toNat ++ utf8 ",\"digest\":[" ++
    (utf8 ",").intercalate (state.digest.toList.map fun byte => jsonNumber byte.toNat) ++
    utf8 "],\"chunk_size\":" ++ jsonNumber state.chunkSize.toNat ++ utf8 ",\"offset\":"

def stateJson (state : TransferV1State) : List UInt8 :=
  stateJsonHead state ++ (jsonNumber state.offset.toNat ++ utf8 "\x7d")

def resumePlatform : Platform :=
  { samplePlatform with
    transferV1Request := recognise TransferV1Request.encode [sampleRequest]
    transferV1Chunk := recognise TransferV1Chunk.encode [chunkHeader 0 [7]]
    transferV1State := recognise stateJson [savedState sampleFile 0, savedState sampleFile 1]
    transferV1Json := stateJson }

theorem saved_state_reads_back (file : SourceFile) :
    recognise stateJson [savedState file 0, savedState file 1] (stateJson (savedState file 1)) =
      .ok (savedState file 1) := by
  have differ : stateJson (savedState file 0) ≠ stateJson (savedState file 1) := by
    intro same
    have digits : jsonNumber 0 ++ utf8 "\x7d" = jsonNumber 1 ++ utf8 "\x7d" :=
      List.append_cancel_left same
    revert digits
    decide
  simp [recognise, differ]

theorem sample_reads_back : ReadsBack resumePlatform sampleFile := by
  have states : resumePlatform.transferV1State =
      recognise stateJson [savedState sampleFile 0, savedState sampleFile 1] := rfl
  have json : resumePlatform.transferV1Json = stateJson := rfl
  constructor
  · intro offset within
    rw [states, json]
    rcases Nat.le_one_iff_eq_zero_or_eq_one.mp within with rfl | rfl
    · exact recognise_first stateJson (savedState sampleFile 0) _
    · exact saved_state_reads_back sampleFile
  · intro offset count positive within
    change offset + count ≤ 1 at within
    obtain rfl : offset = 0 := by omega
    obtain rfl : count = 1 := by omega
    exact recognise_first TransferV1Chunk.encode (chunkHeader 0 [7]) []

def sampleCopyAnswers : (op : CopyOp) → op.Result
  | .loadPeers => [⟨2, ["tcp://127.0.0.1:7001"], none⟩]
  | .localNetworkId => .ok sampleNetwork
  | .loadCliAuthorization _ _ _ _ => .ok none
  | .connectPeerStream _ _ _ => .ok ()
  | .sourceLen => .ok 0
  | .hashSource => .ok (Bytes.fill 32 0)
  | .readSource _ => .ok []
  | .readFrame _ => .error "connection lost"
  | .openSource _ | .seekSource _ | .write _ | .flush => .ok ()

def sampleParseId (text : String) : Except String UInt64 :=
  if text = "2" then .ok 2 else .error "invalid digit found in string"

theorem sample_prepares : ((prepareCopy resumePlatform sampleParseId "#2:/r").run
    (fun known op => (sampleCopyAnswers op, known)) ()).1 = .ok samplePrepared := by
  have parsed : parseCopyDestination sampleParseId "#2:/r" = .ok (2, "/r") := by decide
  have endpoint : parseEndpoint resumePlatform "tcp://127.0.0.1:7001" =
      .ok (.tcp ⟨"127.0.0.1:7001"⟩) := by
    rfl
  simp [prepareCopy, parsed, endpoint, Task.run, perform, sampleCopyAnswers, EffectTask.ofExcept,
    orError, samplePrepared]

def sampleNoFile : (op : FileOp) → op.Result
  | .lock _ | .unlock _ => ()
  | .createDirAll _ | .create _ | .openAppend _ | .openWrite _ | .seek _ _ | .setLen _ _
  | .writeAll _ _ | .flush _ | .read _ | .write _ _ | .copy _ _ | .rename _ _ | .remove _
  | .exists_ _ | .length _ | .hash _ => .error missingFile

-- Outside the stream and the files, a session asks the node for an authorization only.
def sampleNodeAnswers : (op : RuntimeOp) → op.Result
  | .nowSecs => 5
  | .random32 => Bytes.fill 32 0
  | .newUuid => Bytes.fill 16 0
  | .sign _ _ => Bytes.fill 64 0
  | .localState => ⟨0, 0, 0, 0, 0, 0, []⟩
  | .loadAuthority _ => .ok (some sampleAuthority)
  | .loadRevocations _ => .ok none
  | .recordNonce _ _ => .ok ()
  | .peerGet _ | .recordGet _ | .popTransferable _ _ | .resolvePending _ => none
  | .peerAll | .recordAll => []
  | .recordUpsert _ _ => false
  | .connectSession _ _ | .tcpConnect _ => .ok ⟨0⟩
  | .openStream _ => .ok ⟨0, none⟩
  | .readExact _ _ | .readSome _ _ | .tcpRead _ _ => .ok []
  | .write _ _ | .copyBidirectional _ _ | .tcpWrite _ _ => .ok ()
  | .file op => sampleNoFile op
  | .peerUpsert _ | .spawnPeerRecords _ | .enqueue _ | .pushBack _ | .markTransferred _
  | .sendResult _ _ => ()

theorem sample_decodes :
    resumePlatform.transferV1Request sampleRequest.encode = .ok sampleRequest := by
  have requests : resumePlatform.transferV1Request =
      recognise TransferV1Request.encode [sampleRequest] := rfl
  rw [requests]
  exact recognise_first TransferV1Request.encode sampleRequest []

theorem sample_short : sampleRequest.encode.length ≤ 1024 * 1024 := by
  decide

def sampleSession : CopySession resumePlatform sampleFile "/r" where
  parseId := sampleParseId
  source := "report.bin"
  destination := "#2:/r"
  reads := fun _ => TRANSFER_V1_CHUNK_SIZE.toNat
  copyAnswers := sampleCopyAnswers
  prepared := samplePrepared
  others := fun _ => pure ()
  context := some { sampleNode with allowUnauthenticatedOperations := true }
  stream := ⟨0, none⟩
  nodeAnswers := sampleNodeAnswers
  prepares := sample_prepares
  targets := sample_targets
  short := sample_short
  decodes := sample_decodes
  authorized := rfl

theorem sample_copy_completes : Reachable resumePlatform sampleFile "/r" (fun _ => none) ∧
    sampleSession.Completes fun _ => none :=
  ⟨.fresh rfl, (resumed_copy_completes_iff sample_reads_back (.fresh rfl) sampleSession).mpr
    (by decide)⟩

/-- The last acknowledgement is lost. On every schedule the next session ends with
the sender reporting an error. -/
theorem uncommitted_copy_is_refused :
    ∃ disk, Reachable resumePlatform sampleFile "/r" disk ∧
      disk (partPath "/r") = some sampleFile.bytes ∧ ¬ sampleSession.Completes disk ∧
      Settles sampleSession.Lasting (fun final => ∃ error, final.calling = .fail error)
        (sampleSession.connect disk) := by
  have unsaved : Resumes resumePlatform sampleFile "/r" (fun _ => none) 0 := cleared_resumes rfl
  obtain ⟨final, run, ended, saved⟩ :=
    lost_acknowledgement sample_reads_back sampleSession unsaved rfl Nat.zero_lt_one rfl
  have unaligned : ¬ Aligned sampleFile.bytes.length := by decide
  refine ⟨final.host.state, .cut sampleSession (.fresh rfl) run ended, ?_, ?_, ?_⟩
  · rcases saved.kept with ⟨_, impossible⟩ | ⟨_, part⟩
    · cases impossible
    · rw [part, List.take_length]
  · rw [completes_iff_aligned sample_reads_back saved sampleSession]
    exact unaligned
  · apply settles_mono (session_settles sample_reads_back saved sampleSession)
    rintro ended (⟨aligned, _⟩ | ⟨_, failed⟩)
    · exact absurd aligned unaligned
    · exact failed
end Misaka.TransferResume
