import Misaka.TransferCrash

/-!
Whether a transfer can still be completed after crashes. An honest session from
any disk that sessions and crashes lead to completes at the second try at the
latest, because a part file with wrong bytes is found out and started over. The
exception is a saved state that does not parse: a crash can cut off its writing,
and then every later session for the destination fails before it begins.
-/

namespace Misaka.TransferRecovery
open Bincode Identity Protocol EffectTask NodeRuntime HumanAuthorization TransferFiles
open StreamServices Duplex Sha256 CopyCommand TransferDisk TransferDialogue TransferResume
open TransferCrash

/-! An honest sender answers every offset it is told with the chunk from there. -/
section Honest

structure HonestSession (platform : Platform) (path : String) where
  prepared : PreparedCopy
  file : SourceFile
  reads : Nat → Nat
  stream : NetworkStream
  answers : (op : RuntimeOp) → op.Result
  targets : prepared.remotePath = path
  readsBack : ReadsBack platform file

variable {platform : Platform} {path : String} (session : HonestSession platform path)

def HonestSession.request : TransferV1Request :=
  copyRequest session.prepared session.file.size (sha256 session.file.bytes)

def HonestSession.reply : StreamFrame → List UInt8
  | .transferV1Resume resume =>
    if resume.complete then []
    else (chunkTurn session.file session.reads resume.offset.toNat).words
  | .transferV1Ack ack =>
    if ack.complete then []
    else (chunkTurn session.file session.reads ack.nextOffset.toNat).words
  | _ => []

def HonestSession.said (frames : List StreamFrame) : List UInt8 := frames.flatMap session.reply

/-- The connection lasts, so the session has one run. -/
def HonestSession.serve (world : Receiver) : (op : RuntimeOp) → op.Result × Receiver
  | .readExact _ count =>
    let words := ((session.said world.sent).drop world.received.length).take count
    if words.length = count then
      (.ok words, { world with received := world.received ++ words })
    else (.error ⟨.unexpectedEof, "early eof"⟩, world)
  | .write _ frame => (.ok (), { world with sent := world.sent ++ [frame] })
  | .file op =>
    match answer world.state op with
    | some (result, disk) => (result, { world with state := disk })
    | none => (session.answers (.file op), world)
  | op => (session.answers op, world)

def HonestSession.run (disk : Disk) : Except IoError Unit × Receiver :=
  (resumeTransferV1 platform session.request (partPath path) (statePath path) session.stream).run
    session.serve ⟨disk, [], []⟩

def HonestSession.after (disk : Disk) : Disk := (session.run disk).2.state

/-- The receiver reports success, and the destination has the digest. -/
structure HonestSession.Succeeds (world : Receiver) : Prop where
  delivered : Delivered session.request path world.state
  reported : ∃ result, world.sent.getLast? = some (.transferResult result) ∧ result.success = true

def HonestSession.Completes (disk : Disk) : Prop :=
  (session.run disk).1 = .ok () ∧ session.Succeeds (session.run disk).2

/-- All the bytes are there, and some of them are wrong. -/
structure HonestSession.Spoiled (disk : Disk) : Prop where
  saved : disk (statePath path) =
    some (platform.transferV1Json (savedState session.file session.file.bytes.length))
  part : ∃ content, disk (partPath path) = some content ∧
    content.length = session.file.bytes.length ∧ sha256 content ≠ sha256 session.file.bytes

def HonestSession.Step (world : Receiver) (op : RuntimeOp) (result : op.Result)
    (after : Receiver) : Prop :=
  session.serve world op = (result, after)

variable {session}

theorem honest_on_disk : OnDisk path session.Step (fun _ _ => True) := by
  constructor
  · intro world after op result given disk answered taken
    change (match answer world.state op with
      | some (result, disk) => (result, { world with state := disk })
      | none => (session.answers (.file op), world)) = (given, after) at taken
    rw [answered] at taken
    cases taken
    exact ⟨rfl, rfl⟩
  · intro world op _ _
    trivial

variable {disk : Disk} {received : List UInt8} {sent : List StreamFrame}
variable {failed : Receiver → IoError → Prop} {offset : Nat} {content : List UInt8}

variable {stream : NetworkStream}

theorem hears {count : Nat} {words later : List UInt8}
    {post : Receiver → Except IoError (List UInt8) → Prop}
    (said : session.said sent = received ++ (words ++ later)) (long : words.length = count)
    (next : post ⟨disk, received ++ words, sent⟩ (.ok words)) :
    Holds session.Step (fun _ _ => True) (perform (RuntimeOp.readExact stream count)) post failed
      ⟨disk, received, sent⟩ := by
  have heard : ((session.said sent).drop received.length).take count = words := by
    rw [said, List.drop_left, ← long, List.take_left]
  rw [holds_perform]
  refine ⟨trivial, ?_⟩
  intro result after taken
  unfold HonestSession.Step HonestSession.serve at taken
  simp only [heard, long, if_true, Prod.mk.injEq] at taken
  obtain ⟨rfl, rfl⟩ := taken
  exact next

variable {frame : StreamFrame}

theorem replies {post : Receiver → Unit → Prop} (next : post ⟨disk, received, sent ++ [frame]⟩ ()) :
    Holds session.Step (fun _ _ => True) (writeBincodeFrame stream frame) post failed
      ⟨disk, received, sent⟩ := by
  unfold writeBincodeFrame
  rw [holds_bind, holds_perform]
  refine ⟨trivial, ?_⟩
  intro result after taken
  cases taken
  exact (holds_done ()).mpr next

theorem hears_frame {limit : Nat} {Value : Type} {decode : Decoder Value} {body later : List UInt8}
    {value : Value} {post : Receiver → Value → Prop}
    (said : session.said sent = received ++ (framed body ++ later)) (short : body.length ≤ limit)
    (small : limit < 256 ^ 4) (decodes : decode body = .ok value)
    (next : post ⟨disk, received ++ framed body, sent⟩ value) :
    Holds session.Step (fun _ _ => True) (readBincodeFrame limit decode stream) post failed
      ⟨disk, received, sent⟩ := by
  have header : ofBigEndian (bigEndian 4 body.length) = body.length :=
    of_big_endian_encoding 4 body.length (short.trans_lt small)
  have width : (bigEndian 4 body.length).length = 4 := by
    rw [bigEndian, List.length_reverse, little_endian_length]
  rw [framed, List.append_assoc] at said
  unfold readBincodeFrame readRequest readFrame
  rw [holds_bind]
  apply hears said width
  rw [or_error_ok, done_bind, header, decide_eq_true short, ensure_true, done_bind, holds_bind]
  rw [← List.append_assoc] at said
  apply hears said rfl
  rw [or_error_ok, done_bind, decodes, List.append_assoc]
  exact (holds_done value).mpr next

theorem finish_honest (fits : PartFits path disk) (part : disk (partPath path) = some content)
    (length : content.length = session.file.bytes.length)
    (saved : disk (statePath path) = some (platform.transferV1Json (savedState session.file
      session.file.bytes.length))) :
    Holds session.Step (fun _ _ => True)
      (finishTransferV1 session.request (partPath path) (statePath path) stream)
      (fun after _ => session.Succeeds after ∨
        session.Spoiled after.state ∧ sha256 content ≠ sha256 session.file.bytes)
      failed ⟨disk, received, sent⟩ := by
  unfold finishTransferV1 commitMatching
  rw [holds_bind]
  apply holds_file_call honest_on_disk fits (harmless_reading fits rfl) rfl
  · exact found_some sha256 part
  rw [holds_bind]
  by_cases matching : sha256 content = session.request.digest
  · have destination : session.request.destination = path := session.targets
    rw [beq_iff_eq.mpr matching, if_pos rfl, destination]
    apply commit_holds honest_on_disk part trivial
    intro after fits delivered _
    apply replies
    refine .inl ⟨⟨content, delivered, matching⟩, _, List.getLast?_concat, ?_⟩
    exact beq_iff_eq.mpr matching
  · rw [beq_eq_false_iff_ne.mpr matching, if_neg Bool.false_ne_true, holds_pure]
    apply replies
    exact .inr ⟨⟨saved, content, part, length, matching⟩, matching⟩

theorem said_next (said : session.said sent = received) :
    session.said (sent ++ [frame]) = received ++ session.reply frame := by
  rw [HonestSession.said, List.flatMap_append, ← said]
  simp [HonestSession.said]

theorem drop_chunk_end (file : SourceFile) (reads : Nat → Nat) :
    chunkSlice file reads offset ++ file.bytes.drop (chunkEnd file reads offset) =
      file.bytes.drop offset := by
  have sliced : chunkSlice file reads offset =
      (file.bytes.drop offset).take (chunkSlice file reads offset).length := by
    rw [chunkSlice, sourceSlice, List.length_take, ← List.take_eq_take_min]
  rw [chunkEnd, ← List.drop_drop]
  nth_rewrite 1 [sliced]
  exact List.take_append_drop _ _

/-- The loop over the chunks that are left. What was there before stays in front,
right or wrong. -/
theorem chunks_honest (more : offset < session.file.bytes.length)
    (part : disk (partPath path) = some content) (length : content.length = offset)
    (said : session.said sent = received ++ (chunkTurn session.file session.reads offset).words) :
    Holds session.Step (fun _ _ => True)
      (receiveChunks platform session.request (partPath path) (statePath path) stream offset)
      (fun after _ => session.Succeeds after ∨ session.Spoiled after.state ∧
        sha256 (content ++ session.file.bytes.drop offset) ≠ sha256 session.file.bytes)
      failed ⟨disk, received, sent⟩ := by
  induction missing : session.file.bytes.length - offset using Nat.strong_induction_on
    generalizing offset content disk received sent with
  | _ count ih =>
    subst missing
    have small := session.file.fits
    have sizes := chunk_slice_length session.file session.reads more
    have header : chunkFits session.request
        (chunkHeader offset (chunkSlice session.file session.reads offset)) offset ∧ _ :=
      chunk_header_fits more
    obtain ⟨checked, short⟩ := header
    rw [receiveChunks, holds_bind]
    apply hears_frame said
    · rw [TransferV1Chunk.encode_length]
      decide
    · decide
    · exact chunk_reads_back session.readsBack more
    rw [dif_pos checked, holds_bind, short]
    unfold readPayload
    rw [holds_bind]
    have heard : session.said sent =
        (received ++ framed
          (chunkHeader offset (chunkSlice session.file session.reads offset)).encode) ++
        (chunkSlice session.file session.reads offset ++ []) := by
      rw [said, chunkTurn, List.append_nil, List.append_assoc]
    apply hears heard rfl
    have digest : (transferDigest (chunkSlice session.file session.reads offset) ==
        (chunkHeader offset (chunkSlice session.file session.reads offset)).digest) = true :=
      beq_self_eq_true _
    rw [or_error_ok, holds_done, digest, ensure_true, done_bind, holds_bind]
    apply append_holds honest_on_disk part
    · unfold chunkEnd at sizes
      omega
    intro after grown saved
    have longer : (content ++ chunkSlice session.file session.reads offset).length =
        chunkEnd session.file session.reads offset := by
      rw [List.length_append, length, chunkEnd]
    have kept : PartFits path after := by
      intro bytes found
      cases grown.symm.trans found
      omega
    have whole : content ++ session.file.bytes.drop offset =
        (content ++ chunkSlice session.file session.reads offset) ++
          session.file.bytes.drop (chunkEnd session.file session.reads offset) := by
      rw [List.append_assoc, drop_chunk_end]
    have complete : session.request.size.toNat = session.file.bytes.length :=
      session.file.size_to_nat
    rw [holds_bind]
    apply replies
    change Holds _ _ (if (chunkEnd session.file session.reads offset ==
      session.request.size.toNat) = true then _ else _) _ _ _
    rw [complete]
    by_cases last : chunkEnd session.file session.reads offset = session.file.bytes.length
    · rw [if_pos (beq_iff_eq.mpr last), whole, last, List.drop_length, List.append_nil]
      apply finish_honest kept grown (longer.trans last)
      rw [saved]
      change some (platform.transferV1Json (savedState session.file
        (chunkEnd session.file session.reads offset))) = _
      rw [last]
    · rw [if_neg (by simpa using last), whole]
      apply ih _ (chunk_end_progress session.file session.reads more) (lt_of_le_of_ne sizes.2.2 last)
        grown longer _ rfl
      have told : (UInt64.ofNat (chunkEnd session.file session.reads offset)).toNat =
          chunkEnd session.file session.reads offset :=
        UInt64.toNat_ofNat_of_lt' (sizes.2.2.trans_lt small)
      rw [List.append_nil] at heard
      rw [said_next heard]
      congr 1
      change (if (chunkEnd session.file session.reads offset ==
          session.file.bytes.length) = true then []
        else (chunkTurn session.file session.reads
          (UInt64.ofNat (chunkEnd session.file session.reads offset)).toNat).words) = _
      rw [told, if_neg (by simpa using last)]

theorem honest_opens (more : offset < session.file.bytes.length) :
    session.said [StreamFrame.transferV1Resume ⟨UInt64.ofNat offset, false, none⟩] =
      [] ++ (chunkTurn session.file session.reads offset).words := by
  have told : (UInt64.ofNat offset).toNat = offset :=
    UInt64.toNat_ofNat_of_lt' (more.trans session.file.fits)
  simp [HonestSession.said, HonestSession.reply, told]

/-- An uninterrupted session ends with success, or with all the bytes there and
some of them wrong. It does not come to that twice. -/
theorem honest_session (fits : PartFits path disk) (readable : StateReadable platform path disk) :
    Holds session.Step (fun _ _ => True)
      (resumeTransferV1 platform session.request (partPath path) (statePath path) session.stream)
      (fun after _ => session.Succeeds after ∨
        session.Spoiled after.state ∧ ¬ session.Spoiled disk)
      (fun _ _ => False) ⟨disk, [], []⟩ := by
  have destination : session.request.destination = path := session.targets
  have size : session.request.size.toNat = session.file.bytes.length := session.file.size_to_nat
  unfold resumeTransferV1
  rw [holds_bind]
  apply parent_holds honest_on_disk fits
  rw [holds_bind]
  apply settled_holds honest_on_disk fits
  · intro unreadable _
    exact unreadable readable
  intro _ settledDisk state settled
  rw [holds_bind]
  apply create_holds honest_on_disk settled
  intro after content opened
  have fits := opened_fits opened
  have within := UInt64.le_iff_toNat_le.mp opened.within
  rw [holds_bind]
  apply part_is_complete_holds honest_on_disk fits opened.part
  · intro full matching
    rw [if_pos rfl, holds_bind, destination]
    apply commit_holds honest_on_disk opened.part trivial
    intro committed fits delivered _
    rw [holds_bind]
    apply replies
    apply replies
    exact .inl ⟨⟨content, delivered, matching⟩, _, List.getLast?_concat, rfl⟩
  · intro wrong
    rw [if_neg Bool.false_ne_true, holds_bind]
    apply restart_holds honest_on_disk fits
    · intro full emptied part _
      have more : 0 < session.file.bytes.length := by
        apply Nat.pos_of_ne_zero
        intro nothing
        have same : content = session.file.bytes := by
          rw [List.length_eq_zero_iff.mp nothing, ← List.length_eq_zero_iff, opened.length, full,
            size, nothing]
        exact wrong full (congrArg sha256 same)
      rw [holds_bind]
      apply replies
      apply holds_mono (chunks_honest more part rfl (honest_opens more))
      · rintro ended _ (succeeded | ⟨_, wrong⟩)
        · exact .inl succeeded
        · exact absurd rfl wrong
      · intro ended error impossible
        exact impossible
    · intro unfinished
      have more : state.offset.toNat < session.file.bytes.length := by
        rw [← size]
        exact lt_of_le_of_ne within (mt UInt64.toNat_inj.mp unfinished)
      rw [holds_bind]
      apply replies
      have opens : session.said [.transferV1Resume ⟨state.offset, false, none⟩] =
          [] ++ (chunkTurn session.file session.reads state.offset.toNat).words := by
        have told := honest_opens more
        rwa [UInt64.ofNat_toNat] at told
      apply holds_mono (chunks_honest more opened.part opened.length opens)
      · rintro ended _ (succeeded | ⟨spoiled, wrong⟩)
        · exact .inl succeeded
        · refine .inr ⟨spoiled, fun before => ?_⟩
          rcases opened.since with start | ⟨_, bytes, saved, reads⟩
          · have empty : content = [] := by
              rw [← List.length_eq_zero_iff, opened.length, start]
              rfl
            rw [empty, start] at wrong
            exact wrong rfl
          · cases saved.symm.trans before.saved
            cases reads.symm.trans (session.readsBack.state _ (Nat.le_refl _))
            exact unfinished rfl
      · intro ended error impossible
        exact impossible

theorem unreadable_session (fits : PartFits path disk)
    (unreadable : ¬ StateReadable platform path disk) :
    Holds session.Step (fun _ _ => True)
      (resumeTransferV1 platform session.request (partPath path) (statePath path) session.stream)
      (fun _ _ => False) (fun after _ => after.state = disk) ⟨disk, [], []⟩ := by
  unfold resumeTransferV1
  rw [holds_bind]
  apply parent_holds honest_on_disk fits
  rw [holds_bind]
  apply settled_holds honest_on_disk fits
  · intro _ error
    rfl
  · intro readable
    exact absurd readable unreadable

theorem serve_answers : Answers session.serve session.Step := fun _ _ => rfl

theorem readable_completes (fits : PartFits path disk)
    (readable : StateReadable platform path disk) :
    session.Completes disk ∨
      session.Spoiled (session.after disk) ∧ ¬ session.Spoiled disk := by
  obtain ⟨_, ended, outcome⟩ := holds_run serve_answers (honest_session fits readable)
  rcases outcome with succeeded | spoiled
  · exact .inl ⟨ended, succeeded⟩
  · exact .inr spoiled

theorem spoiled_fits (spoiled : session.Spoiled disk) : PartFits path disk := by
  obtain ⟨content, part, length, _⟩ := spoiled.part
  intro bytes found
  cases part.symm.trans found
  rw [length]
  exact session.file.fits

theorem spoiled_readable (spoiled : session.Spoiled disk) : StateReadable platform path disk := by
  intro bytes found
  cases spoiled.saved.symm.trans found
  exact ⟨_, session.readsBack.state _ (Nat.le_refl _)⟩

theorem completes_within_two (fits : PartFits path disk)
    (readable : StateReadable platform path disk) :
    ∃ tries ≤ 1, session.Completes (session.after^[tries] disk) := by
  have outcome : session.Completes disk ∨ _ := readable_completes fits readable
  rcases outcome with first | ⟨spoiled, _⟩
  · exact ⟨0, Nat.zero_le 1, first⟩
  · rcases readable_completes (spoiled_fits spoiled) (spoiled_readable spoiled) with
      second | ⟨_, fresh⟩
    · exact ⟨1, Nat.le_refl 1, second⟩
    · exact absurd spoiled fresh

theorem unreadable_stays (fits : PartFits path disk)
    (unreadable : ¬ StateReadable platform path disk) :
    session.after disk = disk ∧ ¬ session.Completes disk := by
  have run : Reaches session.Step (resumeTransferV1 platform session.request (partPath path)
      (statePath path) session.stream) ⟨disk, [], []⟩ (ofExcept (session.run disk).1)
      (session.run disk).2 := run_reaches serve_answers _ _
  have ended := holds_reaches (unreadable_session fits unreadable) run
  unfold HonestSession.after HonestSession.Completes
  cases outcome : (session.run disk).1 with
  | ok value =>
    rw [outcome] at ended
    exact ((holds_done value).mp ended).elim
  | error error =>
    rw [outcome] at ended
    constructor
    · exact (holds_fail error).mp ended
    · rintro ⟨impossible, _⟩
      cases impossible

theorem unreadable_never_completes (fits : PartFits path disk)
    (unreadable : ¬ StateReadable platform path disk) (tries : Nat) :
    ¬ session.Completes (session.after^[tries] disk) := by
  have stays : session.after^[tries] disk = disk :=
    Function.iterate_fixed (unreadable_stays fits unreadable).1 tries
  rw [stays]
  exact (unreadable_stays fits unreadable).2
end Honest

/-! One byte. The receiver is killed while it saves the state for it. -/

def sampleAttempt : Session "/r" where
  request := sampleRequest
  stream := ⟨0, none⟩
  answers := sampleNodeAnswers
  targets := sample_targets

theorem sample_saves : Comes sampleAttempt (sampleAttempt.task resumePlatform) ⟨fun _ => none, [], []⟩
   (.write (statePath "/r") (stateJson (savedState sampleFile 1))) := by
  apply comes_file (.exists_ (statePath "/r")) rfl
  apply comes_file (.exists_ (partPath "/r")) rfl
  apply comes_file (.remove (partPath "/r")) rfl
  apply comes_file (.remove (statePath "/r")) rfl
  apply comes_file (.length (partPath "/r")) rfl
  apply comes_file (.remove (partPath "/r")) rfl
  apply comes_file (.exists_ (partPath "/r")) rfl
  apply comes_file (.create (partPath "/r")) rfl
  apply comes_write
  have decodes : resumePlatform.transferV1Chunk (chunkHeader 0 [7]).encode =
      .ok (chunkHeader 0 [7]) := sample_reads_back.chunk 0 1 (by decide) (by decide)
  rw [receiveChunks]
  apply comes_frame (chunkHeader 0 [7]).encode
  · rw [TransferV1Chunk.encode_length]
    decide
  · decide
  · exact decodes
  apply comes_read [7] rfl
  apply comes_file (.openAppend (partPath "/r")) rfl
  apply comes_file (.writeAll ⟨partPath "/r", ⟨0⟩⟩ [7]) rfl
  apply comes_file (.flush ⟨partPath "/r", ⟨0⟩⟩) rfl
  exact ⟨_, _, .here _ _⟩

def sampleHonest : HonestSession resumePlatform "/r" where
  prepared := samplePrepared
  file := sampleFile
  reads := fun _ => TRANSFER_V1_CHUNK_SIZE.toNat
  stream := ⟨0, none⟩
  answers := sampleNodeAnswers
  targets := sample_targets
  readsBack := sample_reads_back

theorem empty_fits : PartFits "/r" fun _ => none := by
  intro content found
  cases found
end Misaka.TransferRecovery
