import Misaka.TransferResume
import Misaka.TransferThreads

/-!
Sessions of transfer v1 for one destination at the same time. They share the part
file without a lock, and the digest is checked before the rename. What a session
renames has the digest it reports whenever no other session changed the part
file since the check began. Otherwise a session may rename what another one has
put there in the meantime.
-/

namespace Misaka.ConcurrentSessions
open Bincode Identity Protocol EffectTask NodeRuntime HumanAuthorization TransferFiles
open StreamServices Sha256 TransferDisk TransferDialogue TransferCrash SharedFiles RelyGuarantee
open TransferThreads CopyCommand TransferResume

section Conditions
variable {Index : Type} (path : String)

/-- The session is reading the part file for its digest, or it has checked the
digest and is about to rename the file. -/
def Checking : RuntimeOp → Work UInt8 → Prop
  | .file (.hash target), .reading _ _ => target = partPath path
  | .file (.rename source _), _ => source = partPath path
  | _, _ => False

/-- No other session changes the part file in between. -/
def Undisturbed (actor : Option Index) (before after : Services Index) : Prop :=
  ∀ thread, some thread ≠ actor → ∀ op next, before.task thread = .call op next →
    Checking path op (before.work thread) →
    Kept (partPath path) before.shared.files after.shared.files

def Verified (digest : Bytes 32) (notes : Notes) : Prop :=
  ∃ content, notes.moved = some (path, content) ∧ sha256 content = digest

def sessionTerms {path : String} (session : Session path) (thread : Index) :
    Terms RuntimeOp (Work UInt8) (Node Index) where
  rely := fun op work before after => after.notes thread = before.notes thread ∧
    (Checking path op work → Kept (partPath path) before.files after.files)
  guarantee := fun _ _ => True
  guard := fun op _ node => ∀ stream result, op = .write stream (.transferResult result) →
    result.success = true → Verified path session.request.digest (node.notes thread)
end Conditions

section Sessions
variable {Index : Type} [DecidableEq Index] {platform : Platform} {path : String}
variable {answers : Index → (op : RuntimeOp) → op.Result → Prop}
variable {session : Session path} {thread : Index}

abbrev SecureSession {Value : Type} (answers : Index → (op : RuntimeOp) → op.Result → Prop)
    (session : Session path) (thread : Index) (task : RuntimeTask IoError Value)
    (pre : Node Index → Prop) (post : Node Index → Value → Prop) : Prop :=
  Secure (machine answers) thread (sessionTerms session thread) task pre post fun _ _ => True

/-! Everything but the report of a success may happen at any time. -/
def Quiet (op : RuntimeOp) : Prop :=
  ∀ stream result, op = .write stream (.transferResult result) → result.success = false

theorem quiet_file (op : FileOp) : Quiet (.file op) := by
  intro stream result same
  cases same

variable {pre : Node Index → Prop} {Value : Type} {task : RuntimeTask IoError Value}

theorem quiet_secure (quiet : Only Quiet task) :
    SecureSession answers session thread task pre fun _ _ => True := by
  apply secure_free quiet fun _ _ => trivial
  intro op silent _ _ stream result same success
  cases (silent stream result same).symm.trans success

variable {op : FileOp}

theorem quiet_call {fallible : op.Result = Except IoError Value} :
    Only Quiet (fileCall op fallible) :=
  only_file_call (quiet_file op)

variable {target : String}

theorem quiet_discard : Only Quiet (discardFile target) := by
  apply only_bind
  · exact (only_perform _).mpr (quiet_file _)
  · simp

theorem quiet_parent : Only Quiet (createParent platform target) := by
  unfold createParent
  split
  · exact quiet_call
  · simp

variable {request : TransferV1Request} {part saved : String}

theorem quiet_settled :
    Only Quiet (settledTransferV1State platform request part saved) := by
  apply only_bind
  · apply only_bind
    · apply only_bind quiet_call
      intro present
      split
      · apply only_bind quiet_call
        intro bytes
        apply only_bind
        · simp
        · simp
      · simp
    intro loaded
    apply only_bind quiet_call
    intro present
    split
    · apply only_bind quiet_discard
      intro _
      apply only_bind quiet_discard
      simp
    · simp
  intro state
  apply only_bind
  · unfold partIsStale
    split
    · simp
    · apply only_bind
      · exact (only_perform _).mpr (quiet_file _)
      intro length
      cases length <;> simp
  intro stale
  split
  · apply only_bind quiet_discard
    simp
  · simp

theorem quiet_open {fallible : op.Result = Except IoError FileHandle} :
    Only Quiet (openAt op target fallible) := by
  apply only_bind quiet_call
  simp

theorem quiet_create_missing : Only Quiet (createMissingPart part) := by
  apply only_bind quiet_call
  intro present
  split
  · simp
  · apply only_bind quiet_open
    simp

theorem quiet_restart {state : TransferV1State} :
    Only Quiet (restartPart platform request part saved state) := by
  unfold restartPart
  split
  · apply only_bind quiet_open
    intro _
    apply only_bind quiet_call
    simp
  · simp

theorem quiet_append {payload : List UInt8} {offset : Nat} :
    Only Quiet (appendChunk platform request part saved payload offset) := by
  apply only_bind quiet_open
  intro file
  apply only_bind quiet_call
  intro _
  apply only_bind quiet_call
  intro _
  exact quiet_call

variable {stream : NetworkStream}

theorem quiet_read {count : Nat} : Quiet (.readExact stream count) := by
  intro stream result same
  cases same

theorem quiet_write {frame : StreamFrame}
    (silent : ∀ result, frame = .transferResult result → result.success = false) :
    Only Quiet (writeBincodeFrame stream frame) := by
  have quiet : Quiet (.write stream frame) := by
    rintro _ result ⟨⟩
    exact silent result rfl
  apply only_bind
  · exact (only_perform _).mpr quiet
  · simp

/-! The check and the rename. -/

def Holding (path : String) (digest : Bytes 32) (node : Node Index) : Prop :=
  ∃ file, node.files.entry (partPath path) = some file ∧ sha256 (node.files.content file) = digest

omit [DecidableEq Index] in
theorem unreported {work : Work UInt8} {node : Node Index} :
    (sessionTerms session thread).guard (.file op) work node := by
  intro stream result same
  cases same

theorem hash_secure :
    SecureSession answers session thread (hashFilePath (partPath path)) pre
      fun node digest => Holding path digest node := by
  apply secure_mono (secure_hash (fun _ _ => trivial) (fun _ _ => unreported) ?_)
  · intro _ holds
    exact holds
  · intro _ _ checked
    exact checked.1
  · intro _ _ _
    trivial
  · intro _ _ _ _ relied
    exact relied.2 rfl

theorem rename_secure {digest : Bytes 32} :
    SecureSession answers session thread (finalizeTransferPart (partPath path) path)
      (Holding path digest) fun node _ => Verified path digest (node.notes thread) := by
  have moving : SecureSession answers session thread
      (perform (RuntimeOp.file (.rename (partPath path) path))) (Holding path digest)
      fun node result => result = .ok () ∧ Verified path digest (node.notes thread) :=
    secure_rename (fun _ _ => trivial) (fun _ _ => unreported) fun relied => relied.2 rfl
  apply secure_bind moving
  intro answer
  cases answer with
  | ok done =>
    intro node moved
    exact moved.2
  | error error =>
    apply secure_unreached
    rintro node ⟨impossible, _⟩
    cases impossible

theorem verified_sustained {op : RuntimeOp} (other : ¬ Renames op) :
    Sustains (machine answers) thread (sessionTerms session thread) op
      fun _ node => Verified path session.request.digest (node.notes thread) := by
  constructor
  · intro work before after verified relied
    rw [relied.1]
    exact verified
  · rintro work before left after ⟨content, moved, checked⟩ done
    exact ⟨⟨content, (piece_moved done other).trans moved, checked⟩, trivial⟩
  · intro _ _ _ _ _ _
    trivial
  · intro _ _ verified _ _ _ _
    exact verified

theorem verified_only (vocabulary : Only (fun op => ¬ Renames op) task) :
    SecureSession answers session thread task
      (fun node => Verified path session.request.digest (node.notes thread))
      fun node _ => Verified path session.request.digest (node.notes thread) := by
  apply secure_mono (secure_only vocabulary (fun _ other => verified_sustained other) ?_)
  · intro _ verified
    exact verified
  · intro _ _ verified
    exact verified
  · intro _ _ _
    trivial
  · rintro op work before result after other ⟨content, moved, checked⟩ done
    exact ⟨content, (piece_moved done other).trans moved, checked⟩

theorem commit_secure :
    SecureSession answers session thread
      (commitPart (partPath path) (statePath path) path) (Holding path session.request.digest)
      fun node _ => Verified path session.request.digest (node.notes thread) := by
  apply secure_bind rename_secure
  intro _
  apply verified_only
  apply only_bind
  · exact (only_perform _).mpr id
  · simp

theorem report_secure {result : TransferResult} :
    SecureSession answers session thread (writeBincodeFrame stream (.transferResult result))
      (fun node => Verified path session.request.digest (node.notes thread)) fun _ _ => True := by
  apply secure_mono (verified_only ?_)
  · intro _ verified
    exact verified
  · intro _ _ _
    trivial
  · intro _ _ _
    trivial
  · apply only_bind
    · exact (only_perform _).mpr id
    · simp

theorem finish_secure :
    SecureSession answers session thread
      (finishTransferV1 session.request (partPath path) (statePath path) stream) pre
      fun _ _ => True := by
  apply secure_bind hash_secure
  intro digest
  unfold commitMatching
  by_cases matching : digest = session.request.digest
  · rw [beq_iff_eq.mpr matching, if_pos rfl, session.targets, matching]
    apply secure_bind commit_secure
    intro _
    exact report_secure
  · rw [beq_eq_false_iff_ne.mpr matching, if_neg Bool.false_ne_true]
    apply quiet_secure
    apply only_bind
    · simp
    intro _
    apply quiet_write
    rintro _ ⟨⟩
    exact beq_eq_false_iff_ne.mpr matching

theorem chunks_secure (offset : Nat) :
    SecureSession answers session thread
      (receiveChunks platform session.request (partPath path) (statePath path) stream offset) pre
      fun _ _ => True := by
  induction missing : session.request.size.toNat - offset using Nat.strong_induction_on
    generalizing offset pre with
  | _ count ih =>
    subst missing
    rw [receiveChunks]
    apply secure_bind (quiet_secure (only_read_frame fun _ => quiet_read))
    intro chunk
    split
    · rename_i checked
      have reading : Only Quiet (readPayload stream chunk.len.toNat) := by
        apply only_bind
        · exact (only_perform _).mpr quiet_read
        · simp
      apply secure_bind (quiet_secure reading)
      intro payload
      apply secure_bind (quiet_secure (by simp))
      intro _
      apply secure_bind (quiet_secure quiet_append)
      intro _
      apply secure_bind (quiet_secure (quiet_write ?_))
      · intro _
        split
        · exact finish_secure
        · exact ih _ (chunk_fits_progress checked) _ rfl
      · intro result same
        cases same
    · apply quiet_secure
      simp

/-- A session by itself: whatever the others do otherwise, a part file that they
leave alone from the check to the rename is delivered as it was checked. -/
theorem session_secure :
    SecureSession answers session thread (session.task platform) pre fun _ _ => True := by
  apply secure_bind (quiet_secure quiet_parent)
  intro _
  apply secure_bind (quiet_secure quiet_settled)
  intro state
  apply secure_bind (quiet_secure quiet_create_missing)
  intro _
  have checking : SecureSession answers session thread
      (partIsComplete session.request (partPath path) state) (fun _ => True)
      fun node complete => complete = true → Holding path session.request.digest node := by
    unfold partIsComplete
    split
    · apply secure_bind hash_secure
      intro digest
      apply secure_done
      intro node holding matching
      exact (beq_iff_eq.mp matching) ▸ holding
    · apply secure_done
      intro _ _ impossible
      cases impossible
  apply secure_bind checking
  intro complete
  cases complete with
  | true =>
    rw [if_pos rfl, session.targets]
    apply secure_bind (secure_pre commit_secure fun _ holding => holding rfl)
    intro _
    apply secure_bind (verified_only ?_)
    · intro _
      exact report_secure
    · apply only_bind
      · exact (only_perform _).mpr id
      · simp
  | false =>
    apply secure_bind (quiet_secure quiet_restart)
    intro _
    apply secure_bind (quiet_secure (quiet_write ?_))
    · intro _
      exact chunks_secure _
    · intro result same
      cases same

theorem sessions_compatible (sessions : Index → Session path) :
    Compatible (machine answers) (fun thread => sessionTerms (sessions thread) thread)
      (Undisturbed path) := by
  constructor
  · intro actor before after _ taken undisturbed _ other different op next running
    obtain ⟨_, _, _, _, done⟩ := step_progress taken
    refine ⟨piece_notes_others done different, fun checking => ?_⟩
    exact undisturbed other (fun same => different (Option.some.inj same)) op next running checking
  · intro before after _ taken _ other op next running
    obtain ⟨gone, halted, alive⟩ := step_halted taken
    refine ⟨halted.kept other (alive other op next running), fun _ => ?_⟩
    rw [halted.files]
    exact kept_refl

theorem reported_success_verified (sessions : Index → Session path) {node : Node Index}
    {final : Services Index} (run : Run (machine answers) (Undisturbed path)
      (Crew.start (machine answers) node fun thread => (sessions thread).task platform) final)
    {thread : Index} {stream : NetworkStream} {result : TransferResult}
    {next : Except IoError Unit → RuntimeTask IoError Unit}
    (reports : final.task thread = .call (.write stream (.transferResult result)) next)
    (success : result.success = true) :
    ∃ content, (final.shared.notes thread).moved = some (path, content) ∧
      sha256 content = (sessions thread).request.digest := by
  have start : AllSecured (machine answers) (fun thread => sessionTerms (sessions thread) thread)
      (Crew.start (machine answers) node fun thread => (sessions thread).task platform) := by
    intro thread
    have secure : SecureSession answers (sessions thread) thread
        ((sessions thread).task platform) (fun _ => True) fun _ _ => True := session_secure
    exact secured_start secure trivial
  have secured := run_secured (sessions_compatible sessions) start run thread
  rw [reports] at secured
  exact secured_guard secured stream result rfl success
end Sessions

/-! Two sessions. -/
section Sample
-- The digests are compared as they are, never computed.
attribute [local irreducible] sha256

def emptySession : Session "/r" where
  request := { sampleRequest with size := 0, digest := sha256 [] }
  stream := ⟨0, none⟩
  answers := sampleNodeAnswers
  targets := rfl

def byteSession : Session "/r" where
  request := sampleRequest
  stream := ⟨1, none⟩
  answers := sampleNodeAnswers
  targets := sample_targets

/-- One sender offers an empty file and the other one a file of one byte. -/
def twoSessions : Bool → Session "/r"
  | false => emptySession
  | true => byteSession

def emptyNode : Node Bool where
  files := ⟨fun _ => none, fun _ => [], 0, by simp, by simp⟩
  cursor := fun _ => none
  locks := fun _ => none
  notes := fun _ => ⟨none, none, none⟩

def anyAnswer : Bool → (op : RuntimeOp) → op.Result → Prop := fun _ _ _ => True

def twoServices : Services Bool :=
  Crew.start (machine anyAnswer) emptyNode fun thread => (twoSessions thread).task resumePlatform

-- What is left of the first session once its digest is found to match.
def emptyCommit : RuntimeTask IoError Unit := do
  commitPart (partPath "/r") (statePath "/r") "/r"
  writeBincodeFrame ⟨0, none⟩ (.transferV1Resume ⟨0, true, none⟩)
  writeBincodeFrame ⟨0, none⟩ (.transferResult ⟨true, 0, sha256 [], none⟩)

theorem empty_part_checked :
    Gets anyAnswer false ⟨emptyNode, .idle, emptySession.task resumePlatform⟩ fun place =>
      place.task = emptyCommit ∧ place.work = .idle ∧
      (∃ file, place.node.files.entry (partPath "/r") = some file) ∧
      place.node.files.entry (statePath "/r") = none := by
  apply gets_instant (.exists_ (statePath "/r")) rfl
  apply gets_instant (.exists_ (partPath "/r")) rfl
  apply gets_instant (.remove (partPath "/r")) rfl
  apply gets_instant (.remove (statePath "/r")) rfl
  apply gets_instant (.length (partPath "/r")) rfl
  apply gets_instant (.remove (partPath "/r")) rfl
  apply gets_instant (.exists_ (partPath "/r")) rfl
  apply gets_instant (.create (partPath "/r")) rfl
  apply gets_hash rfl rfl
  refine gets_here ⟨?_, rfl, ⟨_, rfl⟩, rfl⟩
  change (if (sha256 [] == sha256 []) = true then _ else _) = _
  rw [beq_self_eq_true]
  rfl

variable {node : Node Bool} {file : Nat}

/-- The session reports whatever it finds to rename. -/
theorem empty_commit_reports (part : node.files.entry (partPath "/r") = some file) :
    Gets anyAnswer false ⟨node, .idle, emptyCommit⟩ fun place =>
      (∃ next, place.task =
        .call (.write ⟨0, none⟩ (.transferResult ⟨true, 0, sha256 [], none⟩)) next) ∧
      (place.node.notes false).moved = some ("/r", node.files.content file) := by
  apply gets_instant (.rename (partPath "/r") "/r") (instant_rename part)
  apply gets_instant (.remove (statePath "/r")) rfl
  apply gets_answered (.write ⟨0, none⟩ (.transferV1Resume ⟨0, true, none⟩)) (.ok ())
    trivial trivial
  refine gets_here ⟨⟨_, rfl⟩, ?_⟩
  change (node.files.entry (partPath "/r")).map _ = _
  rw [part]
  rfl

theorem byte_received (part : node.files.entry (partPath "/r") = some file)
    (empty : node.files.content file = []) :
    Gets anyAnswer true ⟨node, .idle, receiveChunks resumePlatform sampleRequest (partPath "/r")
        (statePath "/r") ⟨1, none⟩ 0⟩ fun place =>
      ∃ file, place.node.files.entry (partPath "/r") = some file ∧
        place.node.files.content file = [7] := by
  have fits : chunkFits sampleRequest (chunkHeader 0 [7]) 0 := by decide
  have decodes : resumePlatform.transferV1Chunk (chunkHeader 0 [7]).encode =
      .ok (chunkHeader 0 [7]) := sample_reads_back.chunk 0 1 (by decide) (by decide)
  rw [receiveChunks]
  apply gets_frame (chunkHeader 0 [7]).encode ?_ (by decide) decodes trivial trivial
  · rw [dif_pos fits]
    apply gets_answered (.readExact ⟨1, none⟩ 1) (.ok [7]) trivial trivial
    apply gets_instant (.openAppend (partPath "/r")) (instant_append part)
    apply gets_works (.file .begins)
    apply gets_works (.file (appends_all (List.cons_ne_nil 7 []) rfl))
    refine gets_here ⟨file, part, ?_⟩
    change Function.update node.files.content file (node.files.content file ++ [7]) file = [7]
    rw [Function.update_self, empty]
    rfl
  · rw [TransferV1Chunk.encode_length]
    decide

/-- The other session starts over and appends its byte. -/
theorem part_overtaken (part : node.files.entry (partPath "/r") = some file)
    (unsaved : node.files.entry (statePath "/r") = none) :
    Gets anyAnswer true ⟨node, .idle, byteSession.task resumePlatform⟩ fun place =>
      ∃ file, place.node.files.entry (partPath "/r") = some file ∧
        place.node.files.content file = [7] := by
  apply gets_instant (.exists_ (statePath "/r")) (instant_absent unsaved)
  apply gets_instant (.exists_ (partPath "/r")) (by exact instant_present part)
  apply gets_instant (.remove (partPath "/r")) rfl
  apply gets_instant (.remove (statePath "/r")) rfl
  apply gets_instant (.length (partPath "/r")) rfl
  apply gets_instant (.remove (partPath "/r")) rfl
  apply gets_instant (.exists_ (partPath "/r")) rfl
  apply gets_instant (.create (partPath "/r")) rfl
  apply gets_answered (.write ⟨1, none⟩ (.transferV1Resume ⟨0, false, none⟩)) (.ok ())
    trivial trivial
  exact byte_received rfl (Function.update_self _ _ _)

theorem waiting_undisturbed {before after : Services Bool}
    (waits : before.task true = byteSession.task resumePlatform) :
    Undisturbed "/r" (some false) before after := by
  intro thread other op next running checking
  cases thread with
  | false => exact absurd rfl other
  | true =>
    rw [waits] at running
    cases running
    exact checking.elim

theorem sample_success_verified : ∃ (final : Services Bool)
    (next : Except IoError Unit → RuntimeTask IoError Unit),
    Run (machine anyAnswer) (Undisturbed "/r") twoServices final ∧
      final.task false =
        .call (.write ⟨0, none⟩ (.transferResult ⟨true, 0, sha256 [], none⟩)) next ∧
      ∃ content, (final.shared.notes false).moved = some ("/r", content) ∧
        sha256 content = sha256 [] := by
  have walk : Gets anyAnswer false ⟨emptyNode, .idle, emptySession.task resumePlatform⟩
      fun place => ∃ next, place.task =
        .call (.write ⟨0, none⟩ (.transferResult ⟨true, 0, sha256 [], none⟩)) next := by
    apply gets_then empty_part_checked
    rintro ⟨node, work, task⟩ ⟨rfl, rfl, ⟨file, part⟩, _⟩
    apply gets_then (empty_commit_reports part)
    intro place reported
    exact gets_here reported.1
  obtain ⟨place, run, next, reports⟩ := gets_run false twoServices (Undisturbed "/r") walk
    fun _ _ others => waiting_undisturbed (others true Bool.noConfusion)
  exact ⟨_, next, run, reports, reported_success_verified twoSessions run reports rfl⟩

/-- The part file is replaced between the check and the rename. -/
theorem success_reported_unverified : ∃ (final : Services Bool)
    (next : Except IoError Unit → RuntimeTask IoError Unit),
    Run (machine anyAnswer) (fun _ _ _ => True) twoServices final ∧
      final.task false =
        .call (.write ⟨0, none⟩ (.transferResult ⟨true, 0, sha256 [], none⟩)) next ∧
      (final.shared.notes false).moved = some ("/r", [7]) ∧ sha256 [7] ≠ sha256 [] := by
  have different : sha256 [7] ≠ sha256 [] := by decide +kernel
  obtain ⟨⟨checked, _, _⟩, first, rfl, rfl, ⟨old, part⟩, unsaved⟩ :=
    gets_run false twoServices (fun _ _ _ => True) empty_part_checked fun _ _ _ => trivial
  obtain ⟨overtaken, second, file, part, appended⟩ :=
    gets_run true (twoServices.advance false emptyCommit .idle checked) (fun _ _ _ => True)
      (part_overtaken part unsaved) fun _ _ _ => trivial
  obtain ⟨reporting, third, ⟨next, reports⟩, moved⟩ :=
    gets_run false ((twoServices.advance false emptyCommit .idle checked).advance true
      overtaken.task overtaken.work overtaken.node) (fun _ _ _ => True) (empty_commit_reports part)
      fun _ _ _ => trivial
  have renamed := moved.trans (congrArg (fun content => some ("/r", content)) appended)
  exact ⟨_, next, (first.trans second).trans third, reports, renamed, different⟩
end Sample
end Misaka.ConcurrentSessions
