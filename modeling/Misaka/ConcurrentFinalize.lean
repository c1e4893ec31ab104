import Misaka.ConcurrentSessions

/-!
Requests of transfer v2 for any destinations that share one content store, at the
same time. A Finalize request checks the object of its digest, copies it and
renames the copy, and no lock covers the object. What it renames has its digest
whenever no other request changed the object from the check to the end of the
copy, or the copy before the rename. Otherwise it may copy what another request
has put in the object's place.
-/

namespace Misaka.ConcurrentFinalize
open Bincode Identity Protocol EffectTask NodeRuntime HumanAuthorization TransferFiles
open StreamServices Sha256 TransferDisk TransferCrash SharedFiles RelyGuarantee TransferThreads
open ConcurrentSessions
variable {Index : Type} {platform : Platform} {root : String}
variable {answers : Index → (op : RuntimeOp) → op.Result → Prop}

/-- A request on its stream. -/
structure Asked where
  request : TransferV2Request
  stream : NetworkStream

def Asked.task (platform : Platform) (root : String) (asked : Asked) : RuntimeTask IoError Unit :=
  serveTransferV2 platform root (transferV2Paths asked.request.destination).1
    (transferV2Paths asked.request.destination).2 asked.stream asked.request

/-- What a Finalize request needs of a step of another request: that it leaves the
object alone from its check on until the copy is made, and the copy until it is
renamed. -/
def Spared (object destination : String) (last : Option FileOp)
    (before after : Files String UInt8) : RuntimeOp → Work UInt8 → Prop
  | .file (.hash target), .reading _ _ => target = object → Kept object before after
  | .file (.createDirAll _), _ | .newUuid, _ => last = some (.hash object) →
      Kept object before after
  | .file (.copy source target), work => source = object →
      CopyKept source target work before after
  | .file (.rename source target), _ => target = destination → Kept source before after
  | _, _ => True

def storedObject (platform : Platform) (root : String) (asked : Asked) : String :=
  objectPath platform root asked.request.digest

def Undisturbed (platform : Platform) (root : String) (asked : Index → Asked)
    (actor : Option Index) (before after : Services Index) : Prop :=
  ∀ thread, some thread ≠ actor → (asked thread).request.operation = .finalize →
    ∀ op next, before.task thread = .call op next →
      Spared (storedObject platform root (asked thread)) (asked thread).request.destination
        (before.shared.notes thread).last before.shared.files after.shared.files op
        (before.work thread)

theorem spared_unchanged {object destination : String} {last : Option FileOp}
    {files : Files String UInt8} {op : RuntimeOp} {work : Work UInt8} :
    Spared object destination last files files op work := by
  unfold Spared
  split
  · intro _
    exact kept_refl
  · intro _
    exact kept_refl
  · intro _
    exact kept_refl
  · intro _
    exact ⟨kept_refl, fun _ _ _ _ _ => kept_refl⟩
  · intro _
    exact kept_refl
  · trivial

def finalizeTerms (object : String) (request : TransferV2Request) (thread : Index) :
    Terms RuntimeOp (Work UInt8) (Node Index) where
  rely := fun op work before after => after.notes thread = before.notes thread ∧
    Spared object request.destination (before.notes thread).last before.files after.files op work
  guarantee := fun _ _ => True
  guard := fun op _ node => ∀ stream ack, op = .write stream (.transferV2Ack ack) →
    ack.accepted = true → Verified request.destination request.digest (node.notes thread)

-- Nothing is claimed for the other requests.
def looseTerms : Terms RuntimeOp (Work UInt8) (Node Index) where
  rely := fun _ _ _ _ => True
  guarantee := fun _ _ => True
  guard := fun _ _ _ => True

def requestTerms (platform : Platform) (root : String) (asked : Index → Asked) (thread : Index) :
    Terms RuntimeOp (Work UInt8) (Node Index) :=
  match (asked thread).request.operation with
  | .finalize => finalizeTerms (storedObject platform root (asked thread)) (asked thread).request
      thread
  | .prepare | .chunk => looseTerms

/-! Operations that answer nobody. -/
section Silence
variable {path part statePath : String}

def Silent : RuntimeOp → Prop
  | .file _ | .newUuid => True
  | _ => False

theorem silent_call {Value : Type} {op : FileOp} {fallible : op.Result = Except IoError Value} :
    Only Silent (fileCall op fallible) :=
  only_file_call trivial

theorem silent_perform {op : FileOp} :
    Only Silent (perform (RuntimeOp.file op) : RuntimeTask IoError _) :=
  (only_perform _).mpr trivial

theorem silent_discard : Only Silent (discardFile path) := by
  apply only_bind silent_perform
  simp

theorem silent_parent : Only Silent (createParent platform path) := by
  unfold createParent
  split
  · exact silent_call
  · simp

theorem silent_load : Only Silent (loadTransferV2State platform path) := by
  apply only_bind silent_call
  intro present
  split
  · apply only_bind silent_call
    intro bytes
    apply only_bind <;> simp
  · simp

variable {request : TransferV2Request}

theorem silent_rebuild :
    Only Silent (rebuildTransferV2State platform request part statePath) := by
  apply only_bind silent_discard
  intro _
  apply only_bind silent_discard
  intro _
  apply only_bind silent_parent
  intro _
  apply only_bind (only_bind silent_call (by simp))
  intro file
  apply only_bind silent_call
  intro _
  apply only_bind (only_bind silent_call fun _ => silent_call)
  simp

theorem silent_ensure :
    Only Silent (ensureTransferV2State platform request part statePath) := by
  apply only_bind silent_load
  intro loaded
  split
  · apply only_bind silent_call
    intro present
    split
    · simp
    · exact silent_rebuild
  · exact silent_rebuild

variable {digest : Bytes 32}

theorem silent_contains : Only Silent (storeContains platform root digest) := by
  apply only_bind silent_call
  intro present
  split
  · apply only_bind silent_call
    simp
  · simp

variable {object : String}

theorem silent_keep :
    Only Silent (keepStored part object digest) := by
  apply only_bind silent_call
  intro present
  split
  · apply only_bind silent_call
    intro existing
    split
    all_goals
      apply only_bind silent_call
      simp
  · simp

theorem silent_copy :
    Only Silent (storeCopy platform root part object digest) := by
  apply only_perform_bind trivial
  intro uuid
  apply only_bind silent_call
  intro _
  apply only_bind silent_perform
  intro renamed
  split
  · exact silent_call
  · split
    · apply only_bind silent_call
      intro existing
      apply only_bind silent_discard
      intro _
      split
      · exact silent_call
      · apply only_bind silent_call
        simp
    · apply only_bind silent_discard
      simp

theorem silent_commit :
    Only Silent (commitVerifiedFile platform root part digest) := by
  apply only_bind silent_call
  intro found
  apply only_bind
  · simp
  intro _
  apply only_bind silent_call
  intro _
  apply only_bind silent_keep
  intro kept
  split
  · simp
  · exact silent_copy
end Silence

/-! `Path::join` of a plain name ends with that name. An object has hexadecimal
digits at its end, and the copy of an object a dash before the last twelve. -/

def JoinsNames (platform : Platform) : Prop :=
  ∀ root name, ∃ start, platform.joinPath root name = start ++ name

theorem hex_no_dash {bytes : List UInt8} : '-' ∉ hex bytes := by
  have digit : ∀ value < 16, '-' ≠ hexDigit value := by decide
  simp only [hex, List.mem_flatMap, List.mem_cons, List.not_mem_nil, or_false, not_exists, not_and,
    not_or]
  intro byte _
  have small := byte.toNat_lt
  exact ⟨digit _ (by omega), digit _ (by omega)⟩

theorem object_apart {root destination : String} {digest : Bytes 32} {uuid : Bytes 16}
    (joins : JoinsNames platform) :
    objectPath platform root digest ≠
      destination ++ ".misaka-materialize-" ++ uuidText uuid := by
  intro same
  obtain ⟨start, joined⟩ := joins root (String.ofList (hex digest.toList))
  rw [objectPath, joined] at same
  have chars := congrArg String.toList same
  simp only [uuidText, String.toList_append, String.toList_ofList] at chars
  have digits : hex digest.toList <:+ start.toList ++ hex digest.toList := List.suffix_append _ _
  have node : '-' :: hex ((uuid.toList.drop 10).take 6) <:+
      start.toList ++ hex digest.toList := by
    rw [chars]
    exact (List.suffix_append _ _).trans (List.suffix_append _ _)
  have short : ('-' :: hex ((uuid.toList.drop 10).take 6)).length ≤ (hex digest.toList).length := by
    rw [List.length_cons, hex_length, hex_length, List.length_take, List.length_drop,
      uuid.size_eq, digest.size_eq]
    decide
  have inside := List.suffix_of_suffix_length_le node digits short
  exact hex_no_dash (inside.subset List.mem_cons_self)

/-! One Finalize request among others. -/
section Finalizing
variable [DecidableEq Index]
variable {request : TransferV2Request} {thread : Index} {pre : Node Index → Prop}

abbrev SecureFinalize {Value : Type} (platform : Platform) (root : String)
    (answers : Index → (op : RuntimeOp) → op.Result → Prop) (request : TransferV2Request)
    (thread : Index) (task : RuntimeTask IoError Value) (pre : Node Index → Prop)
    (post : Node Index → Value → Prop) : Prop :=
  Secure (machine answers) thread
    (finalizeTerms (objectPath platform root request.digest) request thread) task pre post
    fun _ _ => True

abbrev Published (request : TransferV2Request) (thread : Index) (node : Node Index) : Prop :=
  Verified request.destination request.digest (node.notes thread)

variable {Value : Type} {task : RuntimeTask IoError Value}

theorem silent_secure (silent : Only Silent task) :
    SecureFinalize platform root answers request thread task pre fun _ _ => True := by
  apply secure_free silent fun _ _ => trivial
  rintro _ impossible _ _ stream ack rfl
  exact impossible.elim

variable {object : String} {op : RuntimeOp} {work : Work UInt8}

omit [DecidableEq Index] in
theorem unanswered {node : Node Index} (silent : Silent op) :
    (finalizeTerms object request thread).guard op work node := by
  rintro stream ack rfl
  exact silent.elim

/-- The object was checked and nothing has been done since. -/
def Settled (object : String) (digest : Bytes 32) (thread : Index) (node : Node Index) : Prop :=
  Contains object digest node ∧ (node.notes thread).last = some (.hash object)

-- Between the check and the copy there is a directory to make and a name to draw.
def Preparing : RuntimeOp → Prop
  | .file (.createDirAll _) | .newUuid => True
  | _ => False

theorem preparing_piece {before after : Node Index} {outcome : Work UInt8 ⊕ op.Result}
    (preparing : Preparing op) (done : Piece thread answers before work op outcome after) :
    after = before := by
  cases done with
  | other off answered => rfl
  | @file _ op outcome after done =>
    cases op with
    | createDirAll path =>
      cases done with
      | instant answered =>
        cases answered
        simp [Node.noted, Notes.add]
    | _ => exact preparing.elim

theorem settled_only (vocabulary : Only Preparing task) :
    Secure (machine answers) thread (finalizeTerms object request thread) task
      (Settled object request.digest thread)
      (fun node _ => Settled object request.digest thread node) fun _ _ => True := by
  apply secure_mono (secure_only vocabulary ?_ ?_)
  · intro _ settled
    exact settled
  · intro _ _ settled
    exact settled
  · intro _ _ _
    trivial
  · intro op preparing
    constructor
    · rintro work before after ⟨contains, last⟩ ⟨notes, spared⟩
      refine ⟨contains_kept contains ?_, notes ▸ last⟩
      cases op with
      | newUuid => exact spared last
      | file op =>
        cases op with
        | createDirAll path => exact spared last
        | _ => exact preparing.elim
      | _ => exact preparing.elim
    · intro work before left after settled done
      rw [preparing_piece preparing done]
      exact ⟨settled, trivial⟩
    · intro _ _ _ _ _ _
      trivial
    · intro work node _
      apply unanswered
      cases op with
      | newUuid | file op => trivial
      | _ => exact preparing.elim
  · intro op work before result after preparing settled done
    rw [preparing_piece preparing done]
    exact settled

theorem materialize_secure (joins : JoinsNames platform) :
    SecureFinalize platform root answers request thread
      (materialize platform root request.digest request.destination) pre
      fun node _ => Published request thread node := by
  have checking : SecureFinalize platform root answers request thread
      (hashFilePath (objectPath platform root request.digest)) pre
      fun node digest => Settled (objectPath platform root request.digest) digest thread node :=
    secure_hash (fun _ _ => trivial) (fun _ _ => unanswered trivial) fun relied => relied.2 rfl
  apply secure_bind checking
  intro found
  have matching : SecureFinalize platform root answers request thread
      (ensure (found == request.digest) (invalidData "content store object digest mismatch"))
      (Settled (objectPath platform root request.digest) found thread)
      fun node _ => Settled (objectPath platform root request.digest) request.digest thread
        node := by
    apply secure_ensure
    · intro equal node settled
      exact (beq_iff_eq.mp equal) ▸ settled
    · intro _ _ _
      trivial
  apply secure_bind matching
  intro _
  apply secure_bind (settled_only ?_)
  · intro _
    apply secure_bind (settled_only ((only_perform RuntimeOp.newUuid).mpr trivial))
    intro uuid
    have copying : SecureFinalize platform root answers request thread
        (copyFile (objectPath platform root request.digest)
          (request.destination ++ ".misaka-materialize-" ++ uuidText uuid))
        (Settled (objectPath platform root request.digest) request.digest thread)
        fun node _ => Contains (request.destination ++ ".misaka-materialize-" ++ uuidText uuid)
          request.digest node := by
      apply secure_pre (secure_copy (object_apart joins) (fun _ _ => trivial)
        (fun _ _ => unanswered trivial) fun relied => relied.2 rfl)
      intro node settled
      exact settled.1
    apply secure_bind copying
    intro count
    have moving : SecureFinalize platform root answers request thread
        (perform (RuntimeOp.file (.rename
          (request.destination ++ ".misaka-materialize-" ++ uuidText uuid) request.destination)))
        (Contains (request.destination ++ ".misaka-materialize-" ++ uuidText uuid) request.digest)
        fun node result => result = .ok () ∧ Published request thread node :=
      secure_rename (fun _ _ => trivial) (fun _ _ => unanswered trivial) fun relied => relied.2 rfl
    have renamed : SecureFinalize platform root answers request thread
        (renameOver (request.destination ++ ".misaka-materialize-" ++ uuidText uuid)
          request.destination
          (discardFile (request.destination ++ ".misaka-materialize-" ++ uuidText uuid)))
        (Contains (request.destination ++ ".misaka-materialize-" ++ uuidText uuid) request.digest)
        fun node _ => Published request thread node := by
      apply secure_bind moving
      intro answer
      cases answer with
      | ok done =>
        intro node moved
        exact moved.2
      | error error =>
        apply secure_unreached
        rintro node ⟨impossible, _⟩
        cases impossible
    apply secure_bind renamed
    intro _ node published
    exact published
  · unfold createParent
    split
    · exact only_file_call trivial
    · simp

theorem published_only (vocabulary : Only (fun op => ¬ Renames op) task) :
    SecureFinalize platform root answers request thread task (Published request thread)
      fun node _ => Published request thread node := by
  apply secure_mono (secure_only vocabulary ?_ ?_)
  · intro _ published
    exact published
  · intro _ _ published
    exact published
  · intro _ _ _
    trivial
  · intro op other
    constructor
    · intro work before after published relied
      unfold Published
      rw [relied.1]
      exact published
    · rintro work before left after ⟨content, moved, checked⟩ done
      exact ⟨⟨content, (piece_moved done other).trans moved, checked⟩, trivial⟩
    · intro _ _ _ _ _ _
      trivial
    · intro _ _ published _ _ _ _
      exact published
  · rintro op work before result after other ⟨content, moved, checked⟩ done
    exact ⟨content, (piece_moved done other).trans moved, checked⟩

variable {stream : NetworkStream} {statePath : String}

theorem accept_secure (joins : JoinsNames platform) :
    SecureFinalize platform root answers request thread
      (do
        let _ ← materialize platform root request.digest request.destination
        discardFile statePath
        acceptFinalize stream) pre fun _ _ => True := by
  apply secure_bind (materialize_secure joins)
  intro _
  apply secure_mono (published_only ?_)
  · intro _ published
    exact published
  · intro _ _ _
    trivial
  · intro _ _ _
    trivial
  · apply only_bind
    · apply only_bind
      · exact (only_perform _).mpr id
      · simp
    · intro _
      apply only_bind
      · exact (only_perform _).mpr id
      · simp

theorem refuse_secure {reason : String} :
    SecureFinalize platform root answers request thread (refuseFinalize stream reason) pre
      fun _ _ => True := by
  have refusing : Only
      (fun op => op = .write stream (.transferV2Ack ⟨0, false, false, some reason⟩))
      (refuseFinalize stream reason) := by
    apply only_bind
    · exact (only_perform _).mpr rfl
    · simp
  apply secure_free refusing fun _ _ => trivial
  rintro op rfl _ _ _ ack same accepted
  cases same
  cases accepted

variable {part : String}

theorem verify_secure (joins : JoinsNames platform) :
    SecureFinalize platform root answers request thread
      (verifyTransferV2 platform root part statePath stream request) pre fun _ _ => True := by
  apply secure_bind (silent_secure silent_ensure)
  intro state
  split
  · apply secure_bind (silent_secure silent_call)
    intro digest
    split
    · apply secure_bind (silent_secure silent_commit)
      intro _
      exact accept_secure joins
    · apply secure_bind (silent_secure silent_discard)
      intro _
      apply secure_bind (silent_secure silent_discard)
      intro _
      exact refuse_secure
  · exact refuse_secure

theorem finalize_secure (joins : JoinsNames platform) :
    SecureFinalize platform root answers request thread
      (finalizeTransferV2 platform root part statePath stream request) pre fun _ _ => True := by
  apply secure_bind (silent_secure silent_contains)
  intro stored
  split
  · exact accept_secure joins
  · apply secure_bind (silent_secure silent_perform)
    intro _
    have attempted : SecureFinalize platform root answers request thread
        (attempt (verifyTransferV2 platform root part statePath stream request))
        (fun _ => True) fun _ _ => True := secure_attempt (verify_secure joins)
    apply secure_bind attempted
    intro result
    apply secure_bind (silent_secure silent_perform)
    intro _
    exact silent_secure (by simp)
end Finalizing

section Requests
variable [DecidableEq Index]

theorem requests_compatible (asked : Index → Asked) :
    Compatible (machine answers) (requestTerms platform root asked)
      (Undisturbed platform root asked) := by
  constructor
  · intro actor before after _ taken undisturbed _ other different op next running
    obtain ⟨_, _, _, _, done⟩ := step_progress taken
    have spared := undisturbed other fun same => different (Option.some.inj same)
    unfold requestTerms
    split
    · next finalizing =>
        exact ⟨piece_notes_others done different, spared finalizing op next running⟩
    all_goals trivial
  · intro before after _ taken undisturbed other op next running
    obtain ⟨gone, halted, alive⟩ := step_halted taken
    unfold requestTerms
    split
    · refine ⟨halted.kept other (alive other op next running), ?_⟩
      rw [halted.files]
      exact spared_unchanged
    all_goals trivial

theorem request_secure (asked : Index → Asked) (joins : JoinsNames platform) (thread : Index) :
    Secure (machine answers) thread (requestTerms platform root asked thread)
      ((asked thread).task platform root) (fun _ => True) (fun _ _ => True) fun _ _ => True := by
  have loose : Secure (machine answers) thread looseTerms ((asked thread).task platform root)
      (fun _ => True) (fun _ _ => True) fun _ _ => True :=
    secure_free only_serve_transfer_v2 (fun _ _ => trivial) fun _ _ _ _ => trivial
  unfold requestTerms
  split
  · next finalizing =>
      unfold Asked.task serveTransferV2
      rw [finalizing]
      exact finalize_secure joins
  all_goals exact loose

/-- What an accepted Finalize request renamed onto its destination has the digest
it asked for. -/
theorem accepted_finalize_verified (asked : Index → Asked) (joins : JoinsNames platform)
    {node : Node Index} {final : Services Index}
    (run : Run (machine answers) (Undisturbed platform root asked)
      (Crew.start (machine answers) node fun thread => (asked thread).task platform root) final)
    {thread : Index} (finalizing : (asked thread).request.operation = .finalize)
    {stream : NetworkStream} {ack : TransferV2Ack}
    {next : Except IoError Unit → RuntimeTask IoError Unit}
    (reports : final.task thread = .call (.write stream (.transferV2Ack ack)) next)
    (accepted : ack.accepted = true) :
    ∃ content, (final.shared.notes thread).moved =
        some ((asked thread).request.destination, content) ∧
      sha256 content = (asked thread).request.digest := by
  have start : AllSecured (machine answers) (requestTerms platform root asked)
      (Crew.start (machine answers) node fun thread => (asked thread).task platform root) := by
    intro thread
    exact secured_start (request_secure asked joins thread) trivial
  have secured := run_secured (requests_compatible asked) start run thread
  rw [reports, requestTerms, finalizing] at secured
  exact secured_guard secured stream ack rfl accepted
end Requests

/-! Two Finalize requests. -/
section Sample
-- The digests are compared as they are, never computed.
attribute [local irreducible] sha256

theorem sample_joins_names : JoinsNames samplePlatform := by
  intro root name
  exact ⟨root ++ "/", rfl⟩

/-- What a Finalize request does once it has checked the object. -/
def copyOut (asked : Asked) (root : String) : RuntimeTask IoError Unit := do
  let _ ← (do
    let uuid ← perform RuntimeOp.newUuid
    let temp := asked.request.destination ++ ".misaka-materialize-" ++ uuidText uuid
    let bytes ← copyFile (storedObject samplePlatform root asked) temp
    renameOver temp asked.request.destination (discardFile temp)
    pure bytes : RuntimeTask IoError UInt64)
  discardFile (transferV2Paths asked.request.destination).2
  acceptFinalize asked.stream

variable {thread : Bool} {asked : Asked} {node : Node Bool}

theorem finalize_checks {file : Nat} (finalizing : asked.request.operation = .finalize)
    (found : node.files.entry (storedObject samplePlatform root asked) = some file)
    (matching : sha256 (node.files.content file) = asked.request.digest) :
    Gets anyAnswer thread ⟨node, .idle, asked.task samplePlatform root⟩ fun place =>
      place.task = copyOut asked root ∧ place.work = .idle ∧ place.node.files = node.files := by
  have equal : (sha256 (node.files.content file) == asked.request.digest) = true :=
    beq_iff_eq.mpr matching
  unfold Asked.task serveTransferV2
  rw [finalizing]
  apply gets_instant (.exists_ (storedObject samplePlatform root asked)) (instant_present found)
  apply gets_hash (by exact found) rfl
  change Gets _ _ ⟨_, _, if (sha256 (node.files.content file) == asked.request.digest) = true then _
    else _⟩ _
  rw [if_pos equal]
  apply gets_hash (by exact found) rfl
  apply gets_here
  refine ⟨?_, rfl, rfl⟩
  change (ensure (sha256 (node.files.content file) == asked.request.digest)
    (invalidData "content store object digest mismatch") >>= _) >>= _ = _
  rw [equal]
  rfl

/-- It copies and renames whatever the object is by then. -/
theorem finalize_copies {file : Nat}
    (found : node.files.entry (storedObject samplePlatform root asked) = some file) :
    Gets anyAnswer thread ⟨node, .idle, copyOut asked root⟩ fun place =>
      (∃ next, place.task =
        .call (.write asked.stream (.transferV2Ack ⟨0, true, true, none⟩)) next) ∧
      (place.node.notes thread).moved =
        some (asked.request.destination, node.files.content file) ∧
      ∃ copied, place.node.files.entry asked.request.destination = some copied ∧
        place.node.files.content copied = node.files.content file := by
  apply gets_answered .newUuid (Bytes.fill 16 0) trivial trivial
  apply gets_copy (object_apart sample_joins_names) found rfl
  intro files into leads copied kept
  apply gets_instant (.rename (asked.request.destination ++ ".misaka-materialize-" ++
    uuidText (Bytes.fill 16 0)) asked.request.destination) (instant_rename leads)
  apply gets_instant (.remove (transferV2Paths asked.request.destination).2) rfl
  refine gets_here ⟨⟨_, rfl⟩, ?_, ?_⟩
  · simp [Node.noted, Notes.add, leads, copied]
  · have apart : asked.request.destination ≠ (transferV2Paths asked.request.destination).2 := by
      intro same
      have length := congrArg String.length same
      simp [transferV2Paths] at length
    obtain ⟨entry, content⟩ : (files.rename _ asked.request.destination).entry
        asked.request.destination = some into ∧
        (files.rename _ asked.request.destination).content = files.content := rename_found leads
    refine ⟨into, (remove_kept apart).entry.trans entry, ?_⟩
    exact (congrFun content into).trans copied

def byteDigest : Bytes 32 :=
  ⟨[202, 53, 135, 88, 246, 210, 126, 108, 244, 82, 114, 147, 121, 119, 167, 72, 253, 136, 57, 29,
    182, 121, 206, 218, 125, 199, 191, 31, 0, 94, 232, 121], rfl⟩

def emptyDigest : Bytes 32 :=
  ⟨[227, 176, 196, 66, 152, 252, 28, 20, 154, 251, 244, 200, 153, 111, 185, 36, 39, 174, 65, 228,
    100, 155, 147, 76, 164, 149, 153, 27, 120, 82, 184, 85], rfl⟩

theorem byte_digest : sha256 [7] = byteDigest := by decide +kernel

theorem empty_digest : sha256 [] = emptyDigest := by decide +kernel

def finalizing (destination : String) (size : UInt64) (digest : Bytes 32) : TransferV2Request where
  operation := .finalize
  destination := destination
  size := size
  digest := digest
  chunkSize := TRANSFER_V1_CHUNK_SIZE
  chunkCount := size
  index := 0
  offset := 0
  len := 0
  chunkDigest := Bytes.fill 32 0
  authorization := none

/-- The second request names the object of the first one as its destination. -/
def twoAsked : Bool → Asked
  | false => ⟨finalizing "/a" 1 byteDigest, ⟨0, none⟩⟩
  | true => ⟨finalizing (objectPath samplePlatform "/o" byteDigest) 0 emptyDigest, ⟨1, none⟩⟩

/-- Both objects are in the store. -/
def storeNode : Node Bool :=
  { emptyNode with
    files := (((emptyNode.files.make (objectPath samplePlatform "/o" byteDigest)).put 0 [7]).make
      (objectPath samplePlatform "/o" emptyDigest)) }

def twoRequests : Services Bool :=
  Crew.start (machine anyAnswer) storeNode fun thread => (twoAsked thread).task samplePlatform "/o"

theorem byte_stored :
    storeNode.files.entry (storedObject samplePlatform "/o" (twoAsked false)) = some 0 := by
  decide +kernel

theorem empty_stored :
    storeNode.files.entry (storedObject samplePlatform "/o" (twoAsked true)) = some 1 := by
  decide +kernel

theorem waiting_spared {before after : Services Bool}
    (waits : before.task true = (twoAsked true).task samplePlatform "/o") :
    Undisturbed samplePlatform "/o" twoAsked (some false) before after := by
  intro thread other _ op next running
  cases thread with
  | false => exact absurd rfl other
  | true =>
    rw [waits] at running
    cases running
    trivial

theorem sample_finalize_verified : ∃ (final : Services Bool)
    (next : Except IoError Unit → RuntimeTask IoError Unit),
    Run (machine anyAnswer) (Undisturbed samplePlatform "/o" twoAsked) twoRequests final ∧
      final.task false =
        .call (.write ⟨0, none⟩ (.transferV2Ack ⟨0, true, true, none⟩)) next ∧
      ∃ content, (final.shared.notes false).moved = some ("/a", content) ∧
        sha256 content = byteDigest := by
  have walk : Gets anyAnswer false
      ⟨storeNode, .idle, (twoAsked false).task samplePlatform "/o"⟩ fun place => ∃ next,
        place.task = .call (.write ⟨0, none⟩ (.transferV2Ack ⟨0, true, true, none⟩)) next := by
    apply gets_then (finalize_checks rfl byte_stored byte_digest)
    rintro ⟨node, work, task⟩ ⟨rfl, rfl, same⟩
    apply gets_then (finalize_copies (same ▸ byte_stored))
    intro place reported
    exact gets_here reported.1
  obtain ⟨place, run, next, reports⟩ :=
    gets_run false twoRequests (Undisturbed samplePlatform "/o" twoAsked) walk
      fun _ _ others => waiting_spared (others true Bool.noConfusion)
  exact ⟨_, next, run, reports,
    accepted_finalize_verified twoAsked sample_joins_names run rfl reports rfl⟩

/-- The object is replaced between the check and the copy. -/
theorem finalize_accepted_unverified : ∃ (final : Services Bool)
    (next : Except IoError Unit → RuntimeTask IoError Unit),
    Run (machine anyAnswer) (fun _ _ _ => True) twoRequests final ∧
      final.task false =
        .call (.write ⟨0, none⟩ (.transferV2Ack ⟨0, true, true, none⟩)) next ∧
      (final.shared.notes false).moved = some ("/a", []) ∧
      (twoAsked false).request.digest ≠ sha256 [] := by
  have different : byteDigest ≠ sha256 [] := by
    rw [empty_digest]
    decide
  obtain ⟨⟨checked, _, _⟩, first, rfl, rfl, same⟩ :=
    gets_run false twoRequests (fun _ _ _ => True) (finalize_checks rfl byte_stored byte_digest)
      fun _ _ _ => trivial
  have stored : checked.files.entry (storedObject samplePlatform "/o" (twoAsked true)) = some 1 :=
    same ▸ empty_stored
  have empty : checked.files.content 1 = [] := by
    rw [same]
    decide +kernel
  have replaced : Gets anyAnswer true ⟨checked, .idle, (twoAsked true).task samplePlatform "/o"⟩
      fun place => ∃ file, place.node.files.entry
        (storedObject samplePlatform "/o" (twoAsked false)) = some file ∧
        place.node.files.content file = [] := by
    apply gets_then (finalize_checks rfl stored ((congrArg sha256 empty).trans empty_digest))
    rintro ⟨node, work, task⟩ ⟨rfl, rfl, again⟩
    apply gets_then (finalize_copies (again ▸ stored))
    rintro place ⟨_, _, copied, leads, content⟩
    refine gets_here ⟨copied, leads, content.trans ?_⟩
    exact again ▸ empty
  obtain ⟨overtaken, second, file, leads, content⟩ :=
    gets_run true (twoRequests.advance false (copyOut (twoAsked false) "/o") .idle checked)
      (fun _ _ _ => True) replaced fun _ _ _ => trivial
  obtain ⟨reporting, third, ⟨next, reports⟩, moved, _⟩ :=
    gets_run false
      ((twoRequests.advance false (copyOut (twoAsked false) "/o") .idle checked).advance true
        overtaken.task overtaken.work overtaken.node) (fun _ _ _ => True)
      (finalize_copies leads) fun _ _ _ => trivial
  have renamed := moved.trans (congrArg (fun content => some ("/a", content)) content)
  exact ⟨_, next, (first.trans second).trans third, reports, renamed, different⟩
end Sample
end Misaka.ConcurrentFinalize
