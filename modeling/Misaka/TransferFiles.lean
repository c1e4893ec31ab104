import Misaka.NodeRuntime

/-!
The file side of the transfer services: part files with their resume state, the
completion bitmap of transfer v2, and the content-addressed store. Every call
may fail with an I/O error of its own; what a path holds is not modelled here,
only which paths a transfer to one destination can name.
-/

namespace Misaka.TransferFiles
open Bincode Identity Protocol EffectTask NodeRuntime

def invalidData (message : String) : IoError := ⟨.invalidData, message⟩

def invalidInput (message : String) : IoError := ⟨.invalidInput, message⟩

/-! `tokio::fs`, with the error propagated. -/

def fileCall {Value : Type} (op : FileOp) (fallible : op.Result = Except IoError Value) :
    RuntimeTask IoError Value := do
  let answer ← perform (RuntimeOp.file op)
  orError id (cast fallible answer)

def createDirAll (path : String) : RuntimeTask IoError Unit := fileCall (.createDirAll path) rfl

def openAt (op : FileOp) (path : String) (fallible : op.Result = Except IoError FileHandle) :
    RuntimeTask IoError OpenFile := do
  let handle ← fileCall op fallible
  pure ⟨path, handle⟩

variable (path : String)

def createFile : RuntimeTask IoError OpenFile := openAt (.create path) path rfl

def openAppend : RuntimeTask IoError OpenFile := openAt (.openAppend path) path rfl

def openWrite : RuntimeTask IoError OpenFile := openAt (.openWrite path) path rfl

variable (file : OpenFile)

def seekTo (offset : UInt64) : RuntimeTask IoError Unit :=
  fileCall (.seek file offset) rfl

def setLen (size : UInt64) : RuntimeTask IoError Unit :=
  fileCall (.setLen file size) rfl

def writeAll (bytes : List UInt8) : RuntimeTask IoError Unit :=
  fileCall (.writeAll file bytes) rfl

def flushFile : RuntimeTask IoError Unit := fileCall (.flush file) rfl

def readFile (path : String) : RuntimeTask IoError (List UInt8) := fileCall (.read path) rfl

def writeFile (path : String) (bytes : List UInt8) : RuntimeTask IoError Unit :=
  fileCall (.write path bytes) rfl

def copyFile (source target : String) : RuntimeTask IoError UInt64 :=
  fileCall (.copy source target) rfl

def renameFile (source target : String) : RuntimeTask IoError Unit :=
  fileCall (.rename source target) rfl

variable (path : String)

def removeFile : RuntimeTask IoError Unit := fileCall (.remove path) rfl

-- `let _ = remove_file(path)`.
def discardFile : RuntimeTask IoError Unit := do
  let _ ← perform (RuntimeOp.file (.remove path))
  pure ()

def tryExists : RuntimeTask IoError Bool := fileCall (.exists_ path) rfl

-- SHA-256 of the whole file.
def hashFilePath : RuntimeTask IoError (Bytes 32) := fileCall (.hash path) rfl

def createParent (platform : Platform) (path : String) : RuntimeTask IoError Unit :=
  match platform.parentDir path with
  | some parent => createDirAll parent
  | none => pure ()

-- A `tokio::sync::MutexGuard`: released on every way out of the scope.
def withLock {Value : Type} (path : String) (body : RuntimeTask IoError Value) :
    RuntimeTask IoError Value := do
  perform (RuntimeOp.file (.lock path))
  let result : Except IoError Value ← attempt body
  perform (RuntimeOp.file (.unlock path))
  ofExcept result

/-- A rename that makes room when the target exists; `giveUp` runs on any other
error. -/
def renameOver (source target : String) (giveUp : RuntimeTask IoError Unit) :
    RuntimeTask IoError Unit := do
  let renamed : Except IoError Unit ← perform (RuntimeOp.file (.rename source target))
  match renamed with
  | .ok _ => pure ()
  | .error error =>
    if error.kind = .alreadyExists then do
      removeFile target
      renameFile source target
    else do
      giveUp
      .fail error

def finalizeTransferPart (part destination : String) : RuntimeTask IoError Unit :=
  renameOver part destination (pure ())

section ResumeState
variable (platform : Platform)

def loadState {State : Type} (decode : Decoder State) (path : String) :
    RuntimeTask IoError (Option State) := do
  let present ← tryExists path
  if present then do
    let bytes ← readFile path
    let state ← orError invalidData (decode bytes)
    pure (some state)
  else pure none

variable (path : String)

def loadTransferV1State : RuntimeTask IoError (Option TransferV1State) :=
  loadState platform.transferV1State path

def saveTransferV1State (state : TransferV1State) : RuntimeTask IoError Unit :=
  writeFile path (platform.transferV1Json state)

def loadTransferV2State : RuntimeTask IoError (Option TransferV2State) :=
  loadState platform.transferV2State path

def saveTransferV2State (state : TransferV2State) : RuntimeTask IoError Unit := do
  writeFile (path ++ ".tmp") (platform.transferV2Json state)
  renameFile (path ++ ".tmp") path

def transferV2BitmapLen (chunkCount : UInt64) : Nat := (chunkCount.toNat + 7) / 8

variable (state : TransferV2State)

def transferV2IsCompleted (index : Nat) : Bool :=
  (state.completed.getD (index / 8) 0) &&& (1 <<< UInt8.ofNat (index % 8)) != 0

def transferV2MarkCompleted (index : Nat) : TransferV2State :=
  { state with
    completed := state.completed.modify (index / 8) (· ||| (1 <<< UInt8.ofNat (index % 8))) }

def transferV2Complete : Bool :=
  (List.range state.chunkCount.toNat).all (transferV2IsCompleted state)

def completedTransferV2Indices : List UInt64 :=
  ((List.range state.chunkCount.toNat).filter (transferV2IsCompleted state)).map UInt64.ofNat

def transferV2Paths (destination : String) : String × String :=
  (destination ++ ".misaka-part-v2", destination ++ ".misaka-part-v2.json")

variable (request : TransferV2Request)

def describesTransfer (state : TransferV2State) : Bool :=
  state.size == request.size && state.digest == request.digest &&
    state.chunkSize == request.chunkSize && state.chunkCount == request.chunkCount &&
    state.completed.length == transferV2BitmapLen state.chunkCount

def freshTransferV2State : TransferV2State where
  size := request.size
  digest := request.digest
  chunkSize := request.chunkSize
  chunkCount := request.chunkCount
  completed := List.replicate (transferV2BitmapLen request.chunkCount) 0

def rebuildTransferV2State (part statePath : String) :
    RuntimeTask IoError TransferV2State := do
  discardFile part
  discardFile statePath
  createParent platform part
  let file ← createFile part
  setLen file request.size
  saveTransferV2State platform statePath (freshTransferV2State request)
  pure (freshTransferV2State request)

def ensureTransferV2State (part statePath : String) :
    RuntimeTask IoError TransferV2State := do
  let loaded ← loadTransferV2State platform statePath
  match loaded.filter (describesTransfer request) with
  | some state => do
      let present ← tryExists part
      if present then pure state else rebuildTransferV2State platform request part statePath
  | none => rebuildTransferV2State platform request part statePath
end ResumeState

/-! `ContentStore`. -/
section Store
variable (platform : Platform) (root : String)

def objectPath (digest : Bytes 32) : String :=
  platform.joinPath root (String.ofList (hex digest.toList))

def storeContains (digest : Bytes 32) : RuntimeTask IoError Bool := do
  let object := objectPath platform root digest
  let present ← tryExists object
  if present then do
    let found ← hashFilePath object
    pure (found == digest)
  else pure false

-- An object that is already there is kept if it is intact and removed otherwise.
def keepStored (part object : String) (digest : Bytes 32) : RuntimeTask IoError Bool := do
  let present ← tryExists object
  if present then do
    let existing ← hashFilePath object
    if existing == digest then do
      removeFile part
      pure true
    else do
      removeFile object
      pure false
  else pure false

def lostRace (part object temp : String) (digest : Bytes 32) (error : IoError) :
    RuntimeTask IoError Unit := do
  let existing ← hashFilePath object
  discardFile temp
  if existing == digest then removeFile part
  else do
    removeFile object
    .fail error

def storeCopy (part object : String) (digest : Bytes 32) : RuntimeTask IoError Unit := do
  let uuid ← perform RuntimeOp.newUuid
  let temp := platform.joinPath root
    ("." ++ String.ofList (hex digest.toList) ++ ".tmp-" ++ uuidText uuid)
  let _ ← copyFile part temp
  let renamed : Except IoError Unit ← perform (RuntimeOp.file (.rename temp object))
  match renamed with
  | .ok _ => removeFile part
  | .error error =>
    if error.kind = .alreadyExists then lostRace part object temp digest error
    else do
      discardFile temp
      .fail error

def commitVerifiedFile (part : String) (digest : Bytes 32) : RuntimeTask IoError Unit := do
  let found ← hashFilePath part
  ensure (found == digest) (invalidData "content store digest mismatch")
  createDirAll root
  let kept ← keepStored part (objectPath platform root digest) digest
  if kept then pure () else storeCopy platform root part (objectPath platform root digest) digest

def materialize (digest : Bytes 32) (destination : String) : RuntimeTask IoError UInt64 := do
  let object := objectPath platform root digest
  let found ← hashFilePath object
  ensure (found == digest) (invalidData "content store object digest mismatch")
  createParent platform destination
  let uuid ← perform RuntimeOp.newUuid
  let temp := destination ++ ".misaka-materialize-" ++ uuidText uuid
  let bytes ← copyFile object temp
  renameOver temp destination (discardFile temp)
  pure bytes
end Store
/-! The files of one transfer. -/
section Paths
variable {platform : Platform} {root destination : String}

inductive TransferPath (platform : Platform) (root destination : String) : String → Prop
  | destination : TransferPath platform root destination destination
  | beside (ending : String) (known : ending ∈ [".misaka-part", ".misaka-part.json",
      ".misaka-part-v2", ".misaka-part-v2.json", ".misaka-part-v2.json.tmp"]) :
      TransferPath platform root destination (destination ++ ending)
  | materializing (uuid : Bytes 16) :
      TransferPath platform root destination
        (destination ++ ".misaka-materialize-" ++ uuidText uuid)
  | directory {path parent : String} (inside : TransferPath platform root destination path)
      (found : platform.parentDir path = some parent) :
      TransferPath platform root destination parent
  | store : TransferPath platform root destination root
  | object (digest : Bytes 32) :
      TransferPath platform root destination (objectPath platform root digest)
  | staging (digest : Bytes 32) (uuid : Bytes 16) :
      TransferPath platform root destination (platform.joinPath root
        ("." ++ String.ofList (hex digest.toList) ++ ".tmp-" ++ uuidText uuid))

/-- What a transfer to the destination performs once it has been let through. -/
def TransferOp (platform : Platform) (root destination : String) : RuntimeOp → Prop
  | .file op => ∀ path ∈ op.paths, TransferPath platform root destination path
  | .newUuid | .readExact _ _ | .readSome _ _ | .write _ _ => True
  | _ => False

variable {Value : Type} {op : FileOp} {fallible : op.Result = Except IoError Value}

theorem only_file_call {allowed : RuntimeOp → Prop} (permitted : allowed (.file op)) :
    Only allowed (fileCall op fallible) := by
  apply only_bind
  · simpa using permitted
  · intro answer
    simp

-- One path in the family is enough for the calls that name one path.
theorem only_path_call {path : String} (single : op.paths = [path])
    (inside : TransferPath platform root destination path) :
    Only (TransferOp platform root destination) (fileCall op fallible) := by
  apply only_file_call
  intro named member
  rw [single, List.mem_singleton] at member
  exact member ▸ inside

theorem only_pair_call {source target : String} (both : op.paths = [source, target])
    (reads : TransferPath platform root destination source)
    (writes : TransferPath platform root destination target) :
    Only (TransferOp platform root destination) (fileCall op fallible) := by
  apply only_file_call
  intro named member
  rw [both] at member
  rcases List.mem_pair.mp member with rfl | rfl
  · exact reads
  · exact writes

variable {path part statePath : String}

theorem only_open_bind {fallible : op.Result = Except IoError FileHandle}
    {rest : OpenFile → RuntimeTask IoError Value} (single : op.paths = [path])
    (inside : TransferPath platform root destination path)
    (used : ∀ handle, Only (TransferOp platform root destination) (rest ⟨path, handle⟩)) :
    Only (TransferOp platform root destination) (openAt op path fallible >>= rest) := by
  rw [openAt, bind_assoc]
  apply only_bind (only_path_call single inside)
  intro handle
  exact used handle

theorem only_discard_file (inside : TransferPath platform root destination path) :
    Only (TransferOp platform root destination) (discardFile path) := by
  have permitted : TransferOp platform root destination (.file (.remove path)) := by
    simpa [TransferOp, FileOp.paths] using inside
  apply only_bind
  · simpa using permitted
  · simp

theorem only_create_parent (inside : TransferPath platform root destination path) :
    Only (TransferOp platform root destination) (createParent platform path) := by
  unfold createParent
  split
  · rename_i parent found
    exact only_path_call rfl (.directory inside found)
  · simp

theorem only_with_lock {body : RuntimeTask IoError Value}
    (inside : TransferPath platform root destination path)
    (held : Only (TransferOp platform root destination) body) :
    Only (TransferOp platform root destination) (withLock path body) := by
  have named : ∀ op : FileOp, op.paths = [path] →
      TransferOp platform root destination (.file op) := by
    intro op single
    simpa [TransferOp, single] using inside
  apply only_bind
  · simpa using named (.lock path) rfl
  intro _
  apply only_bind (only_attempt held)
  intro result
  apply only_bind
  · simpa using named (.unlock path) rfl
  · simp

theorem only_rename_over {source target : String} {giveUp : RuntimeTask IoError Unit}
    (reads : TransferPath platform root destination source)
    (writes : TransferPath platform root destination target)
    (abandons : Only (TransferOp platform root destination) giveUp) :
    Only (TransferOp platform root destination) (renameOver source target giveUp) := by
  have permitted : TransferOp platform root destination (.file (.rename source target)) := by
    simpa [TransferOp, FileOp.paths] using ⟨reads, writes⟩
  apply only_bind
  · simpa using permitted
  intro renamed
  cases renamed with
  | ok _ => simp
  | error error =>
    by_cases exists_ : error.kind = .alreadyExists
    · simp only [exists_, if_true]
      apply only_bind (only_path_call rfl writes)
      intro _
      exact only_pair_call rfl reads writes
    · simp only [exists_, if_false]
      apply only_bind abandons
      simp

theorem only_load_state {State : Type} {decode : Decoder State}
    (inside : TransferPath platform root destination path) :
    Only (TransferOp platform root destination) (loadState decode path) := by
  apply only_bind (only_path_call rfl inside)
  intro present
  split
  · apply only_bind (only_path_call rfl inside)
    intro bytes
    apply only_bind
    · simp
    · simp
  · simp

theorem only_save_transfer_v2_state {state : TransferV2State}
    (inside : TransferPath platform root destination statePath)
    (temporary : TransferPath platform root destination (statePath ++ ".tmp")) :
    Only (TransferOp platform root destination) (saveTransferV2State platform statePath state) := by
  apply only_bind (only_path_call rfl temporary)
  intro _
  exact only_pair_call rfl temporary inside

theorem only_ensure_transfer_v2_state {request : TransferV2Request}
    (content : TransferPath platform root destination part)
    (inside : TransferPath platform root destination statePath)
    (temporary : TransferPath platform root destination (statePath ++ ".tmp")) :
    Only (TransferOp platform root destination)
      (ensureTransferV2State platform request part statePath) := by
  have rebuilds : Only (TransferOp platform root destination)
      (rebuildTransferV2State platform request part statePath) := by
    apply only_bind (only_discard_file content)
    intro _
    apply only_bind (only_discard_file inside)
    intro _
    apply only_bind (only_create_parent content)
    intro _
    apply only_open_bind rfl content
    intro handle
    apply only_bind (only_path_call rfl content)
    intro _
    apply only_bind (only_save_transfer_v2_state inside temporary)
    simp
  apply only_bind (only_load_state inside)
  intro loaded
  split
  · apply only_bind (only_path_call rfl content)
    intro present
    split
    · simp
    · exact rebuilds
  · exact rebuilds

variable {digest : Bytes 32}

theorem only_store_contains :
    Only (TransferOp platform root destination) (storeContains platform root digest) := by
  apply only_bind (only_path_call rfl (.object digest))
  intro present
  split
  · apply only_bind (only_path_call rfl (.object digest))
    simp
  · simp

variable (content : TransferPath platform root destination part)
include content

theorem only_keep_stored :
    Only (TransferOp platform root destination)
      (keepStored part (objectPath platform root digest) digest) := by
  apply only_bind (only_path_call rfl (.object digest))
  intro present
  split
  · apply only_bind (only_path_call rfl (.object digest))
    intro existing
    split
    · apply only_bind (only_path_call rfl content)
      simp
    · apply only_bind (only_path_call rfl (.object digest))
      simp
  · simp

theorem only_store_copy :
    Only (TransferOp platform root destination)
      (storeCopy platform root part (objectPath platform root digest) digest) := by
  apply only_bind
  · simp [TransferOp]
  intro uuid
  have temporary : TransferPath platform root destination (platform.joinPath root
      ("." ++ String.ofList (hex digest.toList) ++ ".tmp-" ++ uuidText uuid)) :=
    .staging digest uuid
  apply only_bind (only_pair_call rfl content temporary)
  intro copied
  apply only_bind
  · simpa [TransferOp, FileOp.paths] using ⟨temporary, .object digest⟩
  intro renamed
  cases renamed with
  | ok _ => exact only_path_call rfl content
  | error error =>
    by_cases present : error.kind = .alreadyExists
    · simp only [present, if_true]
      apply only_bind (only_path_call rfl (.object digest))
      intro existing
      apply only_bind (only_discard_file temporary)
      intro _
      split
      · exact only_path_call rfl content
      · apply only_bind (only_path_call rfl (.object digest))
        simp
    · simp only [present, if_false]
      apply only_bind (only_discard_file temporary)
      simp

theorem only_commit_verified_file :
    Only (TransferOp platform root destination)
      (commitVerifiedFile platform root part digest) := by
  apply only_bind (only_path_call rfl content)
  intro found
  apply only_ensure_bind
  intro _
  apply only_bind (only_path_call rfl .store)
  intro _
  apply only_bind (only_keep_stored content)
  intro kept
  split
  · simp
  · exact only_store_copy content

omit content

theorem only_materialize :
    Only (TransferOp platform root destination)
      (materialize platform root digest destination) := by
  apply only_bind (only_path_call rfl (.object digest))
  intro found
  apply only_ensure_bind
  intro _
  apply only_bind (only_create_parent .destination)
  intro _
  apply only_bind
  · simp [TransferOp]
  intro uuid
  apply only_bind (only_pair_call rfl (.object digest) (.materializing uuid))
  intro bytes
  apply only_bind (only_rename_over (.materializing uuid) .destination
    (only_discard_file (.materializing uuid)))
  simp
end Paths
end Misaka.TransferFiles
