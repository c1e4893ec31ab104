import Misaka.HumanAuthorization
import Misaka.TransferFiles

/-!
The side-effecting stream services of a Sister: the three versions of file
transfer and the TCP tunnel. Each reads one request and has it authorized before
it touches a file or opens a connection. The four share one authorization
helper; which permission it asks for is up to the service, and the tunnel takes
it from the request.
-/

namespace Misaka.StreamServices
open Bincode Identity Protocol AuthorizationStores EffectTask NodeRuntime HumanAuthorization
open TransferFiles

def permissionDenied (message : String) : IoError := ⟨.permissionDenied, message⟩

section Authorization
variable (platform : Platform)

def requireStreamAuthorization (authorization : Option CommandAuthorization)
    (allowUnauthenticatedOperations : Bool) : RuntimeTask IoError Unit :=
  ensure (authorization.isSome || allowUnauthenticatedOperations)
    (permissionDenied "side-effecting stream operation requires Human Authorization")

def streamPermission (permission : Permission) : Bool :=
  permission == .fileSend || permission == .tunnelOpen || permission == .shellOpen

def authorizationBoundToLocal (authorization : CommandAuthorization) (localId : SisterId) : Bool :=
  authorization.target == some (.sister localId)

-- `authorize_stream_operation` from the point where both a node and an authorization are there.
def verifyStreamAuthorization (node : NodeConfig) (authorization : CommandAuthorization)
    (permission : Permission) (constraints : List String) (recordNonce : Bool) :
    RuntimeTask IoError Unit := do
  let invalid := permissionDenied "stream authorization is invalid"
  let loaded ← perform (RuntimeOp.loadAuthority node.dataDir)
  let loaded ← orError (fun error => ⟨.other, authorityErrorDisplay error⟩) loaded
  let authority ← orFail loaded
    (permissionDenied "authorized stream request requires network.json")
  ensure (authorization.permission == permission && streamPermission authorization.permission &&
    authorizationBoundToLocal authorization node.identity.id &&
    authorization.networkId == node.networkId) invalid
  let now ← perform RuntimeOp.nowSecs
  ensure (authorization.verify platform.verifies authority now &&
    authorization.constraints == constraints) invalid
  let revoked ← isRevokedIn platform (fun error => permissionDenied error.display) node.dataDir
    authority authorization.networkId .human authorization.membership.serial
  ensure (!revoked) (permissionDenied "stream authorization membership has been revoked")
  if recordNonce then do
    let recorded ← perform (RuntimeOp.recordNonce node.dataDir authorization)
    orError (fun error => permissionDenied error.display) recorded
  else pure ()

def authorizeStreamOperation (context : Option NodeConfig)
    (authorization : Option CommandAuthorization) (permission : Permission)
    (constraints : List String) (recordNonce : Bool) : RuntimeTask IoError Unit := do
  requireStreamAuthorization authorization
    (context.elim true (·.allowUnauthenticatedOperations))
  match authorization with
  | none => pure ()
  | some authorization => do
      let node ← orFail context (permissionDenied
        "authorized stream request requires a runtime authorization context")
      verifyStreamAuthorization platform node authorization permission constraints recordNonce
end Authorization

section Frames
variable {Value : Type}

def readRequest (limit : Nat) (tooLarge : String) (decode : Decoder Value)
    (stream : NetworkStream) : RuntimeTask IoError Value :=
  readFrame limit (invalidData tooLarge) id invalidData decode stream

def readBincodeFrame (limit : Nat) (decode : Decoder Value) (stream : NetworkStream) :
    RuntimeTask IoError Value :=
  readRequest limit "transfer frame exceeds limit" decode stream

def writeBincodeFrame (stream : NetworkStream) (frame : StreamFrame) :
    RuntimeTask IoError Unit := do
  let written ← perform (RuntimeOp.write stream frame)
  orError id written

def readPayload (stream : NetworkStream) (count : Nat) : RuntimeTask IoError (List UInt8) := do
  let payload ← perform (RuntimeOp.readExact stream count)
  orError id payload
end Frames

def destinationConstraint (destination : String) : String := "destination=" ++ destination

/-! Transfer v0: the whole payload follows the request. -/
section TransferV0
variable (platform : Platform)

/-- The loop over the payload: bytes still owed, bytes written, running digest.
The buffer bounds each read, and an empty read is the end of the stream. -/
def copyPayload (stream : NetworkStream) (file : OpenFile) (remaining : Nat) (written : UInt64)
    (digest : TransferDigest) : RuntimeTask IoError (UInt64 × TransferDigest) :=
  if _ : remaining = 0 then pure (written, digest)
  else do
    let readLimit := min remaining (64 * 1024)
    let delivered ← perform (RuntimeOp.readSome stream readLimit)
    let delivered ← orError id delivered
    let bytes := delivered.take readLimit
    if _ : bytes.length = 0 then
      .fail ⟨.unexpectedEof, "transfer ended before declared size"⟩
    else do
      writeAll file bytes
      copyPayload stream file (remaining - bytes.length) (written + UInt64.ofNat bytes.length)
        (updateTransferDigest digest bytes)
termination_by remaining
decreasing_by exact Nat.sub_lt (Nat.pos_of_ne_zero ‹_›) (Nat.pos_of_ne_zero ‹_›)

def transferResultV0 (request : TransferRequest) (written : UInt64) (digest : Bytes 32) :
    TransferResult where
  success := written == request.size && digest == request.digest
  bytesWritten := written
  digest := digest
  error := if digest != request.digest then some "SHA-256 digest mismatch" else none

def dropFailed (result : TransferResult) (destination : String) : RuntimeTask IoError Unit :=
  if result.success then pure () else discardFile destination

def reportTransfer (stream : NetworkStream) (request : TransferRequest) (result : TransferResult) :
    RuntimeTask IoError Unit := do
  dropFailed result request.destination
  writeBincodeFrame stream (.transferResult result)

def storePayload (stream : NetworkStream) (request : TransferRequest) :
    RuntimeTask IoError Unit := do
  createParent platform request.destination
  let file ← createFile request.destination
  let copied ← copyPayload stream file request.size.toNat 0 .start
  flushFile file
  reportTransfer stream request
    (transferResultV0 request copied.1 (finalizeTransferDigest copied.2))

def receiveTransfer (context : Option NodeConfig) (stream : NetworkStream) :
    RuntimeTask IoError Unit := do
  let request ← readRequest (1024 * 1024) "transfer header exceeds 1 MiB" platform.transferRequest
    stream
  authorizeStreamOperation platform context request.authorization .fileSend
    [destinationConstraint request.destination] true
  storePayload platform stream request
end TransferV0

/-! Transfer v1: chunks in order, appended to a part file whose state allows to
resume. -/
section TransferV1
variable (platform : Platform) (request : TransferV1Request)

def freshTransferV1State : TransferV1State where
  size := request.size
  digest := request.digest
  chunkSize := request.chunkSize
  offset := 0

def sameTransferV1 (state : TransferV1State) : Bool :=
  state.size == request.size && state.digest == request.digest &&
    state.chunkSize == request.chunkSize

-- A saved state of another transfer, or one whose part file is gone, is dropped.
def resumedTransferV1State (part statePath : String) :
    RuntimeTask IoError TransferV1State := do
  let loaded ← loadTransferV1State platform statePath
  let present ← tryExists part
  if !loaded.any (sameTransferV1 request) || !present then do
    discardFile part
    discardFile statePath
    pure (freshTransferV1State request)
  else pure (loaded.getD (freshTransferV1State request))

def partIsStale (part : String) (state : TransferV1State) :
    RuntimeTask IoError Bool :=
  if state.offset > request.size then pure true
  else do
    let length ← perform (RuntimeOp.file (.length part))
    match length with
    | .ok found => pure (found != state.offset)
    | .error _ => pure true

def settledTransferV1State (part statePath : String) :
    RuntimeTask IoError TransferV1State := do
  let state ← resumedTransferV1State platform request part statePath
  let stale ← partIsStale request part state
  if stale then do
    discardFile part
    pure { state with offset := 0 }
  else pure state

def createMissingPart (part : String) : RuntimeTask IoError Unit := do
  let present ← tryExists part
  if present then pure ()
  else do
    let _ ← createFile part
    pure ()

-- What was already received counts as complete only if it hashes to the request's digest.
def partIsComplete (request : TransferV1Request) (part : String) (state : TransferV1State) :
    RuntimeTask IoError Bool :=
  if state.offset = request.size then do
    let found ← hashFilePath part
    pure (found == request.digest)
  else pure false

def commitPart (part statePath destination : String) : RuntimeTask IoError Unit := do
  finalizeTransferPart part destination
  discardFile statePath

variable (request : TransferV1Request)

-- A full part file with the wrong content starts over.
def restartPart (part statePath : String) (state : TransferV1State) :
    RuntimeTask IoError TransferV1State :=
  if state.offset = request.size then do
    let _ ← createFile part
    saveTransferV1State platform statePath { state with offset := 0 }
    pure { state with offset := 0 }
  else pure state

def chunkFits (chunk : TransferV1Chunk) (offset : Nat) : Prop :=
  chunk.index.toNat = offset / request.chunkSize.toNat ∧ chunk.offset.toNat = offset ∧
    chunk.len ≠ 0 ∧ chunk.len ≤ request.chunkSize ∧
    offset + chunk.len.toNat ≤ request.size.toNat

instance (request : TransferV1Request) (chunk : TransferV1Chunk) (offset : Nat) :
    Decidable (chunkFits request chunk offset) := inferInstanceAs (Decidable (_ ∧ _))

theorem chunk_fits_progress {request : TransferV1Request} {chunk : TransferV1Chunk}
    {offset : Nat} (fits : chunkFits request chunk offset) :
    request.size.toNat - (offset + chunk.len.toNat) < request.size.toNat - offset := by
  obtain ⟨_, _, nonempty, _, within⟩ := fits
  have positive : 0 < chunk.len.toNat := by
    apply Nat.pos_of_ne_zero
    intro zero
    exact nonempty (UInt32.toNat_inj.mp zero)
  omega

def transferResultV1 (request : TransferV1Request) (digest : Bytes 32) : TransferResult where
  success := digest == request.digest
  bytesWritten := request.size
  digest := digest
  error := if digest == request.digest then none else some "SHA-256 digest mismatch"

def commitMatching (request : TransferV1Request) (part statePath : String) (digest : Bytes 32) :
    RuntimeTask IoError Unit :=
  if digest == request.digest then commitPart part statePath request.destination else pure ()

def finishTransferV1 (request : TransferV1Request) (part statePath : String)
    (stream : NetworkStream) : RuntimeTask IoError Unit := do
  let digest ← hashFilePath part
  commitMatching request part statePath digest
  writeBincodeFrame stream (.transferResult (transferResultV1 request digest))

def appendChunk (request : TransferV1Request) (part statePath : String) (payload : List UInt8)
    (offset : Nat) : RuntimeTask IoError Unit := do
  let file ← openAppend part
  writeAll file payload
  flushFile file
  saveTransferV1State platform statePath
    { freshTransferV1State request with offset := UInt64.ofNat offset }

/-- The chunk loop. The next chunk is the one at the current offset, so the bytes
that are left bound the number of turns. -/
def receiveChunks (request : TransferV1Request) (part statePath : String)
    (stream : NetworkStream) (offset : Nat) : RuntimeTask IoError Unit := do
  let chunk ← readBincodeFrame (64 * 1024) platform.transferV1Chunk stream
  if _ : chunkFits request chunk offset then do
    let payload ← readPayload stream chunk.len.toNat
    ensure (transferDigest payload == chunk.digest)
      (invalidData "transfer v1 chunk digest mismatch")
    let next := offset + chunk.len.toNat
    appendChunk platform request part statePath payload next
    let complete := next == request.size.toNat
    writeBincodeFrame stream (.transferV1Ack ⟨UInt64.ofNat next, complete, none⟩)
    if complete then finishTransferV1 request part statePath stream
    else receiveChunks request part statePath stream next
  else .fail (invalidData "invalid transfer v1 chunk boundary")
termination_by request.size.toNat - offset
decreasing_by exact chunk_fits_progress ‹_›

def resumeTransferV1 (request : TransferV1Request) (part statePath : String)
    (stream : NetworkStream) : RuntimeTask IoError Unit := do
  createParent platform part
  let state ← settledTransferV1State platform request part statePath
  createMissingPart part
  let complete ← partIsComplete request part state
  if complete then do
    commitPart part statePath request.destination
    writeBincodeFrame stream (.transferV1Resume ⟨state.offset, true, none⟩)
    writeBincodeFrame stream (.transferResult ⟨true, request.size, request.digest, none⟩)
  else do
    let state ← restartPart platform request part statePath state
    writeBincodeFrame stream (.transferV1Resume ⟨state.offset, false, none⟩)
    receiveChunks platform request part statePath stream state.offset.toNat

def receiveTransferV1 (context : Option NodeConfig) (stream : NetworkStream) :
    RuntimeTask IoError Unit := do
  let request ← readBincodeFrame (1024 * 1024) platform.transferV1Request stream
  authorizeStreamOperation platform context request.authorization .fileSend
    [destinationConstraint request.destination] true
  ensure (request.chunkSize == TRANSFER_V1_CHUNK_SIZE)
    (invalidInput "unsupported transfer v1 chunk size")
  resumeTransferV1 platform request (request.destination ++ ".misaka-part")
    (request.destination ++ ".misaka-part.json") stream

/-- `echo_stream_after_greeting` of a node that is not probe-only, as far as the
preamble selects transfer v1. -/
def echoStreamAfterGreeting (others : List UInt8 → RuntimeTask IoError Unit)
    (context : Option NodeConfig) (stream : NetworkStream) : RuntimeTask IoError Unit := do
  let preamble ← perform (RuntimeOp.readExact stream TRANSFER_V1_MAGIC.length)
  match preamble with
  | .error _ => pure ()
  | .ok preamble =>
    if preamble = TRANSFER_V1_MAGIC then receiveTransferV1 platform context stream
    else others preamble
end TransferV1

/-! Transfer v2: one request a stream, chunks in any order, a bitmap of what has
arrived and a content store that several destinations share. -/
section TransferV2
variable (platform : Platform)

def TRANSFER_V2_MAX_CHUNKS : UInt64 := 1048576

variable (request : TransferV2Request)

def validateChunkCount : Except IoError Unit :=
  let expected := (request.size.toNat + request.chunkSize.toNat - 1) / request.chunkSize.toNat
  if request.chunkSize ≠ TRANSFER_V1_CHUNK_SIZE then
    .error (invalidInput "unsupported transfer v2 chunk size")
  else if request.chunkCount.toNat ≠ expected ∨ request.chunkCount > TRANSFER_V2_MAX_CHUNKS then
    .error (invalidInput "invalid transfer v2 chunk count")
  else .ok ()

def validateOperation : Except IoError Unit :=
  match request.operation with
  | .prepare | .finalize =>
    if request.index ≠ 0 ∨ request.offset ≠ 0 ∨ request.len ≠ 0 then
      .error (invalidInput "control transfer v2 request carries chunk metadata")
    else .ok ()
  | .chunk =>
    let expectedOffset := request.index.toNat * request.chunkSize.toNat
    let expectedLen := min (request.size.toNat - expectedOffset) request.chunkSize.toNat
    if request.index ≥ request.chunkCount then
      .error (invalidInput "transfer v2 chunk index is out of range")
    else if request.offset.toNat ≠ expectedOffset ∨ request.len.toNat ≠ expectedLen then
      .error (invalidInput "invalid transfer v2 chunk boundary")
    else .ok ()

def validateTransferV2Request : Except IoError Unit := do
  validateChunkCount request
  validateOperation request

def prepareTransferV2 (root part statePath : String) (stream : NetworkStream)
    (request : TransferV2Request) : RuntimeTask IoError Unit := do
  let stored ← storeContains platform root request.digest
  if stored then
    writeBincodeFrame stream (.transferV2Resume
      ⟨(List.range request.chunkCount.toNat).map UInt64.ofNat, true, none⟩)
  else withLock statePath do
    let state ← ensureTransferV2State platform request part statePath
    writeBincodeFrame stream (.transferV2Resume
      ⟨completedTransferV2Indices state, transferV2Complete state, none⟩)

def writeChunkAt (part : String) (offset : UInt64) (payload : List UInt8) :
    RuntimeTask IoError Unit := do
  let file ← openWrite part
  seekTo file offset
  writeAll file payload
  flushFile file

variable (request : TransferV2Request) (part statePath : String)

def markChunk :
    RuntimeTask IoError Unit := do
  let state ← ensureTransferV2State platform request part statePath
  if transferV2IsCompleted state request.index.toNat then pure ()
  else saveTransferV2State platform statePath (transferV2MarkCompleted state request.index.toNat)

-- The guard of the marking step lives to the end of the block, not beyond it.
def storeChunk (payload : List UInt8) :
    RuntimeTask IoError Unit := do
  let completed ← withLock statePath do
    let state ← ensureTransferV2State platform request part statePath
    pure (transferV2IsCompleted state request.index.toNat)
  if completed then pure ()
  else do
    writeChunkAt part request.offset payload
    withLock statePath (markChunk platform request part statePath)

def chunkTransferV2 (stream : NetworkStream) (request : TransferV2Request) :
    RuntimeTask IoError Unit := do
  let payload ← readPayload stream request.len.toNat
  ensure (transferDigest payload == request.chunkDigest)
    (invalidData "transfer v2 chunk digest mismatch")
  storeChunk platform request part statePath payload
  withLock statePath do
    let state ← ensureTransferV2State platform request part statePath
    writeBincodeFrame stream (.transferV2Ack
      ⟨request.index, true, transferV2Complete state, none⟩)

def acceptFinalize (stream : NetworkStream) : RuntimeTask IoError Unit :=
  writeBincodeFrame stream (.transferV2Ack ⟨0, true, true, none⟩)

def refuseFinalize (stream : NetworkStream) (reason : String) : RuntimeTask IoError Unit :=
  writeBincodeFrame stream (.transferV2Ack ⟨0, false, false, some reason⟩)

variable (root part statePath : String)

def publishTransferV2 (stream : NetworkStream) (request : TransferV2Request) :
    RuntimeTask IoError Unit := do
  commitVerifiedFile platform root part request.digest
  let _ ← materialize platform root request.digest request.destination
  discardFile statePath
  acceptFinalize stream

def verifyTransferV2 (stream : NetworkStream) (request : TransferV2Request) :
    RuntimeTask IoError Unit := do
  let state ← ensureTransferV2State platform request part statePath
  if transferV2Complete state then do
    let digest ← hashFilePath part
    if digest == request.digest then publishTransferV2 platform root part statePath stream request
    else do
      discardFile part
      discardFile statePath
      refuseFinalize stream "SHA-256 digest mismatch"
  else refuseFinalize stream "transfer has incomplete chunks"

def finalizeTransferV2 (stream : NetworkStream) (request : TransferV2Request) :
    RuntimeTask IoError Unit := do
  let stored ← storeContains platform root request.digest
  if stored then do
    let _ ← materialize platform root request.digest request.destination
    discardFile statePath
    acceptFinalize stream
  else withLock statePath (verifyTransferV2 platform root part statePath stream request)

def serveTransferV2 (stream : NetworkStream) (request : TransferV2Request) :
    RuntimeTask IoError Unit :=
  match request.operation with
  | .prepare => prepareTransferV2 platform root part statePath stream request
  | .chunk => chunkTransferV2 platform part statePath stream request
  | .finalize => finalizeTransferV2 platform root part statePath stream request

def contentStoreRoot (storeRoot : Option String) (part : String) : String :=
  storeRoot.getD (platform.joinPath ((platform.parentDir part).getD ".") ".misaka-objects")

def receiveTransferV2 (storeRoot : Option String) (context : Option NodeConfig)
    (stream : NetworkStream) : RuntimeTask IoError Unit := do
  let request ← readBincodeFrame (1024 * 1024) platform.transferV2Request stream
  authorizeStreamOperation platform context request.authorization .fileSend
    [destinationConstraint request.destination] (request.operation == .prepare)
  ofExcept (validateTransferV2Request request)
  let (part, statePath) := transferV2Paths request.destination
  serveTransferV2 platform (contentStoreRoot platform storeRoot part) part statePath stream request
end TransferV2

section Tunnel
variable (platform : Platform)

-- A connect that runs into the ten second timer shows up as a timed-out answer.
def connectDeadline (error : IoError) : IoError :=
  if error.kind = .timedOut then ⟨.timedOut, "remote tunnel connect timed out"⟩ else error

def receiveTunnel (context : Option NodeConfig) (stream : NetworkStream) :
    RuntimeTask IoError Unit := do
  let request ← readRequest (64 * 1024) "tunnel request exceeds 64 KiB" platform.tunnelRequest
    stream
  let permission := request.authorization.elim .tunnelOpen (·.permission)
  authorizeStreamOperation platform context request.authorization permission
    ["remote=" ++ request.remote] true
  let addr ← orError invalidInput (platform.parseSocketAddr request.remote)
  let connected ← perform (RuntimeOp.tcpConnect addr)
  let remote ← orError connectDeadline connected
  let copied ← perform (RuntimeOp.copyBidirectional stream remote)
  orError id copied
end Tunnel

/-! What the services do after the verdict. -/
section Vocabulary
variable {platform : Platform} {root destination part statePath : String}
variable {stream : NetworkStream}

theorem only_write_bincode_frame {frame : StreamFrame} :
    Only (TransferOp platform root destination) (writeBincodeFrame stream frame) := by
  apply only_bind
  · simp [TransferOp]
  · simp

theorem only_read_payload {count : Nat} :
    Only (TransferOp platform root destination) (readPayload stream count) := by
  apply only_bind
  · simp [TransferOp]
  · simp

theorem only_copy_payload (handle : FileHandle) (remaining : Nat) (written : UInt64)
    (digest : TransferDigest) (inside : TransferPath platform root destination part) :
    Only (TransferOp platform root destination)
      (copyPayload stream ⟨part, handle⟩ remaining written digest) := by
  -- Each turn leaves fewer bytes owed.
  induction remaining using Nat.strong_induction_on generalizing written digest with
  | _ remaining ih =>
    rw [copyPayload]
    split
    · simp
    · rename_i owed
      apply only_bind
      · simp [TransferOp]
      intro delivered
      apply only_bind
      · simp
      intro bytes
      dsimp only
      split
      · simp
      · rename_i received
        apply only_bind (only_path_call rfl inside)
        intro _
        exact ih _ (Nat.sub_lt (Nat.pos_of_ne_zero owed) (Nat.pos_of_ne_zero received)) _ _

theorem only_store_payload {request : TransferRequest} :
    Only (TransferOp platform root request.destination) (storePayload platform stream request) := by
  apply only_bind (only_create_parent .destination)
  intro _
  apply only_open_bind rfl .destination
  intro handle
  apply only_bind (only_copy_payload handle _ _ _ .destination)
  intro copied
  apply only_bind (only_path_call rfl .destination)
  intro _
  apply only_bind
  · unfold dropFailed
    split
    · simp
    · exact only_discard_file .destination
  intro _
  exact only_write_bincode_frame

section TransferV1
variable {request : TransferV1Request}

theorem only_settled_transfer_v1_state
    (content : TransferPath platform root destination part)
    (inside : TransferPath platform root destination statePath) :
    Only (TransferOp platform root destination)
      (settledTransferV1State platform request part statePath) := by
  have resumes : Only (TransferOp platform root destination)
      (resumedTransferV1State platform request part statePath) := by
    apply only_bind (only_load_state inside)
    intro loaded
    apply only_bind (only_path_call rfl content)
    intro present
    split
    · apply only_bind (only_discard_file content)
      intro _
      apply only_bind (only_discard_file inside)
      simp
    · simp
  apply only_bind resumes
  intro state
  apply only_bind
  · unfold partIsStale
    split
    · simp
    · apply only_bind
      · simpa [TransferOp, FileOp.paths] using content
      intro length
      cases length <;> simp
  intro stale
  split
  · apply only_bind (only_discard_file content)
    simp
  · simp

theorem only_commit_part (content : TransferPath platform root destination part)
    (inside : TransferPath platform root destination statePath) :
    Only (TransferOp platform root destination) (commitPart part statePath destination) := by
  apply only_bind (only_rename_over content .destination (by simp))
  intro _
  exact only_discard_file inside

variable (content : TransferPath platform root request.destination part)
variable (inside : TransferPath platform root request.destination statePath)

include content inside in
theorem only_receive_chunks (offset : Nat) :
    Only (TransferOp platform root request.destination)
      (receiveChunks platform request part statePath stream offset) := by
  -- The measure is the number of bytes that are still missing.
  induction missing : request.size.toNat - offset using Nat.strong_induction_on
    generalizing offset with
  | _ count ih =>
    subst missing
    rw [receiveChunks]
    apply only_bind (only_read_frame fun _ => trivial)
    intro chunk
    split
    · rename_i fits
      apply only_bind only_read_payload
      intro payload
      apply only_ensure_bind
      intro _
      apply only_bind
      · apply only_open_bind rfl content
        intro handle
        apply only_bind (only_path_call rfl content)
        intro _
        apply only_bind (only_path_call rfl content)
        intro _
        exact only_path_call rfl inside
      intro _
      apply only_bind only_write_bincode_frame
      intro _
      split
      · apply only_bind (only_path_call rfl content)
        intro digest
        apply only_bind
        · unfold commitMatching
          split
          · exact only_commit_part content inside
          · simp
        intro _
        exact only_write_bincode_frame
      · exact ih _ (chunk_fits_progress fits) _ rfl
    · simp

include content inside in
theorem only_resume_transfer_v1 :
    Only (TransferOp platform root request.destination)
      (resumeTransferV1 platform request part statePath stream) := by
  apply only_bind (only_create_parent content)
  intro _
  apply only_bind (only_settled_transfer_v1_state content inside)
  intro state
  apply only_bind
  · apply only_bind (only_path_call rfl content)
    intro present
    split
    · simp
    · exact only_open_bind rfl content fun _ => by simp
  intro _
  apply only_bind
  · unfold partIsComplete
    split
    · exact only_bind (only_path_call rfl content) fun _ => by simp
    · simp
  intro complete
  split
  · apply only_bind (only_commit_part content inside)
    intro _
    apply only_bind only_write_bincode_frame
    intro _
    exact only_write_bincode_frame
  · apply only_bind
    · unfold restartPart
      split
      · apply only_open_bind rfl content
        intro _
        exact only_bind (only_path_call rfl inside) fun _ => by simp
      · simp
    intro settled
    apply only_bind only_write_bincode_frame
    intro _
    exact only_receive_chunks content inside _
end TransferV1

section TransferV2
variable {request : TransferV2Request}
variable (content : TransferPath platform root destination part)
variable (inside : TransferPath platform root destination statePath)
variable (temporary : TransferPath platform root destination (statePath ++ ".tmp"))

include content inside temporary in
theorem only_prepare_transfer_v2 :
    Only (TransferOp platform root destination)
      (prepareTransferV2 platform root part statePath stream request) := by
  apply only_bind only_store_contains
  intro stored
  split
  · exact only_write_bincode_frame
  · apply only_with_lock inside
    apply only_bind (only_ensure_transfer_v2_state content inside temporary)
    intro state
    exact only_write_bincode_frame

include content inside temporary in
theorem only_store_chunk {payload : List UInt8} :
    Only (TransferOp platform root destination)
      (storeChunk platform request part statePath payload) := by
  have ensures : Only (TransferOp platform root destination)
      (ensureTransferV2State platform request part statePath) :=
    only_ensure_transfer_v2_state content inside temporary
  apply only_bind
  · exact only_with_lock inside (only_bind ensures fun _ => by simp)
  intro completed
  split
  · simp
  · apply only_bind
    · apply only_open_bind rfl content
      intro handle
      apply only_bind (only_path_call rfl content)
      intro _
      apply only_bind (only_path_call rfl content)
      intro _
      exact only_path_call rfl content
    intro _
    apply only_with_lock inside
    apply only_bind ensures
    intro state
    split
    · simp
    · exact only_save_transfer_v2_state inside temporary

include content inside temporary in
theorem only_chunk_transfer_v2 :
    Only (TransferOp platform root destination)
      (chunkTransferV2 platform part statePath stream request) := by
  apply only_bind only_read_payload
  intro payload
  apply only_ensure_bind
  intro _
  apply only_bind (only_store_chunk content inside temporary)
  intro _
  apply only_with_lock inside
  apply only_bind (only_ensure_transfer_v2_state content inside temporary)
  intro state
  exact only_write_bincode_frame
end TransferV2

section TransferV2
variable {request : TransferV2Request}
variable (content : TransferPath platform root request.destination part)
variable (inside : TransferPath platform root request.destination statePath)
variable (temporary : TransferPath platform root request.destination (statePath ++ ".tmp"))

include inside in
theorem only_materialized :
    Only (TransferOp platform root request.destination) (do
      let _ ← materialize platform root request.digest request.destination
      discardFile statePath
      acceptFinalize stream) := by
  apply only_bind only_materialize
  intro _
  apply only_bind (only_discard_file inside)
  intro _
  exact only_write_bincode_frame

include content inside temporary in
theorem only_finalize_transfer_v2 :
    Only (TransferOp platform root request.destination)
      (finalizeTransferV2 platform root part statePath stream request) := by
  apply only_bind only_store_contains
  intro stored
  split
  · exact only_materialized inside
  · apply only_with_lock inside
    apply only_bind (only_ensure_transfer_v2_state content inside temporary)
    intro state
    split
    · apply only_bind (only_path_call rfl content)
      intro digest
      split
      · apply only_bind (only_commit_verified_file content)
        intro _
        exact only_materialized inside
      · apply only_bind (only_discard_file content)
        intro _
        apply only_bind (only_discard_file inside)
        intro _
        exact only_write_bincode_frame
    · exact only_write_bincode_frame

theorem only_serve_transfer_v2 :
    Only (TransferOp platform root request.destination)
      (serveTransferV2 platform root (transferV2Paths request.destination).1
        (transferV2Paths request.destination).2 stream request) := by
  have content : TransferPath platform root request.destination
      (transferV2Paths request.destination).1 := .beside ".misaka-part-v2" (by simp)
  have inside : TransferPath platform root request.destination
      (transferV2Paths request.destination).2 := .beside ".misaka-part-v2.json" (by simp)
  have temporary : TransferPath platform root request.destination
      ((transferV2Paths request.destination).2 ++ ".tmp") := by
    have joined : (transferV2Paths request.destination).2 ++ ".tmp" =
        request.destination ++ ".misaka-part-v2.json.tmp" := String.append_assoc
    rw [joined]
    exact .beside ".misaka-part-v2.json.tmp" (by simp)
  unfold serveTransferV2
  split
  · exact only_prepare_transfer_v2 content inside temporary
  · exact only_chunk_transfer_v2 content inside temporary
  · exact only_finalize_transfer_v2 content inside temporary
end TransferV2
end Vocabulary
end Misaka.StreamServices
