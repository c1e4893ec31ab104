import Misaka.Duplex
import Misaka.NodeRuntime
import Misaka.Sha256

/-!
The sending side of a resumable copy: `misaka cp --resume` looks up the Sister,
connects to its stream endpoint, and sends one file in chunks from the offset the
receiver asks for. What precedes the stream is answered by the environment; the
source file and the stream have a meaning of their own.
-/

namespace Misaka.CopyCommand
open Bincode Identity Protocol EffectTask NodeRuntime Duplex Sha256

-- The fields of a stored peer that a copy reads.
structure PeerBlueprint where
  id : UInt64
  streamEndpoints : List String
  streamCertificate : Option (List UInt8)

/-- The errors are the texts of the I/O errors, as `Display` gives them. A frame
that is read has been checked against the limit. -/
inductive CopyOp where
  | loadPeers
  | connectPeerStream (endpoint : NetworkEndpoint) (peer : UInt64)
      (certificate : Option (List UInt8))
  | localNetworkId
  | loadCliAuthorization (network : NetworkId) (target : Option UInt64) (permission : Permission)
      (constraints : List String)
  | openSource (path : String)
  | sourceLen
  | hashSource
  | seekSource (offset : UInt64)
  | readSource (limit : Nat)
  | write (bytes : List UInt8)
  | flush
  | readFrame (limit : Nat)

abbrev CopyOp.Result : CopyOp → Type
  | .loadPeers => List PeerBlueprint
  | .localNetworkId => Except String NetworkId
  | .loadCliAuthorization _ _ _ _ => Except String (Option CommandAuthorization)
  | .sourceLen => Except String UInt64
  | .hashSource => Except String (Bytes 32)
  | .readSource _ => Except String (List UInt8)
  | .readFrame _ => Except String StreamFrame
  | _ => Except String Unit

abbrev CopyTask (Val : Type) := Task CopyOp CopyOp.Result String Val

section Preparation
-- `str::parse::<u64>`, with the text of its error.
variable (platform : Platform) (parseId : String → Except String UInt64)

-- `value.strip_prefix('#')` and then `split_once(':')`.
def splitCopyDestination (value : String) : Option (String × String) :=
  match stripLeading "#" value with
  | none => none
  | some rest =>
    match rest.toList.span (· != ':') with
    | (_, []) => none
    | (id, _ :: path) => some (String.ofList id, String.ofList path)

def parseCopyDestination (value : String) : Except String (UInt64 × String) :=
  match splitCopyDestination value with
  | none => .error "destination must be #<sister-id>:/path"
  | some (id, path) =>
    match parseId id with
    | .error error => .error ("invalid Sister ID: " ++ error)
    | .ok id =>
      if path.isEmpty then .error "destination path must not be empty" else .ok (id, path)

structure PreparedCopy where
  peerId : UInt64
  remotePath : String
  authorization : Option CommandAuthorization

-- `run_copy_v1` up to the point where it opens the source.
def prepareCopy (destination : String) : CopyTask PreparedCopy := do
  let target ← ofExcept (parseCopyDestination parseId destination)
  let peers ← perform CopyOp.loadPeers
  let peer ← orFail (peers.find? (·.id == target.1))
    ("Sister #" ++ toString target.1 ++ " is not in the local peer store")
  let address ← orFail peer.streamEndpoints.head?
    ("Sister #" ++ toString target.1 ++ " has no stream endpoint")
  let endpoint ← ofExcept (parseEndpoint platform address)
  let connected ← perform (CopyOp.connectPeerStream endpoint target.1 peer.streamCertificate)
  orError id connected
  let network ← perform CopyOp.localNetworkId
  let network ← orError id network
  let loaded ← perform (CopyOp.loadCliAuthorization network (some target.1) .fileSend
    ["destination=" ++ target.2])
  let authorization ← orError id loaded
  pure ⟨target.1, target.2, authorization⟩

def IsPreparation : CopyOp → Prop
  | .loadPeers | .connectPeerStream _ _ _ | .localNetworkId | .loadCliAuthorization _ _ _ _ => True
  | _ => False

theorem only_prepare_copy (destination : String) :
    Only IsPreparation (prepareCopy platform parseId destination) := by
  apply only_bind
  · simp
  intro target
  apply only_bind
  · simp [IsPreparation]
  intro peers
  apply only_bind
  · simp
  intro peer
  apply only_bind
  · simp
  intro address
  apply only_bind
  · simp
  intro endpoint
  apply only_bind
  · simp [IsPreparation]
  intro connected
  apply only_bind
  · simp
  intro _
  apply only_bind
  · simp [IsPreparation]
  intro network
  apply only_bind
  · simp
  intro network
  apply only_bind
  · simp [IsPreparation]
  intro loaded
  apply only_bind <;> simp
end Preparation

def writeBytes (context : String) (bytes : List UInt8) : CopyTask Unit := do
  let written ← perform (CopyOp.write bytes)
  orError (context ++ ·) written

def writeCliBincodeFrame (bytes : List UInt8) : CopyTask Unit := do
  writeBytes "write transfer frame length: " (bigEndian 4 bytes.length)
  writeBytes "write transfer frame: " bytes

def readCliBincodeFrame {Value : Type} (decode : StreamFrame → Except String Value) :
    CopyTask Value := do
  let frame ← perform (CopyOp.readFrame (1024 * 1024))
  let frame ← orError id frame
  ofExcept (decode frame)

-- A frame of another type does not decode.
def undecodable {Value : Type} : Except String Value := .error "decode transfer frame"

def asResume : StreamFrame → Except String TransferV1Resume
  | .transferV1Resume resume => .ok resume
  | _ => undecodable

def asAck : StreamFrame → Except String TransferV1Ack
  | .transferV1Ack ack => .ok ack
  | _ => undecodable

def asResult : StreamFrame → Except String TransferResult
  | .transferResult result => .ok result
  | _ => undecodable

-- `if let Some(error) = reply.error { return Err(..) }`.
def refuse (context : String) : Option String → CopyTask Unit
  | none => pure ()
  | some error => .fail (context ++ error)

def copyCall {Value : Type} (op : CopyOp) (fallible : op.Result = Except String Value)
    (context : String) : CopyTask Value := do
  let answer ← perform op
  orError (context ++ ·) (cast fallible answer)

def finishCopyV1 (size : UInt64) (digest : Bytes 32) : CopyTask Unit := do
  let result ← readCliBincodeFrame asResult
  ensure (result.success && result.bytesWritten == size && result.digest == digest)
    (result.error.getD "resumable transfer integrity check failed")

def chunkHeader (sent : Nat) (bytes : List UInt8) : TransferV1Chunk where
  index := UInt64.ofNat (sent / TRANSFER_V1_CHUNK_SIZE.toNat)
  offset := UInt64.ofNat sent
  len := UInt32.ofNat bytes.length
  digest := transferDigest bytes

def sendChunk (sent : Nat) (bytes : List UInt8) : CopyTask Unit := do
  writeCliBincodeFrame (chunkHeader sent bytes).encode
  writeBytes "write transfer v1 chunk: " bytes
  copyCall .flush rfl "flush transfer v1 chunk: "
  let ack ← readCliBincodeFrame asAck
  refuse "remote transfer chunk rejected: " ack.error
  ensure (ack.nextOffset.toNat == sent + bytes.length)
    ("remote acknowledged offset " ++ toString ack.nextOffset ++ ", expected " ++
      toString (sent + bytes.length))

/-- The sending loop; the buffer bounds each read. -/
def sendChunks (size : UInt64) (sent : Nat) : CopyTask Unit :=
  if _ : sent < size.toNat then do
    let delivered ← copyCall (.readSource TRANSFER_V1_CHUNK_SIZE.toNat) rfl "read source: "
    let bytes := delivered.take TRANSFER_V1_CHUNK_SIZE.toNat
    if _ : bytes.length = 0 then .fail "source changed while it was being copied"
    else do
      sendChunk sent bytes
      sendChunks size (sent + bytes.length)
  else pure ()
termination_by size.toNat - sent
decreasing_by
  exact Nat.sub_lt_sub_left ‹_› (Nat.lt_add_of_pos_right (Nat.pos_of_ne_zero ‹_›))

def acceptsOffset (size offset : UInt64) : Bool :=
  offset ≤ size && offset.toNat % TRANSFER_V1_CHUNK_SIZE.toNat == 0

def sendFrom (size : UInt64) (digest : Bytes 32) (resume : TransferV1Resume) : CopyTask Unit :=
  if resume.complete then finishCopyV1 size digest
  else do
    copyCall (.seekSource resume.offset) rfl "seek to resume offset: "
    sendChunks size resume.offset.toNat
    finishCopyV1 size digest

def copyRequest (prepared : PreparedCopy) (size : UInt64) (digest : Bytes 32) :
    TransferV1Request where
  destination := prepared.remotePath
  size := size
  digest := digest
  chunkSize := TRANSFER_V1_CHUNK_SIZE
  authorization := prepared.authorization

-- The rest of `run_copy_v1`.
def copyPrepared (source : String) (prepared : PreparedCopy) : CopyTask Unit := do
  copyCall (.openSource source) rfl ("open source " ++ source ++ ": ")
  let size ← copyCall .sourceLen rfl ("stat source " ++ source ++ ": ")
  let digest ← copyCall .hashSource rfl "hash source: "
  copyCall (.seekSource 0) rfl "rewind source: "
  writeBytes "write transfer v1 preamble: " TRANSFER_V1_MAGIC
  writeCliBincodeFrame (copyRequest prepared size digest).encode
  let resume ← readCliBincodeFrame asResume
  refuse "remote transfer resume rejected: " resume.error
  ensure (acceptsOffset size resume.offset)
    ("remote returned invalid resume offset " ++ toString resume.offset)
  sendFrom size digest resume

def runCopyV1 (platform : Platform) (parseId : String → Except String UInt64)
    (source destination : String) : CopyTask Unit := do
  let prepared ← prepareCopy platform parseId destination
  copyPrepared source prepared

/-! What the operations do while the source does not change and the stream lasts. -/
section World

/-- A file, as far as its length fits `Metadata::len`. -/
structure SourceFile where
  bytes : List UInt8
  fits : bytes.length < 2 ^ 64

variable (file : SourceFile)

def SourceFile.size : UInt64 := UInt64.ofNat file.bytes.length

theorem SourceFile.size_to_nat : file.size.toNat = file.bytes.length :=
  UInt64.toNat_ofNat_of_lt' file.fits

/-- How many bytes a read at the offset gives: `read` may return fewer than the
buffer holds, and returns none only at the end of the file. -/
def readLength (reads : Nat → Nat) (limit offset : Nat) : Nat :=
  min (max 1 (reads offset)) (min limit (file.bytes.length - offset))

def sourceSlice (reads : Nat → Nat) (limit offset : Nat) : List UInt8 :=
  (file.bytes.drop offset).take (readLength file reads limit offset)

abbrev Sender := End Nat StreamFrame UInt8

/-- The state is the position in the source. -/
def CopyStep (file : SourceFile) (reads : Nat → Nat) (answers : (op : CopyOp) → op.Result)
    (before : Sender) (op : CopyOp) (result : op.Result) (after : Sender) : Prop :=
  match op, result with
  | .openSource _, result => result = .ok () ∧ after = { before with state := 0 }
  | .sourceLen, result => result = .ok file.size ∧ after = before
  | .hashSource, result =>
    result = .ok (sha256 file.bytes) ∧ after = { before with state := file.bytes.length }
  | .seekSource offset, result => result = .ok () ∧ after = { before with state := offset.toNat }
  | .readSource limit, result =>
    result = .ok (sourceSlice file reads limit before.state) ∧
      after = { before with
        state := before.state + (sourceSlice file reads limit before.state).length }
  | .write bytes, result => result = .ok () ∧ after = { before with sent := before.sent ++ bytes }
  | .flush, result => result = .ok () ∧ after = before
  | .readFrame _, result =>
    ∃ frame, result = .ok frame ∧ after = { before with received := before.received ++ [frame] }
  | op, result => result = answers op ∧ after = before

def WaitsForFrame : CopyOp → Prop
  | .readFrame _ => True
  | _ => False

variable {file : SourceFile} {reads : Nat → Nat} {answers : (op : CopyOp) → op.Result}

theorem copy_step_grows : Grows (CopyStep file reads answers) := by
  intro before op result after taken
  cases op with
  | readFrame _ =>
    obtain ⟨frame, _, rfl⟩ := taken
    exact List.prefix_rfl
  | write bytes =>
    obtain ⟨_, rfl⟩ := taken
    exact List.prefix_append _ _
  | _ =>
    obtain ⟨_, rfl⟩ := taken
    exact List.prefix_rfl

theorem copy_step_free (world : Sender) (op : CopyOp) (free : ¬ WaitsForFrame op) :
    ∃ result after, CopyStep file reads answers world op result after ∧
      after.received = world.received := by
  cases op with
  | readFrame _ => exact absurd trivial free
  | _ => exact ⟨_, _, ⟨rfl, rfl⟩, rfl⟩

theorem copy_step_hears (world : Sender) (op : CopyOp) (reply : StreamFrame)
    (waits : WaitsForFrame op) :
    ∃ result after, CopyStep file reads answers world op result after ∧
      after.received = world.received ++ [reply] := by
  cases op with
  | readFrame _ => exact ⟨_, _, ⟨reply, rfl, rfl⟩, rfl⟩
  | _ => exact waits.elim
end World
end Misaka.CopyCommand
