import Misaka.JobServices
import Misaka.SigningSeparation

/-!
The size of a job's result on its way back. The executor captures everything a
command prints and puts it into one message; the control channel and the TCP
transport both refuse a frame of more than four mebibytes, and the refusal ends
the delivery.
-/

namespace Misaka.JobFrames
open Bincode Identity Protocol JobManager EffectTask NodeRuntime ControlChannel JobServices
open SigningSeparation UniqueDecoding

/-- AES-256-GCM under the network's key: the ciphertext carries a tag of 16 bytes. -/
structure Cipher where
  encrypt : Bytes 12 → List UInt8 → List UInt8
  tagged : ∀ nonce data, (encrypt nonce data).length = data.length + 16

/-- `Crypto::encrypt` with the nonce it draws. -/
def encrypt (cipher : Cipher) (nonce : Bytes 12) (data : List UInt8) : List UInt8 :=
  nonce.toList ++ cipher.encrypt nonce data

def validateFrameLength (length : Nat) : Except MisakaError Unit :=
  if length > MAX_FRAME_LENGTH then .error (.frameTooLarge length MAX_FRAME_LENGTH) else .ok ()

/-- `network::write_envelope`: the bytes given to the stream. -/
def writeEnvelope (cipher : Cipher) (nonce : Bytes 12) (envelope : Envelope) :
    Except MisakaError (List UInt8) := do
  let encrypted := encrypt cipher nonce envelope.encode
  validateFrameLength encrypted.length
  pure (bigEndian 4 encrypted.length ++ encrypted)

/-- The message the executor answers a job with. -/
def jobResponse (node : NodeConfig) (job : LocalJob) (result : CommandResult)
    (started finished : UInt64) : Envelope :=
  Envelope.new node.networkId .jobResponse node.identity.id job.creator
    (jobResult node job.id job.creator result started finished).encode

-- What the executor sends back over Iroh, and no other message.
theorem return_result_sends (platform : Platform) (node : NodeConfig) (job : LocalJob)
    (result : CommandResult) (started finished : UInt64) (iroh : node.streamBackend = .iroh) :
    returnResult platform node job
        (jobResult node job.id job.creator result started finished) =
      (attempt (sendFireToPeer platform node job.creator
        (jobResponse node job result started finished)) >>= fun _ => pure ()) := by
  unfold returnResult
  rw [iroh]
  rfl

section Limits

def FitsControlChannel (envelope : Envelope) : Prop :=
  ∀ stream, writeControlFrame (ControlRequest.mk envelope false).encode stream
    (.control ⟨envelope, false⟩) ≠ .fail (.authentication "control frame is too large")

def FitsTcp (cipher : Cipher) (nonce : Bytes 12) (envelope : Envelope) : Prop :=
  ∃ bytes, writeEnvelope cipher nonce envelope = .ok bytes

-- The bytes of a message around an empty result of a job without a name.
def FIXED_RESPONSE_LENGTH : Nat := 127

def outputLength (result : CommandResult) : Nat :=
  if result.stderr.isEmpty then (utf8 result.stdout).length
  else (utf8 result.stdout).length + 1 + (utf8 result.stderr).length

variable {node : NodeConfig} {job : LocalJob} {result : CommandResult} {started finished : UInt64}
variable {cipher : Cipher} {nonce : Bytes 12}

theorem utf8_append (left right : String) : utf8 (left ++ right) = utf8 left ++ utf8 right := by
  rw [utf8, String.toList_append, List.flatMap_append]
  rfl

theorem full_output_length : (utf8 result.fullOutput).length = outputLength result := by
  unfold CommandResult.fullOutput outputLength
  split
  · rfl
  · rw [utf8_append, utf8_append, List.length_append, List.length_append]
    rfl

theorem response_length : (jobResponse node job result started finished).encode.length =
    FIXED_RESPONSE_LENGTH + (utf8 job.id).length + outputLength result := by
  simp only [jobResponse, Envelope.new, Envelope.encode, jobResult, JobResultData.encode,
    List.length_append, network_encode_length, u16_length, u64_length, variant_length, byteString,
    length64_length, text_length, full_output_length, u32, little_endian_length, Bincode.bool,
    List.length_singleton, FIXED_RESPONSE_LENGTH]
  omega

theorem control_fits_iff (envelope : Envelope) :
    FitsControlChannel envelope ↔ envelope.encode.length + 1 ≤ MAX_CONTROL_FRAME_LENGTH := by
  have size : (ControlRequest.mk envelope false).encode.length = envelope.encode.length + 1 := by
    rw [ControlRequest.encode, List.length_append]
    rfl
  unfold FitsControlChannel writeControlFrame writeFrame
  rw [size]
  by_cases fits : envelope.encode.length + 1 ≤ MAX_CONTROL_FRAME_LENGTH
  · rw [decide_eq_true fits]
    refine iff_of_true (fun stream refused => ?_) fits
    cases refused
  · rw [decide_eq_false fits]
    exact iff_of_false (fun allowed => allowed ⟨0, none⟩ rfl) fits

theorem tcp_fits_iff (envelope : Envelope) :
    FitsTcp cipher nonce envelope ↔ envelope.encode.length + 28 ≤ MAX_FRAME_LENGTH := by
  have size : (encrypt cipher nonce envelope.encode).length = envelope.encode.length + 28 := by
    rw [encrypt, List.length_append, nonce.size_eq, cipher.tagged]
    omega
  unfold FitsTcp writeEnvelope validateFrameLength
  dsimp only
  rw [size]
  by_cases fits : envelope.encode.length + 28 ≤ MAX_FRAME_LENGTH
  · rw [if_neg (Nat.not_lt.mpr fits)]
    exact iff_of_true ⟨_, rfl⟩ fits
  · rw [if_pos (Nat.not_le.mp fits)]
    refine iff_of_false ?_ fits
    rintro ⟨bytes, impossible⟩
    cases impossible

theorem repeated_output_length (count : Nat) :
    outputLength ⟨String.ofList (List.replicate count 'x'), "", 0⟩ = count := by
  have quiet : "".isEmpty = true := by decide
  refine (if_pos quiet).trans ?_
  rw [utf8, String.toList_ofList, ascii_utf8_length, List.length_replicate]
  intro char member
  rw [List.eq_of_mem_replicate member]
  rfl

def sampleCipher : Cipher where
  encrypt _ data := data ++ List.replicate 16 0
  tagged _ data := by rw [List.length_append, List.length_replicate]
end Limits
end Misaka.JobFrames
