import Misaka.EnrollmentContracts
import Misaka.NodeRuntime

/-!
The enrollment protocol of an authority Sister. One stream carries one
redemption: a request with an invite, the challenge, the proof and the response.
The invite is judged once, when the request has been read; the membership is
dated when the proof has been accepted, by another reading of the clock.

Streams, the clock, randomness and the serial allocator are operations. SHA-256
is one as well, so that a run says which messages were hashed.
-/

namespace Misaka.Enrollment
open Bincode Identity EnrollmentContracts EffectTask
open NodeRuntime (Decoder)
variable {State : Type}

def MAX_ENROLLMENT_FRAME_LENGTH : Nat := 512 * 1024

-- Every read and write is bounded by a timeout of its own.
inductive StreamError where
  | io (message : String)
  | timedOut
deriving DecidableEq

inductive EnrollmentOp where
  | nowSecs
  | random32
  | sha256 (message : List UInt8)
  | allocate
  | sign (key : PublicKey) (message : List UInt8)
  | readExact (count : Nat)
  | writeAll (bytes : List UInt8)
  | flush
deriving DecidableEq

abbrev EnrollmentOp.Result : EnrollmentOp → Type
  | .nowSecs => UInt64
  | .random32 => Bytes 32
  | .sha256 _ => Bytes 32
  | .allocate => Except String UInt64
  | .sign _ _ => Signature
  | .readExact _ => Except StreamError (List UInt8)
  | .writeAll _ => Except StreamError Unit
  | .flush => Except StreamError Unit

abbrev EnrollmentTask (Err Val : Type) := Task EnrollmentOp EnrollmentOp.Result Err Val

structure Platform where
  verifies : SignatureCheck
  sha256 : List UInt8 → Bytes 32
  request : Decoder EnrollmentRequest
  proof : Decoder EnrollmentProof

inductive EnrollmentRejectionKind where
  | invalidInvite | expired | wrongNetwork | invalidProof | protocol | issuanceFailed
deriving DecidableEq

def EnrollmentRejectionKind.toCore : EnrollmentRejectionKind → EnrollmentRejection
  | .invalidInvite => .invalidInvite
  | .expired => .expired
  | .wrongNetwork => .wrongNetwork
  | .invalidProof => .invalidProof
  | .protocol => .protocolVersion
  | .issuanceFailed => .issuanceFailed

inductive EnrollmentFailure where
  | transport (reason : String)
  | protocol
  | rejected (reason : EnrollmentRejectionKind)
deriving DecidableEq

inductive ServerReply where
  | challenge (challenge : EnrollmentChallenge)
  | rejected (reason : EnrollmentRejection)
deriving DecidableEq

def ServerReply.encode : ServerReply → List UInt8
  | .challenge sent => variant 0 ++ sent.signingBytes
  | .rejected reason => variant 1 ++ reason.encode

structure EnrollmentServer where
  networkId : NetworkId
  authority : NetworkAuthority
  authorityKey : PublicKey
  sisterId : SisterId
  irohEndpointId : IrohEndpointId
  locator : PeerRecord
  extraBootstrap : List PeerRecord
deriving DecidableEq

section Frames
variable {Value : Type}

def StreamError.failure (stage timeout : String) : StreamError → EnrollmentFailure
  | .io message => .transport (stage ++ message)
  | .timedOut => .transport timeout

def readFrame (decode : Decoder Value) : EnrollmentTask EnrollmentFailure Value := do
  let header ← perform (.readExact 4)
  let header ← orError (StreamError.failure "read len: " "read timed out") header
  ensure (ofBigEndian header ≤ MAX_ENROLLMENT_FRAME_LENGTH) .protocol
  let payload ← perform (.readExact (ofBigEndian header))
  let payload ← orError (StreamError.failure "read body: " "read timed out") payload
  orError (fun error => .transport ("decode: " ++ error)) (decode payload)

def writeFrame (payload : List UInt8) : EnrollmentTask EnrollmentFailure Unit := do
  ensure (payload.length ≤ MAX_ENROLLMENT_FRAME_LENGTH) .protocol
  let written ← perform (.writeAll (bigEndian 4 payload.length))
  orError (StreamError.failure "write len: " "write timed out") written
  let written ← perform (.writeAll payload)
  orError (StreamError.failure "write body: " "write timed out") written
  let flushed ← perform .flush
  orError (StreamError.failure "flush: " "write timed out") flushed
end Frames

section Serving
variable (platform : Platform) (server : EnrollmentServer)

/-- `evaluate`: the invite has to verify now, and to name this Network, this
authority and this Sister's endpoint. -/
def evaluate (request : EnrollmentRequest) :
    EnrollmentTask EnrollmentRejectionKind EnrollmentChallenge := do
  let now ← perform .nowSecs
  ensure (request.invite.verify platform.verifies now)
    (if request.invite.isExpired now then .expired else .invalidInvite)
  ensure (request.invite.networkId == server.networkId &&
    request.invite.authority == server.authority) .wrongNetwork
  ensure (request.invite.locator.sisterId == server.sisterId &&
    request.invite.locator.transportBinding.irohEndpointId == server.irohEndpointId) .invalidInvite
  let digest ← perform (.sha256 request.invite.signingBytes)
  let nonce ← perform .random32
  pure (EnrollmentChallenge.new server.networkId digest request.sisterId request.sisterPublicKey
    nonce request.recipientNonce)

-- `dedup_by` keeps the first record of each run of equal ids.
def dedupBySister : Option SisterId → List PeerRecord → List PeerRecord
  | _, [] => []
  | previous, record :: rest =>
    if previous = some record.sisterId then dedupBySister previous rest
    else record :: dedupBySister (some record.sisterId) rest

def bootstrap : List PeerRecord :=
  dedupBySister none
    ((server.locator :: server.extraBootstrap).mergeSort fun left right =>
      decide (left.sisterId ≤ right.sisterId))

variable (request : EnrollmentRequest)

/-- The certificate before the authority signs it. -/
def draftMembership (now serial : UInt64) : MembershipCertificate :=
  ⟨server.authority.networkId, request.sisterPublicKey, request.sisterId, now, none, serial,
    Bytes.fill 64 0⟩

def issueMembership (serial : UInt64) :
    EnrollmentTask EnrollmentFailure EnrollmentResponse := do
  let now ← perform .nowSecs
  let signature ← perform
    (.sign server.authorityKey (draftMembership server request now serial).signingBytes)
  pure (EnrollmentResponse.accepted server.authority
    { draftMembership server request now serial with authoritySignature := signature }
    (bootstrap server))

def respond (challenge : EnrollmentChallenge) (proof : EnrollmentProof) :
    EnrollmentTask EnrollmentFailure EnrollmentResponse :=
  if challenge.verify platform.verifies proof then do
    let allocated : Except String UInt64 ← perform EnrollmentOp.allocate
    match allocated with
    | .ok serial => issueMembership server request serial
    | .error _ => pure (EnrollmentResponse.rejected EnrollmentRejectionKind.issuanceFailed.toCore)
  else
    pure (EnrollmentResponse.rejected EnrollmentRejectionKind.invalidProof.toCore)

def isAccepted (response : EnrollmentResponse) : Bool :=
  match response.outcome with
  | .accepted _ _ _ => true
  | .rejected _ => false

def serveStream : EnrollmentTask EnrollmentFailure Unit := do
  let request ← readFrame platform.request
  ensure (request.protocolVersion == ENROLLMENT_PROTOCOL_VERSION) .protocol
  let evaluated ← attempt (evaluate platform server request)
  match evaluated with
  | .error reason => do
      writeFrame (ServerReply.rejected reason.toCore).encode
      .fail (.rejected reason)
  | .ok challenge => do
      writeFrame (ServerReply.challenge challenge).encode
      let proof ← readFrame platform.proof
      let response ← respond platform server request challenge proof
      writeFrame response.encode
      ensure (isAccepted response) (.rejected .issuanceFailed)
end Serving

variable {step : State → (op : EnrollmentOp) → op.Result → State → Prop} {platform : Platform}
variable {server : EnrollmentServer}

/-! What a session has done when it signs a membership. -/
section Redemptions

abbrev EnrollmentTrace (State : Type) := List (Event EnrollmentOp EnrollmentOp.Result State)

def reading (event : Event EnrollmentOp EnrollmentOp.Result State) : Option UInt64 :=
  match event with
  | ⟨_, .nowSecs, now, _⟩ => some now
  | _ => none

-- The clock readings of a session, newest first.
def readings (trace : EnrollmentTrace State) : List UInt64 := trace.filterMap reading

/-- The request is the first frame of the session's stream. -/
def Requested (platform : Platform) (request : EnrollmentRequest)
    (trace : EnrollmentTrace State) : Prop :=
  ∃ later header payload, ∃ s₁ s₂ s₃ s₄ : State,
    trace = later ++ [⟨s₃, .readExact (ofBigEndian header), .ok payload, s₄⟩,
      ⟨s₁, .readExact 4, .ok header, s₂⟩] ∧
    platform.request payload = .ok request

/-- The first half of a redemption: what was asked, when it was judged and what
the challenge was made with. -/
structure Exchange where
  request : EnrollmentRequest
  checkedAt : UInt64
  digest : Bytes 32
  nonce : Bytes 32

structure Redemption extends Exchange where
  proof : EnrollmentProof
  serial : UInt64
  issuedAt : UInt64

def Exchange.challenge (server : EnrollmentServer) (exchange : Exchange) : EnrollmentChallenge :=
  EnrollmentChallenge.new server.networkId exchange.digest exchange.request.sisterId
    exchange.request.sisterPublicKey exchange.nonce exchange.request.recipientNonce

def Redemption.membership (server : EnrollmentServer) (redemption : Redemption) :
    MembershipCertificate :=
  draftMembership server redemption.request redemption.issuedAt redemption.serial

-- The invite names this server's Network, authority and endpoint.
structure Addressed (server : EnrollmentServer) (invite : EnrollmentInvite) : Prop where
  network : invite.networkId = server.networkId
  authority : invite.authority = server.authority
  locator : invite.locator.sisterId = server.sisterId
  endpoint : invite.locator.transportBinding.irohEndpointId = server.irohEndpointId

/-- The challenge has been made: the request was read, its invite verified at a
reading of the clock, and the nonce drawn. -/
structure Exchange.Challenged (platform : Platform) (server : EnrollmentServer)
    (exchange : Exchange) (trace : EnrollmentTrace State) : Prop where
  requested : Requested platform exchange.request trace
  verified : exchange.request.invite.verify platform.verifies exchange.checkedAt = true
  addressed : Addressed server exchange.request.invite
  checked : Answered trace .nowSecs exchange.checkedAt
  digested : Answered trace (.sha256 exchange.request.invite.signingBytes) exchange.digest
  drawn : Answered trace .random32 exchange.nonce

def ProofRead (platform : Platform) (proof : EnrollmentProof) (trace : EnrollmentTrace State) :
    Prop :=
  ∃ count payload, Answered trace (.readExact count) (.ok payload) ∧
    platform.proof payload = .ok proof

-- The proof was read from the stream and verifies for the challenge.
structure Exchange.Proved (platform : Platform) (server : EnrollmentServer) (exchange : Exchange)
    (proof : EnrollmentProof) (trace : EnrollmentTrace State) : Prop where
  read : ProofRead platform proof trace
  verified : (exchange.challenge server).verify platform.verifies proof = true

structure Redemption.Performed (platform : Platform) (server : EnrollmentServer)
    (redemption : Redemption) (trace : EnrollmentTrace State) : Prop where
  challenged : redemption.Challenged platform server trace
  proved : redemption.Proved platform server redemption.proof trace
  allocated : Answered trace .allocate (.ok redemption.serial)
  readings : readings trace = [redemption.issuedAt, redemption.checkedAt]

-- A membership is signed only at the end of a redemption.
def SignsRedeemed (platform : Platform) (server : EnrollmentServer)
    (trace : EnrollmentTrace State) (op : EnrollmentOp) : Prop :=
  ∀ key message, op = .sign key message → ∃ redemption : Redemption,
    key = server.authorityKey ∧ message = (redemption.membership server).signingBytes ∧
      redemption.Performed platform server trace

variable {trace longer : EnrollmentTrace State}

def IsStreamOp : EnrollmentOp → Prop
  | .readExact _ | .writeAll _ | .flush => True
  | _ => False

theorem readings_now (before after : State) (now : UInt64) :
    readings (⟨before, .nowSecs, now, after⟩ :: trace) = now :: readings trace := rfl

theorem readings_other {event : Event EnrollmentOp EnrollmentOp.Result State}
    (other : event.op ≠ .nowSecs) : readings (event :: trace) = readings trace := by
  obtain ⟨before, op, result, after⟩ := event
  cases op with
  | nowSecs => exact absurd rfl other
  | _ => rfl

theorem readings_extends (extended : Extends IsStreamOp trace longer) :
    readings longer = readings trace := by
  obtain ⟨new, rfl, streams⟩ := extended
  induction new with
  | nil => rfl
  | cons event earlier ih =>
    have stream := streams event List.mem_cons_self
    have other : event.op ≠ .nowSecs := by
      intro same
      rw [same] at stream
      exact stream
    rw [List.cons_append, readings_other other]
    exact ih fun next member => streams next (List.mem_cons_of_mem event member)

variable {request : EnrollmentRequest}

theorem requested_suffix (kept : trace <:+ longer) (requested : Requested platform request trace) :
    Requested platform request longer := by
  obtain ⟨new, rfl⟩ := kept
  obtain ⟨later, header, payload, s₁, s₂, s₃, s₄, rfl, decoded⟩ := requested
  exact ⟨new ++ later, header, payload, s₁, s₂, s₃, s₄, by simp, decoded⟩

variable {exchange : Exchange}

theorem challenged_suffix (kept : trace <:+ longer)
    (challenged : exchange.Challenged platform server trace) :
    exchange.Challenged platform server longer where
  requested := requested_suffix kept challenged.requested
  verified := challenged.verified
  addressed := challenged.addressed
  checked := answered_suffix kept challenged.checked
  digested := answered_suffix kept challenged.digested
  drawn := answered_suffix kept challenged.drawn

theorem stream_op_signs_nothing {op : EnrollmentOp} (stream : IsStreamOp op) :
    SignsRedeemed platform server trace op := by
  rintro key message rfl
  exact stream.elim

theorem only_read_frame {Value : Type} (decode : Decoder Value) :
    Only IsStreamOp (readFrame decode) := by
  apply only_bind
  · simp [IsStreamOp]
  intro header
  apply only_bind
  · simp
  intro header
  apply only_bind
  · simp
  intro _
  apply only_bind
  · simp [IsStreamOp]
  intro payload
  apply only_bind
  · simp
  intro payload
  simp

theorem only_write_frame (payload : List UInt8) : Only IsStreamOp (writeFrame payload) := by
  apply only_bind
  · simp
  intro _
  apply only_bind
  · simp [IsStreamOp]
  intro written
  apply only_bind
  · simp
  intro _
  apply only_bind
  · simp [IsStreamOp]
  intro written
  apply only_bind
  · simp
  intro _
  apply only_bind
  · simp [IsStreamOp]
  intro flushed
  simp

/-! Each part of the exchange keeps the guard and says what it adds. -/

theorem read_request_spec :
    Holds (traceStep step) (SignsRedeemed platform server) (readFrame platform.request)
      (fun longer request => Requested platform request longer ∧ readings longer = [])
      (fun _ _ => True) [] := by
  simp only [readFrame, holds_bind, holds_trace_perform, holds_or_error, holds_ensure,
    implies_true, and_true]
  constructor
  · exact stream_op_signs_nothing trivial
  intro _ s₁ s₂ _ header delivered _
  constructor
  · exact stream_op_signs_nothing trivial
  intro _ s₃ s₄ _ payload arrived request decoded
  subst delivered arrived
  exact ⟨⟨[], header, payload, s₁, s₂, s₃, s₄, rfl, decoded⟩, rfl⟩

theorem write_frame_spec (payload : List UInt8) :
    Holds (traceStep step) (SignsRedeemed platform server) (writeFrame payload)
      (fun longer _ => Extends IsStreamOp trace longer) (fun _ _ => True) trace := by
  refine holds_mono (holds_of_only (only_write_frame payload) ?_) (fun _ _ kept => kept)
    fun _ _ _ => trivial
  intro longer op _ stream
  exact stream_op_signs_nothing stream

theorem read_proof_spec :
    Holds (traceStep step) (SignsRedeemed platform server) (readFrame platform.proof)
      (fun longer proof => ProofRead platform proof longer ∧ Extends IsStreamOp trace longer)
      (fun _ _ => True) trace := by
  have read : Holds (traceStep step) (fun _ _ => True) (readFrame platform.proof)
      (fun longer proof => ProofRead platform proof longer) (fun _ _ => True) trace := by
    simp only [readFrame, holds_bind, holds_trace_perform, holds_or_error, holds_ensure,
      implies_true, and_true, true_and]
    intro _ _ _ _ header _ _ _ s₃ s₄ _ payload arrived proof decoded
    subst arrived
    exact ⟨_, payload, answered_head, decoded⟩
  refine holds_mono (holds_guarded read (only_read_frame platform.proof) ?_)
    (fun _ _ kept => kept) fun _ _ _ => trivial
  intro longer op _ stream
  exact stream_op_signs_nothing stream

theorem evaluate_spec (requested : Requested platform request trace)
    (unread : readings trace = []) :
    Holds (traceStep step) (SignsRedeemed platform server) (evaluate platform server request)
      (fun longer challenge => ∃ exchange : Exchange, exchange.request = request ∧
        challenge = exchange.challenge server ∧ exchange.Challenged platform server longer ∧
        readings longer = [exchange.checkedAt])
      (fun _ _ => True) trace := by
  have silent : ∀ {longer : EnrollmentTrace State} {op : EnrollmentOp},
      (∀ key message, op ≠ .sign key message) → SignsRedeemed platform server longer op :=
    fun other key message same => absurd same (other key message)
  simp only [evaluate, holds_bind, holds_trace_perform, holds_ensure, holds_pure, implies_true,
    and_true, Bool.and_eq_true, beq_iff_eq]
  constructor
  · exact silent (by simp)
  rintro now s₁ s₂ _ verified ⟨network, authority⟩ ⟨locator, endpoint⟩
  constructor
  · exact silent (by simp)
  intro digest s₃ s₄ _
  constructor
  · exact silent (by simp)
  intro nonce s₅ s₆ _
  refine ⟨⟨request, now, digest, nonce⟩, rfl, rfl, ?_, ?_⟩
  · exact {
      requested := requested_suffix ⟨[_, _, _], rfl⟩ requested
      verified := verified
      addressed := ⟨network, authority, locator, endpoint⟩
      checked := ⟨s₁, s₂, by simp⟩
      digested := ⟨s₃, s₄, by simp⟩
      drawn := answered_head }
  · exact congrArg (now :: ·) unread

theorem respond_spec {proof : EnrollmentProof}
    (challenged : exchange.Challenged platform server trace) (read : ProofRead platform proof trace)
    (once : readings trace = [exchange.checkedAt]) :
    Holds (traceStep step) (SignsRedeemed platform server)
      (respond platform server exchange.request (exchange.challenge server) proof)
      (fun _ _ => True) (fun _ _ => True) trace := by
  unfold respond
  split
  · rename_i verified
    simp only [holds_bind, holds_trace_perform]
    constructor
    · rintro _ _ ⟨⟩
    intro allocated s₁ s₂ _
    cases allocated with
    | error error => simp
    | ok serial =>
      simp only [issueMembership, holds_bind, holds_trace_perform, holds_pure, implies_true,
        and_true]
      constructor
      · rintro _ _ ⟨⟩
      intro now s₃ s₄ _
      rintro key message ⟨rfl, rfl⟩
      have kept : trace <:+ _ := ⟨[⟨s₃, .nowSecs, now, s₄⟩, ⟨s₁, .allocate, .ok serial, s₂⟩], rfl⟩
      obtain ⟨count, payload, arrived, decoded⟩ := read
      refine ⟨⟨exchange, proof, serial, now⟩, rfl, rfl, challenged_suffix kept challenged,
        ⟨⟨count, payload, answered_suffix kept arrived, decoded⟩, verified⟩, ?_, ?_⟩
      · exact ⟨s₁, s₂, by simp⟩
      · exact congrArg (now :: ·) once
  · simp

/-- In every run of `serveStream` a membership is signed only at the end of a
redemption that this same session performed. -/
theorem serve_stream_guarded :
    Holds (traceStep step) (SignsRedeemed platform server) (serveStream platform server)
      (fun _ _ => True) (fun _ _ => True) [] := by
  simp only [serveStream, holds_bind, holds_ensure, holds_attempt, implies_true, and_true]
  refine holds_mono read_request_spec ?_ fun _ _ _ => trivial
  rintro asked request ⟨requested, unread⟩ _
  refine holds_mono (evaluate_spec requested unread) ?_ ?_
  · rintro posed challenge ⟨exchange, rfl, rfl, challenged, once⟩
    refine holds_mono (write_frame_spec _) ?_ fun _ _ _ => trivial
    intro sent _ sending
    refine holds_mono read_proof_spec ?_ fun _ _ _ => trivial
    rintro answered proof ⟨read, reading⟩
    have kept := (extends_suffix sending).trans (extends_suffix reading)
    have stillOnce : readings answered = [exchange.checkedAt] := by
      rw [readings_extends reading, readings_extends sending, once]
    refine holds_mono (respond_spec (challenged_suffix kept challenged) read stillOnce) ?_
      fun _ _ _ => trivial
    intro signed response _
    exact holds_mono (write_frame_spec _) (fun _ _ _ => trivial) fun _ _ _ => trivial
  · intro refused reason _
    simp only [holds_fail]
    exact holds_mono (write_frame_spec _) (fun _ _ _ => trivial) fun _ _ _ => trivial
end Redemptions

/-! The same exchange when it succeeds, as runs. -/
section Runs
variable {trace : EnrollmentTrace State}

def readEvents (before after : State) (payload : List UInt8) : EnrollmentTrace State :=
  [⟨before, .readExact (ofBigEndian (bigEndian 4 payload.length)), .ok payload, after⟩,
    ⟨before, .readExact 4, .ok (bigEndian 4 payload.length), before⟩]

def writeEvents (state : State) (payload : List UInt8) : EnrollmentTrace State :=
  [⟨state, .flush, .ok (), state⟩, ⟨state, .writeAll payload, .ok (), state⟩,
    ⟨state, .writeAll (bigEndian 4 payload.length), .ok (), state⟩]

variable {payload : List UInt8}

theorem read_frame_runs {Value : Type} {decode : Decoder Value} {value : Value}
    {before after : State} (steps : ∀ event ∈ readEvents before after payload,
      step event.before event.op event.result event.after)
    (small : payload.length ≤ MAX_ENROLLMENT_FRAME_LENGTH) (decoded : decode payload = .ok value) :
    Reaches (traceStep step) (readFrame decode) trace (.done value)
      (readEvents before after payload ++ trace) := by
  have announced : ofBigEndian (bigEndian 4 payload.length) ≤ MAX_ENROLLMENT_FRAME_LENGTH := by
    rw [of_big_endian_encoding]
    · exact small
    · unfold MAX_ENROLLMENT_FRAME_LENGTH at small
      omega
  simp only [readEvents, List.forall_mem_cons, List.not_mem_nil, false_implies, implies_true,
    and_true] at steps
  apply reaches_perform steps.2
  simp only [or_error_ok, done_bind, decide_eq_true announced, ensure_true]
  apply reaches_perform steps.1
  simp only [or_error_ok, done_bind, decoded]
  exact .here _ _

theorem write_frame_runs {state : State} (steps : ∀ event ∈ writeEvents state payload,
      step event.before event.op event.result event.after)
    (small : payload.length ≤ MAX_ENROLLMENT_FRAME_LENGTH) :
    Reaches (traceStep step) (writeFrame payload) trace (.done ())
      (writeEvents state payload ++ trace) := by
  simp only [writeEvents, List.forall_mem_cons, List.not_mem_nil, false_implies, implies_true,
    and_true] at steps
  unfold writeFrame
  simp only [decide_eq_true small, ensure_true, done_bind]
  apply reaches_perform steps.2.2
  apply reaches_perform steps.2.1
  apply reaches_perform steps.1
  exact .here _ _

-- The request is read and judged and the challenge written.
def challengeEvents (server : EnrollmentServer) (exchange : Exchange) (asked hashed drawn : State) :
    EnrollmentTrace State :=
  writeEvents drawn (ServerReply.challenge (exchange.challenge server)).encode ++
    [⟨hashed, .random32, exchange.nonce, drawn⟩,
      ⟨asked, .sha256 exchange.request.invite.signingBytes, exchange.digest, hashed⟩,
      ⟨asked, .nowSecs, exchange.checkedAt, asked⟩] ++
    readEvents asked asked exchange.request.encode

def Redemption.response (server : EnrollmentServer) (redemption : Redemption)
    (signature : Signature) : EnrollmentResponse :=
  EnrollmentResponse.accepted server.authority
    { redemption.membership server with authoritySignature := signature } (bootstrap server)

-- The proof is read, a serial allocated and the clock read again.
def provedEvents (redemption : Redemption) (proved : State) : EnrollmentTrace State :=
  [⟨proved, .nowSecs, redemption.issuedAt, proved⟩,
    ⟨proved, .allocate, .ok redemption.serial, proved⟩] ++
    readEvents proved proved redemption.proof.encode

-- The membership is signed and the response written.
def issueEvents (server : EnrollmentServer) (redemption : Redemption) (signature : Signature)
    (proved signed : State) : EnrollmentTrace State :=
  writeEvents signed (redemption.response server signature).encode ++
    ⟨proved, .sign server.authorityKey (redemption.membership server).signingBytes, signature,
      signed⟩ :: provedEvents redemption proved

/-- What makes a redemption go through. -/
structure Redemption.Acceptable (platform : Platform) (server : EnrollmentServer)
    (redemption : Redemption) (signature : Signature) : Prop where
  requestDecodes : platform.request redemption.request.encode = .ok redemption.request
  version : redemption.request.protocolVersion = ENROLLMENT_PROTOCOL_VERSION
  verified : redemption.request.invite.verify platform.verifies redemption.checkedAt = true
  addressed : Addressed server redemption.request.invite
  proofDecodes : platform.proof redemption.proof.encode = .ok redemption.proof
  proved : (redemption.challenge server).verify platform.verifies redemption.proof = true
  requestFits : redemption.request.encode.length ≤ MAX_ENROLLMENT_FRAME_LENGTH
  challengeFits : (ServerReply.challenge (redemption.challenge server)).encode.length ≤
    MAX_ENROLLMENT_FRAME_LENGTH
  proofFits : redemption.proof.encode.length ≤ MAX_ENROLLMENT_FRAME_LENGTH
  responseFits : (redemption.response server signature).encode.length ≤
    MAX_ENROLLMENT_FRAME_LENGTH

variable {redemption : Redemption} {signature : Signature}

theorem serve_stream_runs {asked hashed drawn proved signed : State}
    (acceptable : redemption.Acceptable platform server signature)
    (steps : ∀ event ∈ issueEvents server redemption signature proved signed ++
      challengeEvents server redemption.toExchange asked hashed drawn,
      step event.before event.op event.result event.after) :
    Reaches (traceStep step) (serveStream platform server) [] (.done ())
      (issueEvents server redemption signature proved signed ++
        challengeEvents server redemption.toExchange asked hashed drawn) := by
  simp only [issueEvents, provedEvents, challengeEvents, List.forall_mem_append,
    List.forall_mem_cons, List.not_mem_nil, false_implies, implies_true, and_true] at steps
  obtain ⟨⟨answering, signing, ⟨dating, allocating⟩, proving⟩, ⟨posing, drawing, hashing, judging⟩,
    asking⟩ := steps
  have addressed := acceptable.addressed
  have judged : Reaches (traceStep step)
      (attempt (evaluate platform server redemption.request) :
        EnrollmentTask EnrollmentFailure (Except EnrollmentRejectionKind EnrollmentChallenge))
      (readEvents asked asked redemption.request.encode)
      (.done (.ok (redemption.challenge server)))
      ([⟨hashed, .random32, redemption.nonce, drawn⟩,
        ⟨asked, .sha256 redemption.request.invite.signingBytes, redemption.digest, hashed⟩,
        ⟨asked, .nowSecs, redemption.checkedAt, asked⟩] ++
        readEvents asked asked redemption.request.encode) := by
    apply reaches_attempt
    apply reaches_perform judging
    simp only [acceptable.verified, addressed.network, addressed.authority, addressed.locator,
      addressed.endpoint, beq_self_eq_true, Bool.and_self, ensure_true, done_bind]
    apply reaches_perform hashing
    apply reaches_perform drawing
    exact .here _ _
  apply reaches_bind
  · exact read_frame_runs asking acceptable.requestFits acceptable.requestDecodes
  simp only [acceptable.version, beq_self_eq_true, ensure_true, done_bind, List.append_nil]
  apply reaches_bind judged
  apply reaches_bind
  · exact write_frame_runs posing acceptable.challengeFits
  apply reaches_bind
  · exact read_frame_runs proving acceptable.proofFits acceptable.proofDecodes
  simp only [respond, acceptable.proved, ↓reduceIte, issueMembership, bind_assoc]
  apply reaches_perform allocating
  simp only [bind_assoc]
  apply reaches_perform dating
  apply reaches_perform signing
  simp only [pure_is_done, done_bind]
  apply reaches_bind
  · exact write_frame_runs answering acceptable.responseFits
  exact .here _ _

theorem redemption_performed {asked hashed drawn proved : State}
    (acceptable : redemption.Acceptable platform server signature) :
    redemption.Performed platform server (provedEvents redemption proved ++
      challengeEvents server redemption.toExchange asked hashed drawn) := by
  have asking : Requested platform redemption.request
      (readEvents asked asked redemption.request.encode) :=
    ⟨[], _, _, asked, asked, asked, asked, rfl, acceptable.requestDecodes⟩
  have kept : readEvents asked asked redemption.request.encode <:+
      challengeEvents server redemption.toExchange asked hashed drawn := List.suffix_append _ _
  exact {
    challenged := {
      requested := requested_suffix (kept.trans (List.suffix_append _ _)) asking
      verified := acceptable.verified
      addressed := acceptable.addressed
      checked := ⟨asked, asked, by simp [challengeEvents]⟩
      digested := ⟨asked, hashed, by simp [challengeEvents]⟩
      drawn := ⟨hashed, drawn, by simp [challengeEvents]⟩ }
    proved := ⟨⟨_, _, ⟨proved, proved, by simp [provedEvents, readEvents]; exact Or.inl rfl⟩,
      acceptable.proofDecodes⟩, acceptable.proved⟩
    allocated := ⟨proved, proved, by simp [provedEvents]⟩
    readings := rfl }
end Runs

/-! The records a new member starts from. -/
section Bootstrap
variable {records : List PeerRecord} {previous : Option SisterId}

theorem dedup_ascending (sorted : records.Pairwise fun left right => left.sisterId ≤ right.sisterId)
    (onward : ∀ id ∈ previous, ∀ record ∈ records, id ≤ record.sisterId) :
    (dedupBySister previous records).Pairwise (fun left right => left.sisterId < right.sisterId) ∧
      ∀ id, id ∈ (dedupBySister previous records).map PeerRecord.sisterId ↔
        id ∈ records.map PeerRecord.sisterId ∧ previous ≠ some id := by
  induction records generalizing previous with
  | nil => exact ⟨List.Pairwise.nil, by simp [dedupBySister]⟩
  | cons record rest ih =>
    obtain ⟨first, sorted⟩ := List.pairwise_cons.mp sorted
    rw [dedupBySister]
    split
    · rename_i same
      subst same
      obtain ⟨ascending, ids⟩ := ih sorted fun id known other member =>
        onward id known other (List.mem_cons_of_mem _ member)
      refine ⟨ascending, fun id => ?_⟩
      rw [ids, List.map_cons, List.mem_cons]
      constructor
      · exact fun ⟨member, different⟩ => ⟨Or.inr member, different⟩
      · rintro ⟨rfl | member, different⟩
        · exact absurd rfl different
        · exact ⟨member, different⟩
    · rename_i unlike
      obtain ⟨ascending, ids⟩ := @ih (some record.sisterId) sorted fun id known other member => by
        cases known
        exact first other member
      constructor
      · refine List.pairwise_cons.mpr ⟨fun other member => ?_, ascending⟩
        obtain ⟨listed, different⟩ := (ids other.sisterId).mp (List.mem_map_of_mem member)
        obtain ⟨found, member, same⟩ := List.mem_map.mp listed
        have le := first found member
        rw [same] at le
        exact UInt64.lt_of_le_of_ne le fun equal => different (congrArg some equal)
      · intro id
        rw [List.map_cons, List.map_cons, List.mem_cons, List.mem_cons, ids]
        by_cases same : id = record.sisterId
        · subst same
          simp [unlike]
        · have apart : some record.sisterId ≠ some id :=
            fun equal => same (Option.some.inj equal).symm
          have earlier : id ∈ rest.map PeerRecord.sisterId → previous ≠ some id := by
            rintro listed rfl
            obtain ⟨found, member, rfl⟩ := List.mem_map.mp listed
            exact same (UInt64.le_antisymm (onward _ rfl record List.mem_cons_self)
              (first found member))
          simp only [same, false_or, apart, ne_eq, not_false_eq_true, and_true]
          exact ⟨fun listed => ⟨listed, earlier listed⟩, fun both => both.1⟩

theorem dedup_first {earlier later : List PeerRecord} {record : PeerRecord}
    (unlike : previous ≠ some record.sisterId)
    (before : ∀ other ∈ earlier, other.sisterId ≠ record.sisterId) :
    record ∈ dedupBySister previous (earlier ++ record :: later) := by
  induction earlier generalizing previous with
  | nil =>
    rw [List.nil_append, dedupBySister, if_neg unlike]
    exact List.mem_cons_self
  | cons other rest ih =>
    have others := fun another member => before another (List.mem_cons_of_mem _ member)
    rw [List.cons_append, dedupBySister]
    split
    · exact ih unlike others
    · refine List.mem_cons_of_mem _ (ih (fun same => ?_) others)
      exact before other List.mem_cons_self (Option.some.inj same)

/-- What the recipient may rely on, whatever the order of the other records. -/
structure BootstrapList (server : EnrollmentServer) (records : List PeerRecord) : Prop where
  sorted : records.Pairwise fun left right => left.sisterId < right.sisterId
  ids : ∀ id, id ∈ records.map PeerRecord.sisterId ↔
    id ∈ (server.locator :: server.extraBootstrap).map PeerRecord.sisterId
  own : ∀ record ∈ records, record.sisterId = server.locator.sisterId → record = server.locator

theorem bootstrap_list (server : EnrollmentServer) : BootstrapList server (bootstrap server) := by
  have trans : ∀ left middle right : PeerRecord, decide (left.sisterId ≤ middle.sisterId) = true →
      decide (middle.sisterId ≤ right.sisterId) = true →
      decide (left.sisterId ≤ right.sisterId) = true := by
    intro left middle right first second
    exact decide_eq_true (UInt64.le_trans (of_decide_eq_true first) (of_decide_eq_true second))
  have total : ∀ left right : PeerRecord, (decide (left.sisterId ≤ right.sisterId) ||
      decide (right.sisterId ≤ left.sisterId)) = true := by
    intro left right
    simpa using UInt64.le_total left.sisterId right.sisterId
  have sorted := (List.pairwise_mergeSort trans total
    (server.locator :: server.extraBootstrap)).imp of_decide_eq_true
  have perm := List.mergeSort_perm (server.locator :: server.extraBootstrap)
    fun left right => decide (left.sisterId ≤ right.sisterId)
  -- The sort is stable: the locator came first and stays before the records of its id.
  obtain ⟨earlier, later, split, -, smaller⟩ :=
    List.mergeSort_cons trans total server.locator server.extraBootstrap
  obtain ⟨ascending, ids⟩ := @dedup_ascending _ none sorted (by simp)
  have own : server.locator ∈ bootstrap server := by
    rw [bootstrap, split]
    refine dedup_first (by simp) fun other member same => ?_
    have less := smaller other member
    simp [same] at less
  refine ⟨ascending, fun id => ?_, fun record member same => ?_⟩
  · refine (ids id).trans ?_
    rw [(perm.map _).mem_iff]
    simp
  · have distinct : ((bootstrap server).map PeerRecord.sisterId).Nodup :=
      List.pairwise_map.mpr (ascending.imp UInt64.ne_of_lt)
    exact List.inj_on_of_nodup_map distinct member own same
end Bootstrap
end Misaka.Enrollment
