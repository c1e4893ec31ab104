import Misaka.Enrollment
import Misaka.Sha256
import Misaka.SigningSeparation
import Misaka.TaskPool

/-!
Enrollment under an active attacker and a moving clock. Any number of
redemptions run on any authority hosts; what arrives on a stream is up to the
attacker, who also holds keys of its own. The world keeps every message that was
signed or hashed and every nonce that was drawn, so that unforgeable signatures,
collision-free hashing and fresh nonces are statements about one run.
-/

namespace Misaka.EnrollmentAgreement
open Bincode Identity EnrollmentContracts EffectTask Enrollment TaskPool SigningSeparation
open NodeRuntime (recognise recognise_first recognise_known recognise_encoded)
variable {Host : Type} {platform : Platform} {Index : Type}

structure World (Host : Type) where
  clock : Host → UInt64
  signed : Set (PublicKey × List UInt8)
  hashed : Set (List UInt8)
  drawn : Set (Bytes 32)

structure Session (Host : Type) where
  host : Host
  server : EnrollmentServer

def World.record (world : World Host) (op : EnrollmentOp) (result : op.Result) : World Host :=
  match op, result with
  | .sign key message, _ => { world with signed := insert (key, message) world.signed }
  | .sha256 message, _ => { world with hashed := insert message world.hashed }
  | .random32, nonce => { world with drawn := insert nonce world.drawn }
  | _, _ => world

def Answers (platform : Platform) (host : Host) (world : World Host) (op : EnrollmentOp)
    (result : op.Result) : Prop :=
  match op, result with
  | .nowSecs, now => now = world.clock host
  | .sha256 message, digest => digest = platform.sha256 message
  | _, _ => True

/-- One operation of a session. Streams and the allocator may answer anything. -/
structure Serves (platform : Platform) (session : Session Host) (before : World Host)
    (op : EnrollmentOp) (result : op.Result) (after : World Host) : Prop where
  answers : Answers platform session.host before op result
  recorded : after = before.record op result

/-- Between the steps of the sessions any host's clock may move and anybody may
sign, hash and draw. -/
structure Grows (before after : World Host) : Prop where
  signed : before.signed ⊆ after.signed
  hashed : before.hashed ⊆ after.hashed
  drawn : before.drawn ⊆ after.drawn

theorem record_grows (world : World Host) (op : EnrollmentOp) (result : op.Result) :
    Grows world (world.record op result) := by
  cases op with
  | sign key message => exact ⟨Set.subset_insert _ _, subset_rfl, subset_rfl⟩
  | sha256 message => exact ⟨subset_rfl, Set.subset_insert _ _, subset_rfl⟩
  | random32 => exact ⟨subset_rfl, subset_rfl, Set.subset_insert _ _⟩
  | _ => exact ⟨subset_rfl, subset_rfl, subset_rfl⟩

theorem record_keeps_clock (world : World Host) (op : EnrollmentOp) (result : op.Result) :
    (world.record op result).clock = world.clock := by
  cases op <;> rfl

/-! The assumptions on signatures and nonces, at the step that uses them. -/

-- No signature in the bytes was made up: whoever it verifies for has signed.
structure Genuine (platform : Platform) (signed : Set (PublicKey × List UInt8))
    (bytes : List UInt8) : Prop where
  invite : ∀ request, platform.request bytes = .ok request → ∀ key,
    platform.verifies key request.invite.signingBytes request.invite.authoritySignature = true →
      (key, request.invite.signingBytes) ∈ signed
  proof : ∀ proof, platform.proof bytes = .ok proof → ∀ key message,
    platform.verifies key message proof.signature = true → (key, message) ∈ signed

-- Nobody has drawn the nonce or signed a challenge with it.
structure Fresh (world : World Host) (nonce : Bytes 32) : Prop where
  undrawn : nonce ∉ world.drawn
  unsigned : ∀ key (challenge : EnrollmentChallenge), challenge.authorityNonce = nonce →
    (key, challenge.signingBytes) ∉ world.signed

def Assumed (platform : Platform) (world : World Host) (op : EnrollmentOp)
    (result : op.Result) : Prop :=
  match op, result with
  | .random32, nonce => Fresh world nonce
  | .readExact _, .ok bytes => Genuine platform world.signed bytes
  | _, _ => True

structure SessionStep (platform : Platform) (session : Session Host) (before : World Host)
    (op : EnrollmentOp) (result : op.Result) (after : World Host) : Prop
    extends Serves platform session before op result after where
  assumed : Assumed platform before op result

theorem grows_ascends {sessions : Index → Session Host} :
    Ascends (fun i => SessionStep platform (sessions i)) Grows Grows where
  refl _ := ⟨subset_rfl, subset_rfl, subset_rfl⟩
  trans early late := ⟨early.signed.trans late.signed, early.hashed.trans late.hashed,
    early.drawn.trans late.drawn⟩
  stepped taken := taken.recorded ▸ record_grows _ _ _
  moved grows := grows

/-! Agreement. -/

abbrev WorldTrace (Host : Type) := EnrollmentTrace (World Host)

/-- What a signed membership says about the session that signed it and about the
owner of the key in it. `issued` is the world that the signing met. -/
structure Agreed (platform : Platform) (session : Session Host) (redemption : Redemption)
    (earlier : WorldTrace Host) (issued final : World Host) : Prop where
  performed : redemption.Performed platform session.server earlier
  checkedThen : ∃ before after, (⟨before, .nowSecs, redemption.checkedAt, after⟩ :
      Event EnrollmentOp EnrollmentOp.Result (World Host)) ∈ earlier ∧
    before.clock session.host = redemption.checkedAt
  inviteSigned : (session.server.authority.authorityPublicKey,
    redemption.request.invite.signingBytes) ∈ issued.signed
  -- The digest in the challenge stands for this invite alone.
  inviteDigest : redemption.digest = platform.sha256 redemption.request.invite.signingBytes
  inviteBound : ∀ other : EnrollmentInvite, other.signingBytes ∈ final.hashed →
    platform.sha256 other.signingBytes = redemption.digest →
      other.signingBytes = redemption.request.invite.signingBytes
  keySigned : (redemption.request.sisterPublicKey,
    (redemption.challenge session.server).signingBytes) ∈ issued.signed
  -- Nobody had signed the challenge when its nonce was drawn.
  signedAfterDraw : ∃ before after, (⟨before, .random32, redemption.nonce, after⟩ :
      Event EnrollmentOp EnrollmentOp.Result (World Host)) ∈ earlier ∧
    ∀ key, (key, (redemption.challenge session.server).signingBytes) ∉ before.signed
  -- What was signed is no other challenge.
  challengeBound : ∀ other : EnrollmentChallenge,
    other.signingBytes = (redemption.challenge session.server).signingBytes →
      other = redemption.challenge session.server

theorem session_agreed {session : Session Host} {redemption : Redemption}
    {earlier : WorldTrace Host} {issued final : World Host}
    (performed : redemption.Performed platform session.server earlier)
    (steps : ∀ event ∈ earlier,
      SessionStep platform session event.before event.op event.result event.after)
    (met : ∀ event ∈ earlier, Grows event.after issued)
    (kept : ∀ event ∈ earlier, Grows event.after final)
    (collisionFree : Set.InjOn platform.sha256 final.hashed) :
    Agreed platform session redemption earlier issued final := by
  have before : ∀ event ∈ earlier, event.before.signed ⊆ issued.signed := by
    intro event member
    have taken := steps event member
    have grown := (record_grows event.before event.op event.result).signed
    rw [← taken.recorded] at grown
    exact grown.trans (met event member).signed
  obtain ⟨checkedBefore, checkedAfter, checking⟩ := performed.challenged.checked
  obtain ⟨digestBefore, digestAfter, digesting⟩ := performed.challenged.digested
  obtain ⟨drawnBefore, drawnAfter, drawing⟩ := performed.challenged.drawn
  have digest := (steps _ digesting).answers
  have fresh : Fresh drawnBefore redemption.nonce := (steps _ drawing).assumed
  have hashed : redemption.request.invite.signingBytes ∈ final.hashed := by
    apply (kept _ digesting).hashed
    rw [(steps _ digesting).recorded]
    exact Set.mem_insert _ _
  have invite : (session.server.authority.authorityPublicKey,
      redemption.request.invite.signingBytes) ∈ issued.signed := by
    obtain ⟨later, header, payload, s₁, s₂, s₃, s₄, split, decoded⟩ :=
      performed.challenged.requested
    have arrived : (⟨s₃, .readExact (ofBigEndian header), .ok payload, s₄⟩ :
        Event EnrollmentOp EnrollmentOp.Result (World Host)) ∈ earlier := by simp [split]
    have genuine : Genuine platform s₃.signed payload := (steps _ arrived).assumed
    have verified := performed.challenged.verified
    simp only [EnrollmentInvite.verify, Bool.and_eq_true] at verified
    rw [← performed.challenged.addressed.authority]
    exact before _ arrived (genuine.invite _ decoded _ verified.1.1.2)
  have signed : (redemption.request.sisterPublicKey,
      (redemption.challenge session.server).signingBytes) ∈ issued.signed := by
    obtain ⟨count, payload, ⟨s₁, s₂, arrived⟩, decoded⟩ := performed.proved.read
    have genuine : Genuine platform s₁.signed payload := (steps _ arrived).assumed
    exact before _ arrived (genuine.proof _ decoded _ _ performed.proved.verified)
  exact {
    performed := performed
    checkedThen := ⟨_, _, checking, (steps _ checking).answers.symm⟩
    inviteSigned := invite
    inviteDigest := digest
    inviteBound := fun other member same => collisionFree member hashed (same.trans digest)
    keySigned := signed
    signedAfterDraw := ⟨_, _, drawing, fun key => fresh.unsigned key _ rfl⟩
    challengeBound := fun _ same => challenge_signing_injective same }

/-! Expiry. The invite is judged at the first reading of the clock and the
membership is dated at the second; nothing relates the two but the clock. -/
section Expiry

abbrev SessionPool (Index Host : Type) :=
  Pool Index EnrollmentOp EnrollmentOp.Result (fun _ => EnrollmentFailure) (fun _ => Unit)
    (World Host)

/-- The session is still running, has found its invite unexpired and has not
dated a membership yet. -/
structure Awaits (platform : Platform) (pool : SessionPool Index Host) (i : Index)
    (expiresAt : UInt64) : Prop where
  running : ∃ op next, pool.task i = .call op next
  requested : ∃ request, Requested platform request (pool.trace i) ∧
    request.invite.expiresAt = expiresAt
  checked : ∃ checkedAt, readings (pool.trace i) = [checkedAt] ∧ checkedAt ≤ expiresAt

/-- No host's clock moves past the expiry of an invite that one of its sessions
is redeeming. -/
def Timely (platform : Platform) (sessions : Index → Session Host)
    (before after : SessionPool Index Host) : Prop :=
  ∀ i expiresAt, Awaits platform before i expiresAt →
    after.shared.clock (sessions i).host ≤ expiresAt

-- Once the clock has been read the request is behind the newest event.
theorem requested_before {State : Type} {request : EnrollmentRequest}
    {event : Event EnrollmentOp EnrollmentOp.Result State} {trace : EnrollmentTrace State}
    (requested : Requested platform request (event :: trace))
    (read : readings (event :: trace) ≠ []) : Requested platform request trace := by
  obtain ⟨later, header, payload, s₁, s₂, s₃, s₄, split, decoded⟩ := requested
  cases later with
  | nil =>
    rw [split] at read
    exact absurd rfl read
  | cons newest later =>
    obtain ⟨rfl, rfl⟩ := List.cons.inj split
    exact ⟨later, header, payload, s₁, s₂, s₃, s₄, rfl, decoded⟩

/-- Every membership dated so far is dated in time, and the clock still allows
the sessions that are about to. -/
structure InTime (platform : Platform) (sessions : Index → Session Host)
    (pool : SessionPool Index Host) : Prop where
  awaiting : ∀ i expiresAt, Awaits platform pool i expiresAt →
    pool.shared.clock (sessions i).host ≤ expiresAt
  dated : ∀ i (past : WorldTrace Host) request issuedAt checkedAt, past <:+ pool.trace i →
    Requested platform request past → readings past = [issuedAt, checkedAt] →
    checkedAt ≤ request.invite.expiresAt → issuedAt ≤ request.invite.expiresAt

theorem in_time_start (sessions : Index → Session Host) (world : World Host)
    (tasks : Index → EnrollmentTask EnrollmentFailure Unit) :
    InTime platform sessions (Pool.start world tasks) where
  awaiting i expiresAt awaits := by
    obtain ⟨checkedAt, none, _⟩ := awaits.checked
    cases none
  dated i past request issuedAt checkedAt suffix _ read _ := by
    obtain rfl := List.suffix_nil.mp suffix
    cases read

variable [DecidableEq Index]

def TimelyRun (platform : Platform) (sessions : Index → Session Host) :
    SessionPool Index Host → SessionPool Index Host → Prop :=
  Relation.ReflTransGen fun before after =>
    Step (fun i => Serves platform (sessions i)) (fun _ _ => True) before after ∧
      Timely platform sessions before after

variable {sessions : Index → Session Host} {pool : SessionPool Index Host}

-- An operation of the session itself: the clock stands still, and a reading of
-- it is what the invariant says of the clock.
theorem in_time_act {thread : Index} {op : EnrollmentOp}
    {next : op.Result → EnrollmentTask EnrollmentFailure Unit} {result : op.Result}
    {after : World Host} (inTime : InTime platform sessions pool)
    (running : pool.task thread = .call op next)
    (taken : Serves platform (sessions thread) pool.shared op result after) :
    InTime platform sessions (pool.advance thread (next result)
      (⟨pool.shared, op, result, after⟩ :: pool.trace thread) after) := by
  have clock : after.clock = pool.shared.clock := by
    rw [taken.recorded, record_keeps_clock]
  constructor
  · intro i expiresAt awaits
    change after.clock (sessions i).host ≤ expiresAt
    rw [clock]
    by_cases same : i = thread
    · subst same
      obtain ⟨request, requested, expires⟩ := awaits.requested
      obtain ⟨checkedAt, read, fits⟩ := awaits.checked
      simp only [Pool.advance, Function.update_self] at requested read
      have earlier := requested_before requested (by rw [read]; exact List.cons_ne_nil _ _)
      by_cases reads : op = .nowSecs
      · subst reads
        obtain ⟨rfl, _⟩ := List.cons.inj read
        have now : result = pool.shared.clock (sessions i).host := taken.answers
        rw [← now]
        exact fits
      · rw [readings_other reads] at read
        exact inTime.awaiting i expiresAt
          ⟨⟨op, next, running⟩, ⟨request, earlier, expires⟩, ⟨checkedAt, read, fits⟩⟩
    · apply inTime.awaiting i expiresAt
      have others := awaits
      exact {
        running := by simpa [Pool.advance, Function.update_of_ne same] using others.running
        requested := by simpa [Pool.advance, Function.update_of_ne same] using others.requested
        checked := by simpa [Pool.advance, Function.update_of_ne same] using others.checked }
  · intro i past request issuedAt checkedAt suffix requested read fits
    by_cases same : i = thread
    · subst same
      simp only [Pool.advance, Function.update_self] at suffix
      rcases List.suffix_cons_iff.mp suffix with rfl | suffix
      · have earlier := requested_before requested (by rw [read]; exact List.cons_ne_nil _ _)
        by_cases reads : op = .nowSecs
        · subst reads
          obtain ⟨rfl, once⟩ := List.cons.inj read
          have now : result = pool.shared.clock (sessions i).host := taken.answers
          rw [now]
          exact inTime.awaiting i _
            ⟨⟨_, next, running⟩, ⟨request, earlier, rfl⟩, ⟨checkedAt, once, fits⟩⟩
        · rw [readings_other reads] at read
          exact inTime.dated i _ request issuedAt checkedAt (List.suffix_refl _) earlier read fits
      · exact inTime.dated i past request issuedAt checkedAt suffix requested read fits
    · simp only [Pool.advance, Function.update_of_ne same] at suffix
      exact inTime.dated i past request issuedAt checkedAt suffix requested read fits

theorem in_time_run {world : World Host} {tasks : Index → EnrollmentTask EnrollmentFailure Unit}
    (run : TimelyRun platform sessions (Pool.start world tasks) pool) :
    InTime platform sessions pool := by
  induction run with
  | refl => exact in_time_start sessions world tasks
  | tail _ last ih =>
    obtain ⟨stepped, timely⟩ := last
    cases stepped with
    | act thread running taken => exact in_time_act ih running taken
    | environment moved =>
      constructor
      · intro i expiresAt awaits
        exact timely i expiresAt
          ⟨awaits.running, awaits.requested, awaits.checked⟩
      · exact ih.dated

theorem timely_run {first last : SessionPool Index Host}
    (run : TimelyRun platform sessions first last) :
    Run (fun i => Serves platform (sessions i)) (fun _ _ => True) first last := by
  induction run with
  | refl => exact .refl
  | tail _ last ih => exact ih.tail last.1
end Expiry
/-! One redemption: the challenge is posed at 195 for an invite that expires at
200, and the membership is dated whenever the joiner has sent the proof. -/

def sampleNetwork : NetworkId := ⟨Bytes.fill 16 0x21⟩

def sampleAuthority : NetworkAuthority := ⟨sampleNetwork, Bytes.fill 32 0xa1⟩

def sampleLocator : PeerRecord :=
  ⟨sampleNetwork, 1, Bytes.fill 32 0xb1, "iroh-1",
    ⟨sampleNetwork, 1, Bytes.fill 32 0xb1, Bytes.fill 32 0xe1, 1, Bytes.fill 64 0xb2⟩, 1, 90,
    Bytes.fill 64 0xb3⟩

def sampleServer : EnrollmentServer :=
  ⟨sampleNetwork, sampleAuthority, Bytes.fill 32 0xa1, 1, Bytes.fill 32 0xe1, sampleLocator, []⟩

def sampleInvite : EnrollmentInvite :=
  ⟨1, sampleNetwork, sampleAuthority, 100, 200, Bytes.fill 32 0x11, sampleLocator,
    Bytes.fill 64 0xa2⟩

def sampleRequest : EnrollmentRequest :=
  ⟨1, sampleInvite, 9, Bytes.fill 32 0xc1, Bytes.fill 32 0x22⟩

def sampleExchange : Exchange :=
  ⟨sampleRequest, 195, Sha256.sha256 sampleInvite.signingBytes, Bytes.fill 32 0x33⟩

def sampleRedemption (issuedAt : UInt64) : Redemption :=
  ⟨sampleExchange, ⟨Bytes.fill 64 0xc2⟩, 2, issuedAt⟩

def sampleChallenge : EnrollmentChallenge := sampleExchange.challenge sampleServer

-- The signatures that were ever made with the keys of the sample.
def sampleSignatures : List (PublicKey × List UInt8 × Signature) :=
  [(Bytes.fill 32 0xa1, sampleInvite.signingBytes, Bytes.fill 64 0xa2),
    (Bytes.fill 32 0xb1, sampleLocator.transportBinding.signingBytes, Bytes.fill 64 0xb2),
    (Bytes.fill 32 0xb1, sampleLocator.signingBytes, Bytes.fill 64 0xb3),
    (Bytes.fill 32 0xc1, sampleChallenge.signingBytes, Bytes.fill 64 0xc2)]

def samplePlatform : Platform where
  verifies key message signature := decide ((key, message, signature) ∈ sampleSignatures)
  sha256 := Sha256.sha256
  request := recognise EnrollmentRequest.encode [sampleRequest]
  proof := recognise EnrollmentProof.encode [(sampleRedemption 0).proof]

def sampleSession (_ : Unit) : Session Unit := ⟨(), sampleServer⟩

theorem sample_verifies {key : PublicKey} {message : List UInt8} {signature : Signature}
    (made : (key, message, signature) ∈ sampleSignatures) :
    samplePlatform.verifies key message signature = true := decide_eq_true made

theorem sample_invite_verifies : sampleInvite.verify samplePlatform.verifies 195 = true := by
  have invite : samplePlatform.verifies (Bytes.fill 32 0xa1) sampleInvite.signingBytes
      (Bytes.fill 64 0xa2) = true := sample_verifies (by simp [sampleSignatures])
  have binding : samplePlatform.verifies (Bytes.fill 32 0xb1)
      sampleLocator.transportBinding.signingBytes (Bytes.fill 64 0xb2) = true :=
    sample_verifies (by simp [sampleSignatures])
  have locator : samplePlatform.verifies (Bytes.fill 32 0xb1) sampleLocator.signingBytes
      (Bytes.fill 64 0xb3) = true := sample_verifies (by simp [sampleSignatures])
  have located : sampleLocator.verify samplePlatform.verifies = true := by
    simp only [PeerRecord.verify, Bool.and_eq_true]
    exact ⟨⟨⟨⟨⟨by decide, by decide⟩, by decide⟩, by decide⟩, binding⟩, locator⟩
  simp only [EnrollmentInvite.verify, Bool.and_eq_true]
  exact ⟨⟨⟨⟨⟨⟨⟨by decide, by decide⟩, by decide⟩, by decide⟩, by decide⟩, invite⟩, by decide⟩,
    located⟩

theorem sample_response_length (issuedAt : UInt64) (signature : Signature) :
    ((sampleRedemption issuedAt).response sampleServer signature).encode.length = 645 := by
  have records : (sequence Protocol.encodeRecord (bootstrap sampleServer)).length = 390 := by
    decide +kernel
  simp only [Redemption.response, EnrollmentResponse.accepted, EnrollmentResponse.encode,
    EnrollmentOutcome.encode, NetworkAuthority.encode, List.length_append, u16_length,
    variant_length, network_encode_length, bytes_length, membership_encode_length, records]
  have unlimited : ((sampleRedemption issuedAt).membership sampleServer).expiresAt = none := rfl
  simp only [unlimited, Option.isSome_none, Bool.false_eq_true, ↓reduceIte]

theorem sample_request_decodes :
    samplePlatform.request sampleRequest.encode = .ok sampleRequest := by
  simp only [samplePlatform, recognise_first]

theorem sample_proof_decodes :
    samplePlatform.proof (sampleRedemption 0).proof.encode = .ok (sampleRedemption 0).proof := by
  simp only [samplePlatform, recognise_first]

theorem sample_challenge_proved :
    sampleChallenge.verify samplePlatform.verifies (sampleRedemption 0).proof = true := by
  apply sample_verifies
  simp only [sampleSignatures, List.mem_cons]
  exact Or.inr (Or.inr (Or.inr (Or.inl rfl)))

theorem sample_frames_fit :
    sampleRequest.encode.length ≤ MAX_ENROLLMENT_FRAME_LENGTH ∧
      (ServerReply.challenge sampleChallenge).encode.length ≤ MAX_ENROLLMENT_FRAME_LENGTH ∧
      (sampleRedemption 0).proof.encode.length ≤ MAX_ENROLLMENT_FRAME_LENGTH := by
  refine ⟨by decide +kernel, ?_, by decide +kernel⟩
  simp only [ServerReply.encode, EnrollmentChallenge.signingBytes, List.length_append]
  decide

theorem sample_acceptable (issuedAt : UInt64) :
    (sampleRedemption issuedAt).Acceptable samplePlatform sampleServer (Bytes.fill 64 0xa3) where
  requestDecodes := sample_request_decodes
  version := rfl
  verified := sample_invite_verifies
  addressed := ⟨rfl, rfl, rfl, rfl⟩
  proofDecodes := sample_proof_decodes
  proved := sample_challenge_proved
  requestFits := sample_frames_fit.1
  challengeFits := sample_frames_fit.2.1
  proofFits := sample_frames_fit.2.2
  responseFits := by rw [sample_response_length]; decide

def inviteSigned : Set (PublicKey × List UInt8) :=
  {(Bytes.fill 32 0xa1, sampleInvite.signingBytes)}

def proofSigned : Set (PublicKey × List UInt8) :=
  insert (Bytes.fill 32 0xc1, sampleChallenge.signingBytes) inviteSigned

def askedWorld : World Unit := ⟨fun _ => 195, inviteSigned, ∅, ∅⟩

def hashedWorld : World Unit := { askedWorld with hashed := {sampleInvite.signingBytes} }

def drawnWorld : World Unit := { hashedWorld with drawn := {sampleExchange.nonce} }

variable (issuedAt : UInt64)

-- The joiner has signed the challenge, and the clock has moved on.
def provedWorld : World Unit :=
  { drawnWorld with clock := fun _ => issuedAt, signed := proofSigned }

def issuedWorld : World Unit :=
  { provedWorld issuedAt with
    signed := insert (Bytes.fill 32 0xa1,
      ((sampleRedemption issuedAt).membership sampleServer).signingBytes) proofSigned }

abbrev sampleIssue : WorldTrace Unit :=
  issueEvents sampleServer (sampleRedemption issuedAt) (Bytes.fill 64 0xa3) (provedWorld issuedAt)
    (issuedWorld issuedAt)

abbrev samplePose : WorldTrace Unit :=
  challengeEvents sampleServer sampleExchange askedWorld hashedWorld drawnWorld

theorem sample_genuine {signed : Set (PublicKey × List UInt8)} {bytes : List UInt8}
    (invite : (Bytes.fill 32 0xa1, sampleInvite.signingBytes) ∈ signed)
    (proof : bytes.length = 72 → (Bytes.fill 32 0xc1, sampleChallenge.signingBytes) ∈ signed) :
    Genuine samplePlatform signed bytes := by
  constructor
  · intro request decoded key verified
    obtain rfl := List.mem_singleton.mp (recognise_known decoded)
    have made := of_decide_eq_true verified
    simp only [sampleSignatures, List.mem_cons, List.not_mem_nil, or_false, Prod.mk.injEq]
      at made
    rcases made with ⟨rfl, _, _⟩ | ⟨_, _, other⟩ | ⟨_, _, other⟩ | ⟨_, _, other⟩
    · exact invite
    · cases other
    · cases other
    · cases other
  · intro sent decoded key message verified
    have length : bytes.length = 72 := by
      rw [← recognise_encoded decoded]
      exact signature_encode_length sent.signature
    obtain rfl := List.mem_singleton.mp (recognise_known decoded)
    have made := of_decide_eq_true verified
    simp only [sampleSignatures, List.mem_cons, List.not_mem_nil, or_false, Prod.mk.injEq]
      at made
    rcases made with ⟨_, _, other⟩ | ⟨_, _, other⟩ | ⟨_, _, other⟩ | ⟨rfl, rfl, _⟩
    · cases other
    · cases other
    · cases other
    · exact proof length

theorem sample_nonce_fresh : Fresh hashedWorld sampleExchange.nonce := by
  constructor
  · exact Set.notMem_empty _
  · intro key challenge _ member
    have same : challenge.signingBytes = sampleInvite.signingBytes := (Prod.mk.inj member).2
    have lengths := congrArg List.length same
    simp only [EnrollmentChallenge.signingBytes, List.length_append, u16_length,
      network_encode_length, bytes_length, u64_length] at lengths
    revert lengths
    decide +kernel

theorem sample_steps (issuedAt : UInt64) :
    ∀ event ∈ sampleIssue issuedAt ++ samplePose,
      SessionStep samplePlatform (sampleSession ()) event.before event.op event.result
        event.after := by
  have reads : ∀ {world : World Unit} {count : Nat} {bytes : List UInt8},
      Genuine samplePlatform world.signed bytes →
      SessionStep samplePlatform (sampleSession ()) world (.readExact count) (.ok bytes) world :=
    fun genuine => ⟨⟨trivial, rfl⟩, genuine⟩
  have writes : ∀ {world : World Unit} {bytes : List UInt8},
      SessionStep samplePlatform (sampleSession ()) world (.writeAll bytes) (.ok ()) world :=
    ⟨⟨trivial, rfl⟩, trivial⟩
  have flushes : ∀ {world : World Unit},
      SessionStep samplePlatform (sampleSession ()) world .flush (.ok ()) world :=
    ⟨⟨trivial, rfl⟩, trivial⟩
  have asked : ∀ {bytes : List UInt8}, bytes.length ≠ 72 →
      Genuine samplePlatform askedWorld.signed bytes :=
    fun other => sample_genuine (Set.mem_singleton _) fun length => absurd length other
  have proved : ∀ {bytes : List UInt8}, Genuine samplePlatform (provedWorld issuedAt).signed bytes :=
    sample_genuine (Set.mem_insert_of_mem _ (Set.mem_singleton _)) fun _ => Set.mem_insert _ _
  have request : sampleRequest.encode.length ≠ 72 := by decide +kernel
  have header : (bigEndian 4 sampleRequest.encode.length).length ≠ 72 := by decide +kernel
  have draws : SessionStep samplePlatform (sampleSession ()) hashedWorld .random32
      sampleExchange.nonce drawnWorld :=
    ⟨⟨trivial, by simp [World.record, drawnWorld, hashedWorld, askedWorld]⟩, sample_nonce_fresh⟩
  have hashes : SessionStep samplePlatform (sampleSession ()) askedWorld
      (.sha256 sampleInvite.signingBytes) sampleExchange.digest hashedWorld :=
    ⟨⟨rfl, by simp [World.record, hashedWorld, askedWorld]⟩, trivial⟩
  simp only [issueEvents, provedEvents, challengeEvents, writeEvents, readEvents,
    List.forall_mem_append, List.forall_mem_cons, List.not_mem_nil, false_implies, implies_true,
    and_true]
  exact ⟨⟨⟨flushes, writes, writes⟩, ⟨⟨trivial, rfl⟩, trivial⟩,
    ⟨⟨⟨rfl, rfl⟩, trivial⟩, ⟨⟨trivial, rfl⟩, trivial⟩⟩, reads proved, reads proved⟩,
    ⟨⟨⟨flushes, writes, writes⟩, draws, hashes, ⟨⟨rfl, rfl⟩, trivial⟩⟩, reads (asked request),
      reads (asked header)⟩⟩

/-- The redemption as a run: the challenge is posed, the world moves, the
membership is issued. -/
theorem sample_run
    (step : Unit → World Unit → (op : EnrollmentOp) → op.Result → World Unit → Prop)
    (moves : World Unit → World Unit → Prop) (issuedAt : UInt64)
    (steps : ∀ event ∈ sampleIssue issuedAt ++ samplePose,
      step () event.before event.op event.result event.after)
    (moved : moves drawnWorld (provedWorld issuedAt)) :
    ∃ pool : SessionPool Unit Unit,
      Run step moves
        (Pool.start askedWorld fun i => serveStream samplePlatform (sampleSession i).server) pool ∧
      pool.task () = .done () ∧ pool.trace () = sampleIssue issuedAt ++ samplePose ∧
      pool.shared = issuedWorld issuedAt := by
  let start : SessionPool Unit Unit :=
    Pool.start askedWorld fun i => serveStream samplePlatform (sampleSession i).server
  have whole : Reaches (traceStep (step ())) (start.task ()) [] (.done ())
      (sampleIssue issuedAt ++ samplePose) := serve_stream_runs (sample_acceptable issuedAt) steps
  obtain ⟨waiting, poses, issues⟩ := reaches_split whole List.nil_suffix
  have posing : Chained askedWorld samplePose drawnWorld :=
    ⟨rfl, rfl, rfl, rfl, rfl, rfl, rfl, rfl, rfl⟩
  have issuing : Chained (provedWorld issuedAt) (sampleIssue issuedAt) (issuedWorld issuedAt) :=
    ⟨rfl, rfl, rfl, rfl, rfl, rfl, rfl, rfl, rfl⟩
  let posed := start.advance () waiting samplePose drawnWorld
  let solved : SessionPool Unit Unit := { posed with shared := provedWorld issuedAt }
  have toPosed : Run step moves start posed :=
    schedule () poses posing (List.append_nil _).symm rfl rfl
  have toIssued : Run step moves solved
      (solved.advance () (.done ()) (sampleIssue issuedAt ++ samplePose) (issuedWorld issuedAt)) :=
    schedule () issues issuing rfl rfl rfl
  exact ⟨_, (toPosed.tail (.environment _ moved)).trans toIssued, rfl, rfl, rfl⟩

/-! The results, each with the sample redemption. -/
section Results
variable [DecidableEq Index]

/-- In any interleaving of redemptions a membership is signed only for the key
that signed the challenge of this same session. -/
theorem enrollment_agreement {sessions : Index → Session Host}
    {world : World Host} {pool : SessionPool Index Host}
    (run : Run (fun i => SessionStep platform (sessions i)) Grows
      (Pool.start world fun i => serveStream platform (sessions i).server) pool)
    (collisionFree : Set.InjOn platform.sha256 pool.shared.hashed)
    {i : Index} {later earlier : WorldTrace Host} {issued signed : World Host} {key : PublicKey}
    {message : List UInt8} {signature : Signature}
    (issues : pool.trace i = later ++ ⟨issued, .sign key message, signature, signed⟩ :: earlier) :
    ∃ redemption : Redemption,
      message = (redemption.membership (sessions i).server).signingBytes ∧
      Agreed platform (sessions i) redemption earlier issued pool.shared ∧
      ∀ j, j ≠ i → ¬ Answered (pool.trace j) .random32 redemption.nonce := by
  have alone := thread_traces run i
  obtain ⟨guarded, _⟩ := traced_event_guarded serve_stream_guarded alone issues
  obtain ⟨redemption, _, rfl, performed⟩ := guarded key message rfl
  have earlierly : ∀ event ∈ earlier, event ∈ pool.trace i := by
    intro event member
    rw [issues]
    exact List.mem_append_right _ (List.mem_cons_of_mem _ member)
  have steps : ∀ event ∈ earlier,
      SessionStep platform (sessions i) event.before event.op event.result event.after :=
    fun event member => traced_event_step alone (earlierly event member)
  refine ⟨redemption, rfl, session_agreed performed steps ?_ ?_ collisionFree, ?_⟩
  · exact fun event member => thread_events_precede grows_ascends run issues member
  · exact fun event member => events_precede grows_ascends run (earlierly event member)
  -- Two sessions cannot draw one nonce: the later draw would not be fresh.
  intro j other ⟨before, after, drawnThere⟩
  obtain ⟨before', after', drawnHere⟩ := performed.challenged.drawn
  have here := steps _ drawnHere
  have there := traced_event_step (thread_traces run j) drawnThere
  have freshHere : Fresh before' redemption.nonce := here.assumed
  have freshThere : Fresh before redemption.nonce := there.assumed
  rcases events_ordered grows_ascends run other drawnThere (earlierly _ drawnHere) with
    first | first
  · apply freshHere.undrawn
    apply first.drawn
    rw [there.recorded]
    exact Set.mem_insert _ _
  · apply freshThere.undrawn
    apply first.drawn
    rw [here.recorded]
    exact Set.mem_insert _ _

abbrev sampleProve (issuedAt : UInt64) : WorldTrace Unit :=
  provedEvents (sampleRedemption issuedAt) (provedWorld issuedAt) ++ samplePose

theorem sample_split (issuedAt : UInt64) :
    sampleIssue issuedAt ++ samplePose =
      writeEvents (issuedWorld issuedAt)
        ((sampleRedemption issuedAt).response sampleServer (Bytes.fill 64 0xa3)).encode ++
      ⟨provedWorld issuedAt, .sign sampleServer.authorityKey
        ((sampleRedemption issuedAt).membership sampleServer).signingBytes, Bytes.fill 64 0xa3,
        issuedWorld issuedAt⟩ :: sampleProve issuedAt := by
  simp only [issueEvents, List.append_assoc, List.cons_append]

theorem sample_redemption_agreed :
    ∃ (pool : SessionPool Unit Unit) (redemption : Redemption), pool.task () = .done () ∧
      ((sampleRedemption 198).membership sampleServer).signingBytes =
        (redemption.membership sampleServer).signingBytes ∧
      Agreed samplePlatform (sampleSession ()) redemption (sampleProve 198) (provedWorld 198)
        pool.shared := by
  have grows : Grows drawnWorld (provedWorld 198) :=
    ⟨Set.subset_insert _ _, subset_rfl, subset_rfl⟩
  obtain ⟨pool, run, ended, trace, shared⟩ :=
    sample_run (fun i => SessionStep samplePlatform (sampleSession i)) Grows 198
      (sample_steps 198) grows
  have collisionFree : Set.InjOn samplePlatform.sha256 pool.shared.hashed := by
    rw [shared]
    exact Set.injOn_singleton _ _
  rw [sample_split] at trace
  obtain ⟨redemption, message, agreed, _⟩ := enrollment_agreement run collisionFree trace
  exact ⟨pool, redemption, ended, message, agreed⟩

/-- If no clock passes the expiry of an invite under redemption, every membership
is dated before its invite expires. -/
theorem membership_dated_before_expiry {sessions : Index → Session Host} {world : World Host}
    {pool : SessionPool Index Host}
    (run : TimelyRun platform sessions
      (Pool.start world fun i => serveStream platform (sessions i).server) pool)
    {i : Index} {later earlier : WorldTrace Host} {issued signed : World Host} {key : PublicKey}
    {message : List UInt8} {signature : Signature}
    (issues : pool.trace i = later ++ ⟨issued, .sign key message, signature, signed⟩ :: earlier) :
    ∃ redemption : Redemption,
      message = (redemption.membership (sessions i).server).signingBytes ∧
      redemption.Performed platform (sessions i).server earlier ∧
      (redemption.membership (sessions i).server).issuedAt ≤
        redemption.request.invite.expiresAt := by
  have alone := thread_traces (timely_run run) i
  obtain ⟨guarded, _⟩ := traced_event_guarded serve_stream_guarded alone issues
  obtain ⟨redemption, _, rfl, performed⟩ := guarded key message rfl
  have unexpired : redemption.checkedAt ≤ redemption.request.invite.expiresAt := by
    have verified := performed.challenged.verified
    simp only [EnrollmentInvite.verify, Bool.and_eq_true, decide_eq_true_eq] at verified
    exact verified.1.1.1.2
  have suffix : earlier <:+ pool.trace i := by
    rw [issues]
    exact (List.suffix_cons _ _).trans (List.suffix_append _ _)
  exact ⟨redemption, rfl, performed, (in_time_run run).dated i earlier redemption.request _ _
    suffix performed.challenged.requested performed.readings unexpired⟩

/-- Nothing but the clock keeps a membership from being dated after its invite
expired: the joiner sends the proof late. -/
theorem membership_dated_after_expiry :
    ∃ (pool : SessionPool Unit Unit) (redemption : Redemption) (later earlier : WorldTrace Unit)
      (issued signed : World Unit) (signature : Signature),
      Run (fun i => Serves samplePlatform (sampleSession i)) (fun _ _ => True)
        (Pool.start askedWorld fun i => serveStream samplePlatform (sampleSession i).server) pool ∧
      pool.trace () = later ++ ⟨issued, .sign sampleServer.authorityKey
        (redemption.membership sampleServer).signingBytes, signature, signed⟩ :: earlier ∧
      redemption.Performed samplePlatform sampleServer earlier ∧
      redemption.request.invite.expiresAt < (redemption.membership sampleServer).issuedAt := by
  obtain ⟨pool, run, _, trace, _⟩ :=
    sample_run (fun i => Serves samplePlatform (sampleSession i)) (fun _ _ => True) 210
      (fun event member => (sample_steps 210 event member).toServes) trivial
  rw [sample_split] at trace
  exact ⟨pool, sampleRedemption 210, _, _, _, _, _, run, trace,
    redemption_performed (sample_acceptable 210), by decide⟩

-- Every step is timely as long as the clock stays at or before 200.
theorem sample_timely {pool : SessionPool Unit Unit}
    (run : Run (fun i => Serves samplePlatform (sampleSession i))
      (fun _ after => after.clock () ≤ 200)
      (Pool.start askedWorld fun i => serveStream samplePlatform (sampleSession i).server) pool) :
    TimelyRun samplePlatform sampleSession
      (Pool.start askedWorld fun i => serveStream samplePlatform (sampleSession i).server) pool ∧
      pool.shared.clock () ≤ 200 := by
  have timely : ∀ before after : SessionPool Unit Unit, after.shared.clock () ≤ 200 →
      Timely samplePlatform sampleSession before after := by
    intro before after early i expiresAt awaits
    obtain ⟨request, ⟨_, _, _, _, _, _, _, _, decoded⟩, rfl⟩ := awaits.requested
    obtain rfl := List.mem_singleton.mp (recognise_known decoded)
    exact early
  induction run with
  | refl => exact ⟨.refl, by decide⟩
  | tail _ last ih =>
    obtain ⟨earlier, early⟩ := ih
    cases last with
    | environment moved =>
      exact ⟨earlier.tail ⟨.environment _ trivial, timely _ _ moved⟩, moved⟩
    | @act thread op next result after running taken =>
      have still : after.clock () ≤ 200 := by
        rw [taken.recorded, record_keeps_clock]
        exact early
      exact ⟨earlier.tail ⟨.act _ thread running taken, timely _ _ still⟩, still⟩

theorem sample_dated_before_expiry :
    ∃ (pool : SessionPool Unit Unit) (redemption : Redemption), pool.task () = .done () ∧
      ((sampleRedemption 198).membership sampleServer).signingBytes =
        (redemption.membership sampleServer).signingBytes ∧
      (redemption.membership sampleServer).issuedAt ≤ redemption.request.invite.expiresAt := by
  have early : (provedWorld 198).clock () ≤ 200 := by decide
  obtain ⟨pool, run, ended, trace, _⟩ :=
    sample_run (fun i => Serves samplePlatform (sampleSession i))
      (fun _ after => after.clock () ≤ 200) 198
      (fun event member => (sample_steps 198 event member).toServes) early
  rw [sample_split] at trace
  obtain ⟨redemption, message, _, dated⟩ :=
    membership_dated_before_expiry (sample_timely run).1 trace
  exact ⟨pool, redemption, ended, message, dated⟩
end Results
end Misaka.EnrollmentAgreement
