import Misaka.TransferResume
import Misaka.UniqueDecoding

/-!
Transfer v0 against every stream. The receiver creates the destination, writes
to it what arrives and judges the whole in the end; the stream delivers its bytes
in pieces of any size and then ends or breaks. A wrong digest removes the
destination. A stream that falls short of the declared size does not.
-/

namespace Misaka.SinglePassTransfer
open Bincode Identity Protocol EffectTask NodeRuntime HumanAuthorization TransferFiles
open StreamServices TransferDisk TransferDialogue UniqueDecoding
open TransferResume (sampleNodeAnswers)
variable {stream : NetworkStream} {disk : Disk} {incoming : List UInt8}
variable {answers : (op : RuntimeOp) → op.Result} {platform : Platform}

/-- The disk, and the bytes of the stream that are still to be read. -/
structure Intake where
  disk : Disk
  left : List UInt8

section Steps
variable (answers : (op : RuntimeOp) → op.Result)

/-- A read gives some of what is left, and the end or an error where nothing is.
Writing to the stream works or not. -/
def IntakeStep (before : Intake) (op : RuntimeOp) (result : op.Result) (after : Intake) : Prop :=
  match op, result with
  | .readExact _ count, .ok bytes =>
    bytes.length = count ∧ ∃ rest, before.left = bytes ++ rest ∧ after = ⟨before.disk, rest⟩
  | .readExact _ count, .error _ => before.left.length < count ∧ after = ⟨before.disk, []⟩
  | .readSome _ limit, .ok bytes =>
    bytes.length ≤ limit ∧ (bytes = [] → before.left = []) ∧
      ∃ rest, before.left = bytes ++ rest ∧ after = ⟨before.disk, rest⟩
  | .readSome _ _, .error _ => before.left = [] ∧ after = before
  | .write _ _, _ => after = before
  | .file op, result =>
    ∃ disk, answer before.disk op = some (result, disk) ∧ after = ⟨disk, before.left⟩
  | op, result => result = answers op ∧ after = before

def Served (world : Intake) : RuntimeOp → Prop
  | .file op => (answer world.disk op).isSome = true
  | .readSome _ limit => 0 < limit
  | _ => True

theorem served_able (world : Intake) (op : RuntimeOp) (served : Served world op) :
    ∃ result after, IntakeStep answers world op result after := by
  cases op with
  | readExact stream count =>
    by_cases enough : count ≤ world.left.length
    · exact ⟨.ok (world.left.take count), _, List.length_take_of_le enough,
        world.left.drop count, (List.take_append_drop _ _).symm, rfl⟩
    · exact ⟨.error missingFile, _, Nat.not_le.mp enough, rfl⟩
  | readSome stream limit =>
    refine ⟨.ok (world.left.take limit), _, List.length_take_le _ _, ?_, world.left.drop limit,
      (List.take_append_drop _ _).symm, rfl⟩
    intro nothing
    rcases List.take_eq_nil_iff.mp nothing with zero | empty
    · exact absurd zero (Nat.ne_of_gt served)
    · exact empty
  | write stream frame => exact ⟨.ok (), world, rfl⟩
  | file op =>
    obtain ⟨⟨result, disk⟩, answered⟩ := Option.isSome_iff_exists.mp served
    exact ⟨result, _, disk, answered, rfl⟩
  | _ => exact ⟨_, _, rfl, rfl⟩

/-- The stream begins with the length and the encoding of a request, and the
payload is the rest. -/
inductive Carries (platform : Platform) :
    List UInt8 → TransferRequest → List UInt8 → Prop where
  | mk {length header payload : List UInt8} {request : TransferRequest}
      (four : length.length = 4) (long : header.length = ofBigEndian length)
      (small : header.length ≤ 1024 * 1024)
      (decodes : platform.transferRequest header = .ok request) :
      Carries platform (length ++ (header ++ payload)) request payload

variable (platform : Platform) (context : Option NodeConfig)

-- `authorize_stream_operation` lets the request pass.
def Admitted (request : TransferRequest) : Prop :=
  ((authorizeStreamOperation platform context request.authorization .fileSend
    [destinationConstraint request.destination] true).run
      (fun known op => (answers op, known)) ()).1 = .ok ()

/-- The destination is absent, as it was, or complete. -/
def NoPartial (request : TransferRequest) (before after : Disk) : Prop :=
  after request.destination = none ∨ after request.destination = before request.destination ∨
    ∃ content, after request.destination = some content ∧
      content.length = request.size.toNat ∧ transferDigest content = request.digest

/-- Wherever the service returns. A stream without a request leaves every file as
it was. -/
def LeavesNoPartial (stream : NetworkStream) (disk : Disk) (incoming : List UInt8) : Prop :=
  ∀ outcome after,
    Reaches (IntakeStep answers) (receiveTransfer platform context stream) ⟨disk, incoming⟩
      (ofExcept outcome) after →
    (∀ request payload, Carries platform incoming request payload →
      NoPartial request disk after.disk) ∧
    ((∀ request payload, ¬ Carries platform incoming request payload) → after.disk = disk)
end Steps

/-! Reading the request. -/

theorem carries_rest {length rest payload : List UInt8} {request : TransferRequest}
    (four : length.length = 4) (carries : Carries platform (length ++ rest) request payload) :
    ∃ header, rest = header ++ payload ∧ header.length = ofBigEndian length ∧
      header.length ≤ 1024 * 1024 ∧ platform.transferRequest header = .ok request := by
  generalize whole : length ++ rest = incoming at carries
  cases carries with
  | mk fourth long small decodes =>
    obtain ⟨rfl, rfl⟩ := List.append_inj whole (four.trans fourth.symm)
    exact ⟨_, rfl, long, small, decodes⟩

theorem carries_unique {request other : TransferRequest} {payload rest : List UInt8}
    (first : Carries platform incoming request payload)
    (second : Carries platform incoming other rest) : request = other ∧ payload = rest := by
  cases first with
  | mk four long small decodes =>
    obtain ⟨header, same, long', _, decodes'⟩ := carries_rest four second
    obtain ⟨rfl, rfl⟩ := List.append_inj same (long.trans long'.symm)
    exact ⟨Except.ok.inj (decodes.symm.trans decodes'), rfl⟩

theorem request_holds :
    Holds (IntakeStep answers) Served (readRequest (1024 * 1024) "transfer header exceeds 1 MiB"
        platform.transferRequest stream)
      (fun after request => ∃ payload, Carries platform incoming request payload ∧
        after = ⟨disk, payload⟩)
      (fun after _ => after.disk = disk ∧
        ∀ request payload, ¬ Carries platform incoming request payload) ⟨disk, incoming⟩ := by
  unfold readRequest readFrame
  rw [holds_bind, holds_perform]
  refine ⟨trivial, ?_⟩
  rintro (error | length) middle taken
  · obtain ⟨short, rfl⟩ := taken
    refine (holds_fail _).mpr ⟨rfl, ?_⟩
    rintro request payload ⟨four, _, _, _⟩
    rw [List.length_append] at short
    omega
  obtain ⟨four, rest, same, rfl⟩ := taken
  subst same
  rw [or_error_ok, done_bind, holds_bind, holds_ensure]
  constructor
  · intro small
    rw [holds_bind, holds_perform]
    refine ⟨trivial, ?_⟩
    rintro (error | header) middle taken
    · obtain ⟨short, rfl⟩ := taken
      refine (holds_fail _).mpr ⟨rfl, ?_⟩
      intro request payload carries
      obtain ⟨header, rfl, long, _, _⟩ := carries_rest four carries
      rw [List.length_append] at short
      omega
    · obtain ⟨long, payload, same, rfl⟩ := taken
      subst same
      rw [or_error_ok, done_bind, holds_or_error]
      constructor
      · intro request decodes
        exact ⟨payload, .mk four long (long ▸ of_decide_eq_true small) decodes, rfl⟩
      · intro error broken
        refine ⟨rfl, ?_⟩
        intro request rest carries
        obtain ⟨other, same, long', _, decodes⟩ := carries_rest four carries
        obtain ⟨rfl, _⟩ := List.append_inj same (long.trans long'.symm)
        cases broken.symm.trans decodes
  · intro large
    refine ⟨rfl, ?_⟩
    intro request payload carries
    obtain ⟨header, _, long, small, _⟩ := carries_rest four carries
    exact of_decide_eq_false large (long ▸ small)

/-! The payload. -/
section Payload
variable {left : List UInt8} {failed : Intake → IoError → Prop}

theorem intake_call {op : FileOp} {Value : Type} {fallible : op.Result = Except IoError Value}
    {value : Value} {result : op.Result} {after : Disk} {post : Intake → Value → Prop}
    (answered : answer disk op = some (result, after)) (worked : cast fallible result = .ok value)
    (next : post ⟨after, left⟩ value) :
    Holds (IntakeStep answers) Served (fileCall op fallible) post failed ⟨disk, left⟩ := by
  unfold fileCall
  rw [holds_bind, holds_perform]
  constructor
  · change (answer disk op).isSome = true
    rw [answered]
    rfl
  · rintro given middle ⟨other, taken, rfl⟩
    obtain ⟨rfl, rfl⟩ := Prod.mk.inj (Option.some.inj (answered.symm.trans taken))
    rw [worked]
    exact (holds_done value).mpr next

theorem update_digest_append (digest : TransferDigest) (first second : List UInt8) :
    updateTransferDigest digest (first ++ second) =
      updateTransferDigest (updateTransferDigest digest first) second := List.foldl_append

/-- The loop writes what it owes, or all that is left if that is less. -/
theorem copy_payload_holds {destination : String} {handle : FileHandle} (remaining : Nat) :
    ∀ {disk : Disk} {left received : List UInt8} {written : UInt64} {digest : TransferDigest},
      disk destination = some received →
      Holds (IntakeStep answers) Served
        (copyPayload stream ⟨destination, handle⟩ remaining written digest)
        (fun after copied => ∃ more, left = more ++ after.left ∧ more.length = remaining ∧
          after.disk destination = some (received ++ more) ∧
          copied = (written + UInt64.ofNat remaining, updateTransferDigest digest more))
        (fun after _ => left.length < remaining ∧
          after.disk destination = some (received ++ left)) ⟨disk, left⟩ := by
  -- Every turn takes at least one byte.
  induction remaining using Nat.strong_induction_on with
  | _ remaining ih =>
    intro disk left received written digest begun
    rw [copyPayload]
    split
    · rename_i none
      subst none
      refine (holds_pure _).mpr ⟨[], rfl, rfl, ?_, ?_⟩
      · rw [List.append_nil]
        exact begun
      · exact congrArg (Prod.mk · digest) (UInt64.add_zero written).symm
    rename_i owed
    rw [holds_bind, holds_perform]
    refine ⟨Nat.lt_min.mpr ⟨Nat.pos_of_ne_zero owed, by decide⟩, ?_⟩
    rintro (error | bytes) middle taken
    · obtain ⟨rfl, rfl⟩ := taken
      refine (holds_fail _).mpr ⟨Nat.pos_of_ne_zero owed, ?_⟩
      rw [List.append_nil]
      exact begun
    obtain ⟨bounded, ends, rest, same, rfl⟩ := taken
    subst same
    rw [or_error_ok, done_bind, List.take_of_length_le bounded]
    dsimp only
    split
    · rename_i nothing
      obtain rfl := List.length_eq_zero_iff.mp nothing
      have finished : rest = [] := ends rfl
      subst finished
      refine (holds_fail _).mpr ⟨Nat.pos_of_ne_zero owed, ?_⟩
      exact begun.trans (congrArg some (List.append_nil received).symm)
    · rename_i something
      have fits : bytes.length ≤ remaining := Nat.le_trans bounded (Nat.min_le_left _ _)
      rw [holds_bind]
      refine intake_call rfl rfl ?_
      have grown : Function.update disk destination ((disk destination).map (· ++ bytes))
          destination = some (received ++ bytes) := by
        rw [Function.update_self, begun]
        rfl
      refine holds_mono (ih _ (Nat.sub_lt (Nat.pos_of_ne_zero owed)
        (Nat.pos_of_ne_zero something)) grown) ?_ ?_
      · rintro after copied ⟨more, split, long, held, rfl⟩
        refine ⟨bytes ++ more, ?_, ?_, ?_, ?_⟩
        · rw [split, List.append_assoc]
        · rw [List.length_append, long]
          omega
        · rw [held, List.append_assoc]
        · rw [update_digest_append, UInt64.add_assoc, ← UInt64.ofNat_add,
            Nat.add_sub_cancel' fits]
      · rintro after error ⟨short, held⟩
        refine ⟨?_, ?_⟩
        · rw [List.length_append]
          omega
        · rw [held, List.append_assoc]

variable {request : TransferRequest}

-- What the receiver holds when the stream fell short, and when it did not.
def Cut (request : TransferRequest) (payload : List UInt8) (disk : Disk) : Prop :=
  payload.length < request.size.toNat ∧ disk request.destination = some payload

def Judged (request : TransferRequest) (payload : List UInt8) (disk : Disk) : Prop :=
  request.size.toNat ≤ payload.length ∧ (disk request.destination = none ∨
    ∃ content, disk request.destination = some content ∧
      content.length = request.size.toNat ∧ transferDigest content = request.digest)

theorem report_holds {payload content : List UInt8} (enough : request.size.toNat ≤ payload.length)
    (long : content.length = request.size.toNat)
    (held : disk request.destination = some content) :
    Holds (IntakeStep answers) Served
      (reportTransfer stream request (transferResultV0 request (0 + UInt64.ofNat request.size.toNat)
        (transferDigest content)))
      (fun after _ => Judged request payload after.disk)
      (fun after _ => Judged request payload after.disk) ⟨disk, left⟩ := by
  have replies : ∀ {disk : Disk}, Judged request payload disk →
      Holds (IntakeStep answers) Served
        (writeBincodeFrame stream (.transferResult (transferResultV0 request
          (0 + UInt64.ofNat request.size.toNat) (transferDigest content))))
        (fun after _ => Judged request payload after.disk)
        (fun after _ => Judged request payload after.disk) ⟨disk, left⟩ := by
    intro disk judged
    unfold writeBincodeFrame
    rw [holds_bind, holds_perform]
    refine ⟨trivial, ?_⟩
    rintro result middle rfl
    rw [holds_or_error]
    exact ⟨fun _ _ => judged, fun _ _ => judged⟩
  unfold reportTransfer dropFailed
  rw [holds_bind]
  split
  · rename_i success
    have matching : transferDigest content = request.digest := by
      simp only [transferResultV0, Bool.and_eq_true, beq_iff_eq] at success
      exact success.2
    exact (holds_pure _).mpr (replies ⟨enough, .inr ⟨content, held, long, matching⟩⟩)
  · unfold discardFile
    rw [holds_bind, holds_perform]
    refine ⟨rfl, ?_⟩
    rintro result middle ⟨after, answered, rfl⟩
    obtain ⟨_, rfl⟩ := Prod.mk.inj (Option.some.inj answered)
    exact (holds_pure _).mpr (replies ⟨enough, .inl (Function.update_self _ _ _)⟩)

theorem store_payload_holds {payload : List UInt8} :
    Holds (IntakeStep answers) Served (storePayload platform stream request)
      (fun after _ => Judged request payload after.disk ∨ Cut request payload after.disk)
      (fun after _ => Judged request payload after.disk ∨ Cut request payload after.disk)
      ⟨disk, payload⟩ := by
  have copies : Holds (IntakeStep answers) Served (do
      let file ← createFile request.destination
      let copied ← copyPayload stream file request.size.toNat 0 .start
      flushFile file
      reportTransfer stream request
        (transferResultV0 request copied.1 (finalizeTransferDigest copied.2)))
      (fun after _ => Judged request payload after.disk ∨ Cut request payload after.disk)
      (fun after _ => Judged request payload after.disk ∨ Cut request payload after.disk)
      ⟨disk, payload⟩ := by
    unfold createFile openAt
    rw [holds_bind, holds_bind]
    refine intake_call rfl rfl ((holds_pure _).mpr ?_)
    rw [holds_bind]
    have created : Function.update disk request.destination (some []) request.destination =
        some [] := Function.update_self _ _ _
    refine holds_mono (copy_payload_holds request.size.toNat created) ?_ ?_
    · rintro ⟨after, rest⟩ copied ⟨more, rfl, long, held, rfl⟩
      rw [holds_bind]
      refine intake_call rfl rfl ?_
      have enough : request.size.toNat ≤ (more ++ rest).length := by
        rw [List.length_append, long]
        exact Nat.le_add_right _ _
      exact holds_mono (report_holds enough long held) (fun _ _ judged => .inl judged)
        (fun _ _ judged => .inl judged)
    · rintro after error ⟨short, held⟩
      exact .inr ⟨short, held⟩
  unfold storePayload
  rw [holds_bind]
  unfold createParent
  cases platform.parentDir request.destination with
  | some parent => exact intake_call rfl rfl copies
  | none => exact (holds_pure _).mpr copies
end Payload

section Service
variable {context : Option NodeConfig}

/-- Every way the service returns. -/
inductive Ends (answers : (op : RuntimeOp) → op.Result) (platform : Platform)
    (context : Option NodeConfig) (disk : Disk) (incoming : List UInt8) (after : Disk) : Prop where
  | unread (nothing : ∀ request payload, ¬ Carries platform incoming request payload)
      (kept : after = disk)
  | refused {request : TransferRequest} {payload : List UInt8}
      (carries : Carries platform incoming request payload)
      (refused : ¬ Admitted answers platform context request) (kept : after = disk)
  | served {request : TransferRequest} {payload : List UInt8}
      (carries : Carries platform incoming request payload)
      (admitted : Admitted answers platform context request)
      (settled : Judged request payload after ∨ Cut request payload after)

theorem receive_transfer_holds :
    Holds (IntakeStep answers) Served (receiveTransfer platform context stream)
      (fun after _ => Ends answers platform context disk incoming after.disk)
      (fun after _ => Ends answers platform context disk incoming after.disk)
      ⟨disk, incoming⟩ := by
  unfold receiveTransfer
  rw [holds_bind]
  refine holds_mono request_holds ?_ ?_
  · rintro after request ⟨payload, carries, rfl⟩
    rw [holds_bind]
    refine holds_mono (holds_answered answers only_authorize_stream_operation ?_ ?_) ?_ ?_
    · intro op allowed
      cases op <;> first | exact allowed.elim | trivial
    · intro op result after allowed taken
      cases op <;> first | exact allowed.elim | exact taken
    · rintro after _ ⟨rfl, admitted⟩
      exact holds_mono store_payload_holds
        (fun _ _ settled => .served carries admitted settled)
        (fun _ _ settled => .served carries admitted settled)
    · rintro after error ⟨rfl, refusal⟩
      refine .refused carries ?_ rfl
      intro admitted
      cases refusal.symm.trans admitted
  · rintro after error ⟨kept, nothing⟩
    exact .unread nothing kept

theorem returned_ends {outcome : Except IoError Unit} {after : Intake}
    (run : Reaches (IntakeStep answers) (receiveTransfer platform context stream) ⟨disk, incoming⟩
      (ofExcept outcome) after) : Ends answers platform context disk incoming after.disk := by
  have ended := holds_reaches receive_transfer_holds run
  cases outcome with
  | ok value => exact (holds_done value).mp ended
  | error error => exact (holds_fail error).mp ended

theorem service_returns (answers : (op : RuntimeOp) → op.Result) (platform : Platform)
    (context : Option NodeConfig) (stream : NetworkStream) (disk : Disk) (incoming : List UInt8) :
    ∃ outcome after,
      Reaches (IntakeStep answers) (receiveTransfer platform context stream) ⟨disk, incoming⟩
        (ofExcept outcome) after :=
  holds_ends (served_able answers) receive_transfer_holds

/-- No return leaves a partial destination exactly if an admitted request gets as
many bytes as it declared, or no others than the destination had before. -/
theorem leaves_no_partial_iff :
    LeavesNoPartial answers platform context stream disk incoming ↔
      ∀ request payload, Carries platform incoming request payload →
        Admitted answers platform context request →
        request.size.toNat ≤ payload.length ∨ disk request.destination = some payload := by
  constructor
  · intro clean request payload carries admitted
    obtain ⟨outcome, after, run⟩ := service_returns answers platform context stream disk incoming
    cases returned_ends run with
    | unread nothing kept => exact absurd carries (nothing _ _)
    | refused other refusal kept =>
      obtain ⟨rfl, rfl⟩ := carries_unique carries other
      exact absurd admitted refusal
    | served other _ settled =>
      obtain ⟨rfl, rfl⟩ := carries_unique carries other
      rcases settled with ⟨enough, _⟩ | ⟨short, held⟩
      · exact .inl enough
      · rcases (clean outcome after run).1 _ _ carries with absent | same | ⟨content, found, long, _⟩
        · cases held.symm.trans absent
        · exact .inr (same.symm.trans held)
        · obtain rfl := Option.some.inj (held.symm.trans found)
          omega
  · intro covered outcome after run
    cases returned_ends run with
    | unread nothing kept =>
      refine ⟨fun request payload carries => absurd carries (nothing _ _), fun _ => kept⟩
    | refused carries refusal kept =>
      refine ⟨?_, fun nothing => absurd carries (nothing _ _)⟩
      intro request payload _
      exact .inr (.inl (congrFun kept _))
    | served carries admitted settled =>
      refine ⟨?_, fun nothing => absurd carries (nothing _ _)⟩
      intro request payload other
      obtain ⟨rfl, rfl⟩ := carries_unique carries other
      rcases settled with ⟨_, absent | complete⟩ | ⟨short, held⟩
      · exact .inl absent
      · exact .inr (.inr complete)
      · rcases covered _ _ carries admitted with enough | same
        · omega
        · exact .inr (.inl (held.trans same.symm))

/-! Two bytes are declared and one arrives. -/

def shortRequest : TransferRequest := ⟨"/r", 2, Bytes.fill 32 0, none⟩

def shortPlatform : Platform :=
  { samplePlatform with transferRequest := recognise TransferRequest.encode [shortRequest] }

def openNode : NodeConfig := { sampleNode with allowUnauthenticatedOperations := true }

theorem short_carries :
    Carries shortPlatform (framed shortRequest.encode ++ [7]) shortRequest [7] := by
  have size : shortRequest.encode.length = 51 := by decide
  have header : ofBigEndian (bigEndian 4 shortRequest.encode.length) = shortRequest.encode.length :=
    of_big_endian_encoding 4 _ (by rw [size]; decide)
  refine .mk ?_ header.symm (by rw [size]; decide) ?_
  · rw [bigEndian, List.length_reverse, little_endian_length]
  · exact recognise_first TransferRequest.encode shortRequest []

/-- A stream that is cut leaves the first part of the file at its destination. -/
theorem cut_stream_leaves_partial : ∃ outcome after,
    Reaches (IntakeStep sampleNodeAnswers) (receiveTransfer shortPlatform (some openNode) ⟨0, none⟩)
      ⟨fun _ => none, framed shortRequest.encode ++ [7]⟩ (ofExcept outcome) after ∧
    after.disk "/r" = some [7] ∧
    ¬ LeavesNoPartial sampleNodeAnswers shortPlatform (some openNode) ⟨0, none⟩ (fun _ => none)
      (framed shortRequest.encode ++ [7]) := by
  have admitted : Admitted sampleNodeAnswers shortPlatform (some openNode) shortRequest := rfl
  obtain ⟨outcome, after, run⟩ := service_returns sampleNodeAnswers shortPlatform (some openNode)
    ⟨0, none⟩ (fun _ => none) (framed shortRequest.encode ++ [7])
  have held : after.disk "/r" = some [7] := by
    cases returned_ends run with
    | unread nothing kept => exact absurd short_carries (nothing _ _)
    | refused other refusal kept =>
      obtain ⟨rfl, rfl⟩ := carries_unique short_carries other
      exact absurd admitted refusal
    | served other _ settled =>
      obtain ⟨rfl, rfl⟩ := carries_unique short_carries other
      rcases settled with ⟨enough, _⟩ | ⟨_, held⟩
      · exact absurd enough (by decide)
      · exact held
  refine ⟨outcome, after, run, held, ?_⟩
  intro clean
  rcases (clean outcome after run).1 _ _ short_carries with absent | same | ⟨content, found, long, _⟩
  · cases held.symm.trans absent
  · cases held.symm.trans same
  · obtain rfl := Option.some.inj (held.symm.trans found)
    cases long
end Service

section Checksum
variable {left right : UInt64} {byte other : UInt8} {before after : List UInt8} (lane : Fin 4)

-- The multiplier is odd, so it has an inverse modulo 2 ^ 64.
theorem lane_undone (same : digestLane left byte = digestLane right other) :
    left ^^^ byte.toUInt64 = right ^^^ other.toUInt64 := by
  have inverse : TRANSFER_DIGEST_PRIME * 0xce965057aff6957b = 1 := by decide +kernel
  have undone := congrArg (· * 0xce965057aff6957b) same
  simpa only [digestLane, UInt64.mul_assoc, inverse, UInt64.mul_one] using undone

theorem lanes_injective (same : after.foldl digestLane left = after.foldl digestLane right) :
    left = right := by
  induction after generalizing left right with
  | nil => exact same
  | cons byte rest ih => exact (UInt64.xor_left_inj _).mp (lane_undone (ih same))

theorem changed_byte (same : (before ++ byte :: after).foldl digestLane left =
    (before ++ other :: after).foldl digestLane left) : byte = other := by
  simp only [List.foldl_append] at same
  exact UInt8.toUInt64_inj.mp ((UInt64.xor_right_inj _).mp (lane_undone (lanes_injective same)))

def laneOf (digest : TransferDigest) : UInt64 :=
  match lane with
  | 0 => digest.lane0
  | 1 => digest.lane1
  | 2 => digest.lane2
  | 3 => digest.lane3

-- The eight bytes of a digest that hold one lane.
def laneBytes (digest : Bytes 32) : List UInt8 := (digest.toList.drop (8 * lane)).take 8

theorem lane_bytes (digest : TransferDigest) (bytes : List UInt8) :
    laneBytes lane (finalizeTransferDigest (updateTransferDigest digest bytes)) =
      u64 (bytes.foldl digestLane (laneOf lane digest)) := by
  induction bytes generalizing digest with
  | nil => match lane with | 0 | 1 | 2 | 3 => rfl
  | cons byte rest ih =>
    refine (ih _).trans ?_
    match lane with | 0 | 1 | 2 | 3 => rfl

theorem transfer_digest_pieces_and_changes (pieces : List (List UInt8)) :
    finalizeTransferDigest (pieces.foldl updateTransferDigest .start) =
      transferDigest pieces.flatten ∧
    (laneBytes lane (transferDigest (before ++ byte :: after)) =
      laneBytes lane (transferDigest (before ++ other :: after)) ↔ byte = other) := by
  constructor
  · rw [transferDigest, updateTransferDigest, List.foldl_flatten]
    rfl
  · refine ⟨fun same => ?_, by rintro rfl; rfl⟩
    simp only [transferDigest, lane_bytes] at same
    exact changed_byte (u64_delimits _ _ [] [] trivial trivial (by rw [same])).1
end Checksum
end Misaka.SinglePassTransfer
