import Misaka.EnrollmentContracts
import Misaka.MembershipSerials

/-!
The commands that issue memberships on one authority directory. A redemption and
the owner's own membership take their serial from the allocator; a legacy invite
takes the clock, and the owner's human membership always has serial 1. A command
that ends in an error before it issues anything is no step here.
-/

namespace Misaka.MembershipIssuance
open Bincode Identity EnrollmentContracts MembershipSerials

-- The processes that open the allocator.
inductive Holder where
  | server (process : Nat)
  | networkInit (process : Nat)
deriving DecidableEq

inductive Issued where
  | networkInit (certificate : MembershipCertificate)
  | enrollment (certificate : MembershipCertificate)
  | legacyInvite (certificate : MembershipCertificate)
  | humanInit (certificate : HumanMembershipCertificate)
deriving DecidableEq

def Issued.kind : Issued → MembershipKind
  | .networkInit _ | .enrollment _ | .legacyInvite _ => .sister
  | .humanInit _ => .human

def Issued.key : Issued → PublicKey
  | .networkInit certificate | .enrollment certificate | .legacyInvite certificate =>
    certificate.sisterPublicKey
  | .humanInit certificate => certificate.human.publicKey

def Issued.serial : Issued → UInt64
  | .networkInit certificate | .enrollment certificate | .legacyInvite certificate =>
    certificate.serial
  | .humanInit certificate => certificate.serial

structure AuthorityDirectory where
  store : SerialStore Holder
  sisterId : SisterId
  sisterKey : PublicKey
  membership : Option MembershipCertificate
  human : Option HumanIdentity
  humanMembership : Option HumanMembershipCertificate
  issued : List Issued

inductive Command where
  -- What the allocator's users do up to the return of `allocate`.
  | serials (action : StoreAction Holder)
  -- From a serial that was allocated to the certificate.
  | redeem (process : Nat) (request : EnrollmentRequest) (now : UInt64)
  | networkInit (process : Nat) (now : UInt64)
  | legacyInvite (targetKey : PublicKey) (targetId : SisterId) (now lifetime : UInt64)
  | humanInit (fresh : HumanIdentity) (now : UInt64)

section Commands
variable (sign : PublicKey → List UInt8 → Signature) (authority : NetworkAuthority)

def issue (sisterPublicKey : PublicKey) (sisterId : SisterId) (issuedAt : UInt64)
    (expiresAt : Option UInt64) (serial : UInt64) : MembershipCertificate :=
  let certificate : MembershipCertificate :=
    ⟨authority.networkId, sisterPublicKey, sisterId, issuedAt, expiresAt, serial, Bytes.fill 64 0⟩
  { certificate with
    authoritySignature := sign authority.authorityPublicKey certificate.signingBytes }

def issueHuman (human : HumanIdentity) (role : Role) (issuedAt : UInt64)
    (expiresAt : Option UInt64) (serial : UInt64) : HumanMembershipCertificate :=
  let certificate : HumanMembershipCertificate :=
    ⟨authority.networkId, human, role, issuedAt, expiresAt, serial, Bytes.fill 64 0⟩
  { certificate with
    authoritySignature := sign authority.authorityPublicKey certificate.signingBytes }

def opensForInit : StoreAction Holder → Bool
  | .openStore (.networkInit _) => true
  | _ => false

variable (directory : AuthorityDirectory)

-- `network init` looks for a saved membership before it opens the allocator.
def AuthorityDirectory.serials (action : StoreAction Holder) :
    AuthorityDirectory :=
  if opensForInit action && directory.membership.isSome then directory
  else { directory with store := directory.store.act action }

def AuthorityDirectory.redeem (process : Nat) (request : EnrollmentRequest) (now : UInt64) :
    AuthorityDirectory :=
  match directory.store.publish (.server process) with
  | some (serial, store) =>
    { directory with
      store
      issued := .enrollment (issue sign authority request.sisterPublicKey request.sisterId now
        none serial) :: directory.issued }
  | none => directory

def AuthorityDirectory.networkInit (process : Nat) (now : UInt64) : AuthorityDirectory :=
  match directory.store.publish (.networkInit process) with
  | some (serial, store) =>
    let membership := issue sign authority directory.sisterKey directory.sisterId now none serial
    { directory with
      store
      membership := some membership
      issued := .networkInit membership :: directory.issued }
  | none => directory

def AuthorityDirectory.legacyInvite (targetKey : PublicKey) (targetId : SisterId)
    (now lifetime : UInt64) : AuthorityDirectory :=
  { directory with
    issued := .legacyInvite (issue sign authority targetKey targetId now
      (some (saturatingAdd now lifetime)) (max now 1)) :: directory.issued }

-- The identity and its key are made once and then loaded.
def AuthorityDirectory.humanInit (fresh : HumanIdentity) (now : UInt64) : AuthorityDirectory :=
  let human := directory.human.getD fresh
  match directory.humanMembership with
  | some _ => { directory with human := some human }
  | none =>
    let membership := issueHuman sign authority human .owner now none 1
    { directory with
      human := some human
      humanMembership := some membership
      issued := .humanInit membership :: directory.issued }

def AuthorityDirectory.perform : Command → AuthorityDirectory
  | .serials action => directory.serials action
  | .redeem process request now => directory.redeem sign authority process request now
  | .networkInit process now => directory.networkInit sign authority process now
  | .legacyInvite targetKey targetId now lifetime =>
    directory.legacyInvite sign authority targetKey targetId now lifetime
  | .humanInit fresh now => directory.humanInit sign authority fresh now

def AuthorityDirectory.run (commands : List Command) :
    AuthorityDirectory :=
  commands.foldl (AuthorityDirectory.perform sign authority) directory

/-- The allocator is used carefully and stays at or below a limit; a legacy invite
is made at a clock above that limit, and at a second at which no other key was
invited before. -/
def CarefulCommand (limit : UInt64) (directory : AuthorityDirectory) : Command → Prop
  | .serials action => Careful directory.store action ∧
      ∀ handle, action = .lock handle → ∀ state ∈ directory.store.handles handle,
        state.counter < limit
  | .legacyInvite targetKey _ now _ => limit < now ∧ ∀ certificate,
      .legacyInvite certificate ∈ directory.issued → certificate.issuedAt = now →
        certificate.sisterPublicKey = targetKey
  | _ => True

def CarefulCommands (limit : UInt64) (directory : AuthorityDirectory) : List Command → Prop
  | [] => True
  | command :: rest => CarefulCommand limit directory command ∧
      CarefulCommands limit (directory.perform sign authority command) rest

-- A directory on which nothing was issued yet and no process runs.
def AuthorityDirectory.Fresh (directory : AuthorityDirectory) : Prop :=
  (∃ file, directory.store = SerialStore.start file) ∧ directory.issued = []
end Commands

/-! The serials that came from the allocator. -/
section Allocated

def Issued.allocated : Issued → Bool
  | .networkInit _ | .enrollment _ => true
  | .legacyInvite _ | .humanInit _ => false

def allocatedSerials (issued : List Issued) : List UInt64 :=
  (issued.filter Issued.allocated).map Issued.serial

/-- What careful commands keep. -/
structure Separate (limit : UInt64) (directory : AuthorityDirectory) : Prop where
  ahead : Ahead directory.store
  below : ∀ handle counter written,
    directory.store.handles handle = some ⟨counter, some written⟩ → counter < limit
  returned : ∀ serial ∈ allocatedSerials directory.issued, serial ∈ directory.store.returned
  distinct : (allocatedSerials directory.issued).Nodup
  bounded : ∀ serial ∈ allocatedSerials directory.issued, serial ≤ limit
  invited : ∀ certificate, .legacyInvite certificate ∈ directory.issued →
    limit < certificate.serial ∧ certificate.serial = certificate.issuedAt
  seconds : ∀ first second, .legacyInvite first ∈ directory.issued →
    .legacyInvite second ∈ directory.issued → first.issuedAt = second.issuedAt →
      first.sisterPublicKey = second.sisterPublicKey
  humans : ∀ certificate, .humanInit certificate ∈ directory.issued →
    directory.human = some certificate.human

variable {limit : UInt64} {directory : AuthorityDirectory}

theorem separate_start (fresh : directory.Fresh) : Separate limit directory := by
  obtain ⟨⟨file, store⟩, none⟩ := fresh
  constructor
  · rw [store]
    exact ahead_start file
  · intro handle counter written held
    rw [store] at held
    cases held
  all_goals simp [none, allocatedSerials]

theorem separate_serials (separate : Separate limit directory) {action : StoreAction Holder}
    (careful : CarefulCommand limit directory (.serials action)) :
    Separate limit (directory.serials action) := by
  unfold AuthorityDirectory.serials
  split
  · exact separate
  · constructor
    · exact ahead_step separate.ahead careful.1
    · intro handle counter written held
      rcases writing_after held with ⟨earlier, before⟩ | ⟨begins, idle⟩
      · exact separate.below handle counter earlier before
      · exact careful.2 handle begins _ idle
    · intro serial member
      exact (act_returned action).subset (separate.returned serial member)
    · exact separate.distinct
    · exact separate.bounded
    · exact separate.invited
    · exact separate.seconds
    · exact separate.humans

theorem next_serial_le {counter : UInt64} (below : counter < limit) :
    nextSerial counter ≤ limit := by
  rw [UInt64.lt_iff_toNat_lt] at below
  rw [nextSerial, UInt64.le_iff_toNat_le]
  split
  · rw [UInt64.toNat_add]
    simp only [UInt64.toNat_one]
    omega
  · omega

/-- A certificate with a serial the allocator has just returned. -/
theorem separate_allocated (separate : Separate limit directory) {holder : Holder}
    {store : SerialStore Holder} {item : Issued} (membership : Option MembershipCertificate)
    (published : directory.store.publish holder = some (item.serial, store))
    (allocated : item.allocated = true) :
    Separate limit { directory with store, membership, issued := item :: directory.issued } := by
  have grown : allocatedSerials (item :: directory.issued) =
      item.serial :: allocatedSerials directory.issued := by
    rw [allocatedSerials, List.filter_cons_of_pos allocated, List.map_cons, allocatedSerials]
  have invites : ∀ certificate, .legacyInvite certificate ∈ item :: directory.issued →
      .legacyInvite certificate ∈ directory.issued := by
    intro certificate member
    rcases List.mem_cons.mp member with rfl | member
    · cases allocated
    · exact member
  have ahead := ahead_publish separate.ahead published
  have new : item.serial ∉ directory.store.returned := by
    have distinct := ahead.distinct
    rw [publish_returned published] at distinct
    exact (List.nodup_cons.mp distinct).1
  constructor
  · exact ahead
  · intro handle counter written held
    obtain ⟨_, _, _, rfl⟩ := publish_cases published
    by_cases same : handle = holder
    · subst same
      cases (set_handles_self _).symm.trans held
    · exact separate.below handle counter written ((set_handles_other same _).symm.trans held)
  · intro earlier member
    rw [grown] at member
    rw [publish_returned published]
    rcases List.mem_cons.mp member with rfl | member
    · exact List.mem_cons_self
    · exact List.mem_cons_of_mem _ (separate.returned earlier member)
  · rw [grown]
    apply List.nodup_cons.mpr
    exact ⟨fun member => new (separate.returned _ member), separate.distinct⟩
  · intro earlier member
    rw [grown] at member
    rcases List.mem_cons.mp member with rfl | member
    · obtain ⟨counter, held, serial, _⟩ := publish_cases published
      rw [serial]
      exact next_serial_le (separate.below holder counter _ held)
    · exact separate.bounded earlier member
  · intro certificate member
    exact separate.invited certificate (invites certificate member)
  · intro first second firstly secondly
    exact separate.seconds first second (invites first firstly) (invites second secondly)
  · intro certificate member
    rcases List.mem_cons.mp member with rfl | member
    · cases allocated
    · exact separate.humans certificate member

theorem max_one_above {now : UInt64} (above : limit < now) : max now 1 = now := by
  rw [UInt64.lt_iff_toNat_lt] at above
  have one : (1 : UInt64) ≤ now := by
    rw [UInt64.le_iff_toNat_le, UInt64.toNat_one]
    omega
  change (if now ≤ 1 then 1 else now) = now
  split
  · rename_i small
    exact UInt64.le_antisymm one small
  · rfl

variable {sign : PublicKey → List UInt8 → Signature} {authority : NetworkAuthority}
variable (separate : Separate limit directory)
include separate

theorem separate_invite {targetKey : PublicKey} {targetId : SisterId} {now lifetime : UInt64}
    (careful : CarefulCommand limit directory (.legacyInvite targetKey targetId now lifetime)) :
    Separate limit (directory.legacyInvite sign authority targetKey targetId now lifetime) := by
  obtain ⟨above, alone⟩ := careful
  refine ⟨separate.ahead, separate.below, separate.returned, separate.distinct, separate.bounded,
    ?_, ?_, ?_⟩
  · intro certificate member
    rcases List.mem_cons.mp member with new | member
    · obtain rfl := Issued.legacyInvite.inj new
      have serial : max now 1 = now := max_one_above above
      exact ⟨serial.symm ▸ above, serial⟩
    · exact separate.invited certificate member
  · intro first second firstly secondly same
    rcases List.mem_cons.mp firstly with new | firstly
    · obtain rfl := Issued.legacyInvite.inj new
      rcases List.mem_cons.mp secondly with new | secondly
      · obtain rfl := Issued.legacyInvite.inj new
        rfl
      · exact (alone second secondly same.symm).symm
    · rcases List.mem_cons.mp secondly with new | secondly
      · obtain rfl := Issued.legacyInvite.inj new
        exact alone first firstly same
      · exact separate.seconds first second firstly secondly same
  · intro certificate member
    rcases List.mem_cons.mp member with new | member
    · cases new
    · exact separate.humans certificate member

theorem separate_human (fresh : HumanIdentity) (now : UInt64) :
    Separate limit (directory.humanInit sign authority fresh now) := by
  have loaded : ∀ certificate, .humanInit certificate ∈ directory.issued →
      some (directory.human.getD fresh) = some certificate.human := by
    intro certificate member
    rw [separate.humans certificate member, Option.getD_some]
  unfold AuthorityDirectory.humanInit
  split
  · exact { separate with humans := loaded }
  · refine ⟨separate.ahead, separate.below, separate.returned, separate.distinct,
      separate.bounded, ?_, ?_, ?_⟩
    · intro certificate member
      rcases List.mem_cons.mp member with new | member
      · cases new
      · exact separate.invited certificate member
    · intro first second firstly secondly
      rcases List.mem_cons.mp firstly with new | firstly
      · cases new
      · rcases List.mem_cons.mp secondly with new | secondly
        · cases new
        · exact separate.seconds first second firstly secondly
    · intro certificate member
      rcases List.mem_cons.mp member with new | member
      · obtain rfl := Issued.humanInit.inj new
        rfl
      · exact loaded certificate member

theorem separate_step {command : Command} (careful : CarefulCommand limit directory command) :
    Separate limit (directory.perform sign authority command) := by
  cases command with
  | serials action => exact separate_serials separate careful
  | redeem process request now =>
    simp only [AuthorityDirectory.perform, AuthorityDirectory.redeem]
    split
    · rename_i serial store published
      exact separate_allocated separate directory.membership published rfl
    · exact separate
  | networkInit process now =>
    simp only [AuthorityDirectory.perform, AuthorityDirectory.networkInit]
    split
    · rename_i serial store published
      exact separate_allocated separate _ published rfl
    · exact separate
  | legacyInvite targetKey targetId now lifetime => exact separate_invite separate careful
  | humanInit fresh now => exact separate_human separate fresh now

theorem separate_run {commands : List Command}
    (careful : CarefulCommands sign authority limit directory commands) :
    Separate limit (directory.run sign authority commands) := by
  induction commands generalizing directory with
  | nil => exact separate
  | cons command rest ih => exact ih (separate_step separate careful.1) careful.2

/-- A serial from the allocator is not the second of a legacy invite, and belongs
to one certificate. -/
theorem allocated_once {first second : Issued} (firstly : first ∈ directory.issued)
    (secondly : second ∈ directory.issued) (allocated : first.allocated = true)
    (kind : second.kind = .sister) (same : first.serial = second.serial) : first = second := by
  have chosen : first ∈ directory.issued.filter Issued.allocated :=
    List.mem_filter.mpr ⟨firstly, allocated⟩
  have once : second.allocated = true → first = second := by
    intro also
    apply List.inj_on_of_nodup_map separate.distinct chosen _ same
    exact List.mem_filter.mpr ⟨secondly, also⟩
  cases second with
  | networkInit certificate | enrollment certificate => exact once rfl
  | legacyInvite certificate =>
    have below := separate.bounded first.serial (List.mem_map_of_mem chosen)
    have above := (separate.invited certificate secondly).1
    rw [same] at below
    exact absurd below (UInt64.not_le.mpr above)
  | humanInit certificate => cases kind

theorem separate_keys {first second : Issued} (firstly : first ∈ directory.issued)
    (secondly : second ∈ directory.issued) (kind : first.kind = second.kind)
    (serial : first.serial = second.serial) :
    first.key = second.key := by
  cases first with
  | networkInit certificate | enrollment certificate =>
    rw [allocated_once separate firstly secondly rfl kind.symm serial]
  | legacyInvite certificate =>
    cases second with
    | networkInit _
    | enrollment _ => rw [allocated_once separate secondly firstly rfl rfl serial.symm]
    | legacyInvite other =>
      apply separate.seconds certificate other firstly secondly
      rw [← (separate.invited certificate firstly).2, ← (separate.invited other secondly).2]
      exact serial
    | humanInit _ => cases kind
  | humanInit certificate =>
    cases second with
    | humanInit other =>
      have human := (separate.humans certificate firstly).symm.trans
        (separate.humans other secondly)
      exact congrArg HumanIdentity.publicKey (Option.some.inj human)
    | _ => cases kind

omit separate

/-- Over careful commands no two certificates of one kind for different keys share
a serial. -/
theorem issued_serials_separate (limit : UInt64) {directory : AuthorityDirectory}
    (fresh : directory.Fresh) {commands : List Command}
    (careful : CarefulCommands sign authority limit directory commands) {first second : Issued}
    (firstly : first ∈ (directory.run sign authority commands).issued)
    (secondly : second ∈ (directory.run sign authority commands).issued)
    (kind : first.kind = second.kind) (different : first.key ≠ second.key) :
    first.serial ≠ second.serial :=
  fun serial => different
    (separate_keys (separate_run (separate_start fresh) careful) firstly secondly kind serial)
end Allocated

/-! A directory of its own, and two members. -/

def sampleAuthority : NetworkAuthority := ⟨⟨Bytes.fill 16 1⟩, Bytes.fill 32 2⟩

def sampleDirectory : AuthorityDirectory where
  store := SerialStore.start none
  sisterId := 1
  sisterKey := Bytes.fill 32 3
  membership := none
  human := none
  humanMembership := none
  issued := []

-- No modelled command reads a signature.
def sampleSign (_ : PublicKey) (_ : List UInt8) : Signature := Bytes.fill 64 9

def sampleCommands : List Command :=
  .serials (.openStore (.networkInit 0)) ::
    (allocation (.networkInit 0) 1).dropLast.map .serials ++
    [.networkInit 0 1700000000, .legacyInvite (Bytes.fill 32 4) 2 1700000060 3600]

theorem sample_opened_quiet :
    Quiet ((SerialStore.start none).openStore (Holder.networkInit 0)) := by
  intro other
  by_cases same : other = .networkInit 0
  · subst same
    rfl
  · exact congrArg (Option.bind · Opened.written) (set_handles_other same _)

theorem sample_commands_careful :
    CarefulCommands sampleSign sampleAuthority 1000000 sampleDirectory sampleCommands := by
  refine ⟨⟨fun _ => rfl, nofun⟩, ⟨⟨sample_opened_quiet, Or.inl rfl, ?_⟩, ?_⟩, ⟨trivial, nofun⟩,
    trivial, ⟨by decide, ?_⟩, trivial⟩
  · rintro state ⟨⟩
    decide
  · rintro _ ⟨⟩ state ⟨⟩
    decide
  · intro certificate member
    have none : Issued.legacyInvite certificate ∉
        [Issued.networkInit (issue sampleSign sampleAuthority (Bytes.fill 32 3) 1 1700000000 none
          1)] := by simp
    exact absurd member none

theorem owner_and_invited_separate :
    (Issued.legacyInvite (issue sampleSign sampleAuthority (Bytes.fill 32 4) 2 1700000060
      (some 1700003660) 1700000060)).serial ≠
    (Issued.networkInit (issue sampleSign sampleAuthority (Bytes.fill 32 3) 1 1700000000 none
      1)).serial := by
  apply issued_serials_separate 1000000 ⟨⟨none, rfl⟩, rfl⟩ sample_commands_careful
  · decide +kernel
  · decide +kernel
  · rfl
  · decide +kernel

/-- Two keys invited in the same second get the same serial. -/
theorem invited_serials_collide :
    ((sampleDirectory.run sampleSign sampleAuthority
      [.legacyInvite (Bytes.fill 32 4) 2 1700000000 3600,
        .legacyInvite (Bytes.fill 32 5) 3 1700000000 3600]).issued.map
      fun issued => (issued.kind, issued.serial, issued.key)) =
      [(.sister, 1700000000, Bytes.fill 32 5), (.sister, 1700000000, Bytes.fill 32 4)] := by
  decide +kernel
end Misaka.MembershipIssuance
