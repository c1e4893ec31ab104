import Misaka.CloudflareDirectory

/-!
When the directory is collected. Rows come in with an expiry and go out when the
alarm handler runs, so the alarm has to be set whenever there is a row, no later
than in the second of the earliest expiry. A request that is refused after its
nonce was spent leaves a row and does not look at the alarm.
-/

namespace Misaka.DirectoryAlarm
open Bincode Identity Protocol GatewayContract KeyedRows CloudflareDirectory
variable {directory : Directory} {clock : DateMs}

section Expiries
variable {env : Env} {expiry : Int}

theorem mem_expiries :
    expiry ∈ directory.expiries ↔
      (∃ key row, directory.peers.lookup key = some row ∧ row.expiresAt.toInt = expiry) ∨
      ∃ nonce time, directory.nonces.lookup nonce = some time ∧ time.toInt = expiry := by
  simp only [Directory.expiries, Multiset.mem_add, Multiset.mem_map, mem_values]
  constructor
  · rintro (⟨row, ⟨key, known⟩, rfl⟩ | ⟨time, ⟨nonce, known⟩, rfl⟩)
    · exact Or.inl ⟨key, row, known, rfl⟩
    · exact Or.inr ⟨nonce, time, known, rfl⟩
  · rintro (⟨key, row, known, rfl⟩ | ⟨nonce, time, known, rfl⟩)
    · exact Or.inl ⟨row, ⟨key, known⟩, rfl⟩
    · exact Or.inr ⟨time, ⟨nonce, known⟩, rfl⟩

/-- A row is covered by an alarm in the second of its expiry at the latest; once that
second is over, by one that is due. -/
def Covered (alarm : Option Int) (clock : DateMs) (expiry : Int) : Prop :=
  ∃ time, alarm = some time ∧ (time / 1000 ≤ expiry ∨ time ≤ clock.val)

def Armed (directory : Directory) (clock : DateMs) : Prop :=
  ∀ expiry ∈ directory.expiries, Covered directory.alarm clock expiry

theorem Covered.later {alarm : Option Int} {later : DateMs} (covered : Covered alarm clock expiry)
    (onward : clock ≤ later) :
    Covered alarm later expiry := by
  obtain ⟨time, set, due⟩ := covered
  rw [Fin.le_def] at onward
  exact ⟨time, set, due.imp_right fun reached => by omega⟩

def Dated (directory : Directory) : Prop := ∀ expiry ∈ directory.expiries, 0 ≤ expiry

theorem offset_of_dated (dated : 0 ≤ expiry) :
    offsetMs expiry (nowSecs clock) =
      min (expiry * 1000) (2 ^ 63 - 1) - ((clock.val / 1000 : Nat) : Int) * 1000 := by
  have bound := clock.isLt
  have seconds : (nowSecs clock).toInt64.toInt = ((clock.val / 1000 : Nat) : Int) := by
    rw [to_int64_int, now_secs_nat, if_pos (by omega)]
  have small : wrapping (((clock.val / 1000 : Nat) : Int) * 1000) =
      ((clock.val / 1000 : Nat) : Int) * 1000 := by
    unfold wrapping
    rw [Int.bmod_eq_of_le] <;> omega
  unfold offsetMs
  rw [seconds, small]
  unfold wrapping saturatingMul
  rw [Int.bmod_eq_of_le] <;> omega

theorem schedule_arms (dated : Dated directory) : Armed (directory.scheduleAlarm clock) clock := by
  intro expiry member
  have known : expiry ∈ directory.expiries := by
    rw [Directory.expiries, schedule_peers, schedule_nonces] at member
    exact member
  unfold Directory.scheduleAlarm
  cases first : least directory.expiries with
  | none =>
    rw [least_none first] at known
    cases known
  | some earliest =>
    obtain ⟨among, least⟩ := least_some first
    have reached := least expiry known
    refine ⟨_, rfl, ?_⟩
    rw [offset_of_dated (dated earliest among)]
    by_cases past : min (earliest * 1000) (2 ^ 63 - 1) ≤ ((clock.val / 1000 : Nat) : Int) * 1000
    · apply Or.inr
      omega
    · apply Or.inl
      omega

theorem spent_expiries {nonce : Bytes 16} {now : UInt64}
    (member : expiry ∈ (directory.spendNonce env nonce now).expiries) :
    expiry ∈ directory.expiries ∨ expiry = (now + nonceTtlSecs env).toInt64.toInt := by
  rcases mem_expiries.mp member with listed | ⟨other, time, known, rfl⟩
  · exact Or.inl (mem_expiries.mpr (Or.inl listed))
  · by_cases own : other = nonce
    · subst own
      rw [Directory.spendNonce, Finmap.lookup_insert] at known
      cases known
      exact Or.inr rfl
    · rw [Directory.spendNonce, Finmap.lookup_insert_of_ne _ own] at known
      exact Or.inl (mem_expiries.mpr (Or.inr ⟨other, time, known, rfl⟩))

theorem spent_listed (nonce : Bytes 16) (now : UInt64) :
    (now + nonceTtlSecs env).toInt64.toInt ∈ (directory.spendNonce env nonce now).expiries :=
  mem_expiries.mpr (Or.inr ⟨nonce, _, Finmap.lookup_insert _, rfl⟩)

theorem upsert_expiries {key : Int64} {excluded : PeerRow}
    (member : expiry ∈ (directory.upsertPeer key excluded).expiries) :
    expiry ∈ directory.expiries ∨ expiry = excluded.expiresAt.toInt := by
  rcases mem_expiries.mp member with ⟨other, row, known, rfl⟩ | listed
  · by_cases own : other = key
    · subst own
      rcases upsert_row known with ⟨rfl, _⟩ | ⟨old, before, _, _, _, renewed | same⟩
      · exact Or.inr rfl
      · exact Or.inr (congrArg Int64.toInt renewed)
      · rw [same]
        exact Or.inl (mem_expiries.mpr (Or.inl ⟨other, old, before, rfl⟩))
    · rw [upsert_other own] at known
      exact Or.inl (mem_expiries.mpr (Or.inl ⟨other, row, known, rfl⟩))
  · rw [upsert_nonces] at listed
    exact Or.inl (mem_expiries.mpr (Or.inr listed))

theorem collect_expiries {now : Int64} (member : expiry ∈ (directory.collect now).expiries) :
    expiry ∈ directory.expiries := by
  rcases mem_expiries.mp member with ⟨key, row, known, rfl⟩ | ⟨nonce, time, known, rfl⟩
  · rw [Directory.collect, lookup_retain, Option.filter_eq_some_iff] at known
    exact mem_expiries.mpr (Or.inl ⟨key, row, known.1, rfl⟩)
  · rw [Directory.collect, lookup_retain, Option.filter_eq_some_iff] at known
    exact mem_expiries.mpr (Or.inr ⟨nonce, time, known.1, rfl⟩)

theorem schedule_expiries : (directory.scheduleAlarm clock).expiries = directory.expiries := by
  rw [Directory.expiries, schedule_peers, schedule_nonces]
  rfl
end Expiries

section Steps
variable (platform : DirectoryPlatform) (env : Env)

/-- The two lifetimes end within the signed range, and with them every expiry. -/
structure InRange (clock : DateMs) : Prop where
  records : (nowSecs clock).toNat + (recordTtlSecs env).toNat < 2 ^ 63
  nonces : (nowSecs clock).toNat + (nonceTtlSecs env).toNat < 2 ^ 63

/-- An announce that is refused for its record, after its nonce was spent. -/
structure SpendsInVain (visit : Visit) (request : GatewayAnnounceRequest) : Prop where
  taken : visit.event.announces platform.toGatewayPlatform = some request
  authentic : Authentic platform.toCrypto request.auth
    (announceBodyBytes request.membership request.record) request.membership env.authority
    (nowSecs visit.clock) AUTH_WINDOW_SECS
  fresh : visit.before.spent request.auth.nonce = false
  bad : Unmatched platform request

/-- Such an announce meets an alarm that is early enough for its nonce. -/
def AlarmStands (visit : Visit) : Prop :=
  ∀ request, SpendsInVain platform env visit request →
    ∃ time, visit.before.alarm = some time ∧
      time / 1000 ≤ (nowSecs visit.clock).toNat + (nonceTtlSecs env).toNat

variable {platform env} {event : Event}

theorem sum_in_range {now lifetime : UInt64} (fits : now.toNat + lifetime.toNat < 2 ^ 63) :
    (now + lifetime).toInt64.toInt = now.toNat + lifetime.toNat := by
  have sum : (now + lifetime).toNat = now.toNat + lifetime.toNat := by
    rw [UInt64.toNat_add, Nat.mod_eq_of_lt (by omega)]
  rw [to_int64_int, sum, if_pos fits]
  omega

theorem dated_spend {nonce : Bytes 16} (dated : Dated directory) (inRange : InRange env clock) :
    Dated (directory.spendNonce env nonce (nowSecs clock)) := by
  intro expiry member
  rcases spent_expiries member with old | rfl
  · exact dated expiry old
  · rw [sum_in_range inRange.nonces]
    omega

theorem dated_upsert {record : PeerRecord} {membership : MembershipCertificate} {key : Int64}
    (dated : Dated directory) (inRange : InRange env clock) :
    Dated (directory.upsertPeer key (peerRow platform env record membership (nowSecs clock))) := by
  intro expiry member
  rcases upsert_expiries member with old | rfl
  · exact dated expiry old
  · rw [peerRow, sum_in_range inRange.records]
    omega

theorem dated_collect {now : Int64} (dated : Dated directory) : Dated (directory.collect now) :=
  fun expiry member => dated expiry (collect_expiries member)

theorem dated_schedule (dated : Dated directory) : Dated (directory.scheduleAlarm clock) := by
  intro expiry member
  rw [schedule_expiries] at member
  exact dated expiry member

theorem handle_dated (event : Event) (dated : Dated directory) (inRange : InRange env clock) :
    Dated (handle platform env event clock directory).2 := by
  have handled := @handling platform env directory clock event
  generalize (handle platform env event clock directory).1 = answer at handled
  generalize (handle platform env event clock directory).2 = after at handled ⊢
  cases handled with
  | failed | replayed => exact dated
  | unmatched => exact dated_spend dated inRange
  | announced => exact dated_schedule (dated_upsert (dated_spend dated inRange) inRange)
  | listed => exact dated_schedule (dated_spend dated inRange)
  | collected => exact dated_schedule (dated_collect dated)

theorem handle_armed (event : Event) (dated : Dated directory) (inRange : InRange env clock)
    (armed : Armed directory clock)
    (stands : AlarmStands platform env (visit platform env event clock directory)) :
    Armed (handle platform env event clock directory).2 clock := by
  have handled := @handling platform env directory clock event
  generalize (handle platform env event clock directory).1 = answer at handled
  generalize (handle platform env event clock directory).2 = after at handled ⊢
  cases handled with
  | failed | replayed => exact armed
  | @unmatched call request message status taken passed fresh bad =>
    intro expiry member
    rcases spent_expiries member with old | rfl
    · exact armed expiry old
    · obtain ⟨time, set, early⟩ := stands request ⟨taken, passed.authentic, fresh, bad⟩
      rw [sum_in_range inRange.nonces]
      exact ⟨time, set, Or.inl early⟩
  | announced => exact schedule_arms (dated_upsert (dated_spend dated inRange) inRange)
  | listed => exact schedule_arms (dated_spend dated inRange)
  | collected => exact schedule_arms (dated_collect dated)

theorem announces_body {request : GatewayAnnounceRequest}
    (taken : event.announces platform.toGatewayPlatform = some request) :
    ∃ body, event = .fetch (.announce body) ∧ platform.announceRequest body = .ok request := by
  cases event with
  | alarm => cases taken
  | fetch call =>
    cases call with
    | peers body => cases taken
    | announce body =>
      refine ⟨body, rfl, ?_⟩
      cases decoded : platform.announceRequest body with
      | error message =>
        rw [Event.announces, Call.announces, decoded] at taken
        cases taken
      | ok read =>
        rw [Event.announces, Call.announces, decoded] at taken
        cases taken
        rfl

/-- A nonce that was spent in vain stays uncovered unless an alarm stood before. -/
theorem armed_stands (inRange : InRange env clock)
    (armed : Armed (handle platform env event clock directory).2 clock) :
    AlarmStands platform env (visit platform env event clock directory) := by
  intro request vain
  obtain ⟨taken, authentic, fresh, bad⟩ := vain
  obtain ⟨body, sent, decoded⟩ := announces_body taken
  have after := handle_unmatched decoded (authentic_verifies authentic) fresh bad
  have same : event = .fetch (.announce body) := sent
  subst same
  have spent : (handle platform env (.fetch (.announce body)) clock directory).2 =
      directory.spendNonce env request.auth.nonce (nowSecs clock) := after
  rw [spent] at armed
  obtain ⟨time, set, due⟩ := armed _ (spent_listed request.auth.nonce (nowSecs clock))
  rw [sum_in_range inRange.nonces] at due
  refine ⟨time, set, ?_⟩
  rcases due with early | reached
  · exact early
  · have seconds := now_secs_nat clock
    have here : (nowSecs (visit platform env (.fetch (.announce body)) clock directory).clock).toNat =
        clock.val / 1000 := seconds
    rw [here]
    omega
end Steps

section Results
variable {platform : DirectoryPlatform} {env : Env} {visits : List Visit}

theorem history_dated (history : History platform env visits directory)
    (inRange : ∀ visit ∈ visits, InRange env visit.clock) : Dated directory := by
  have start : Dated Directory.new := by
    intro expiry member
    cases member
  exact (@history_invariant platform env visits directory Dated
    (fun visit => InRange env visit.clock) start
    (fun event clock directory dated fits => handle_dated event dated fits) history inRange).1

theorem history_armed (history : History platform env visits directory)
    (inRange : ∀ visit ∈ visits, InRange env visit.clock)
    (stands : ∀ visit ∈ visits, AlarmStands platform env visit) :
    (∀ clock, (∀ visit ∈ visits, visit.clock ≤ clock) → Armed directory clock) ∧
      ∀ visit ∈ visits, Armed visit.after visit.clock := by
  induction history with
  | start =>
    constructor
    · intro clock _ expiry member
      cases member
    · intro visit member
      cases member
  | @next visits directory history event clock onward earlier =>
    have last : visit platform env event clock directory ∈
        visits ++ [visit platform env event clock directory] := by simp
    obtain ⟨before, each⟩ := earlier
      (fun visit member => inRange visit (List.mem_append_left _ member))
      (fun visit member => stands visit (List.mem_append_left _ member))
    have dated := history_dated history fun visit member =>
      inRange visit (List.mem_append_left _ member)
    have after := handle_armed event dated (inRange _ last) (before clock onward) (stands _ last)
    constructor
    · intro later reached expiry member
      exact (after expiry member).later (reached _ last)
    · intro visit member
      rcases List.mem_append.mp member with old | new
      · exact each visit old
      · rw [List.mem_singleton.mp new]
        exact after

/-! A Sister that announces its own record, and one that announces another's. -/
def ownAnnounce : List GatewayAnnounceRequest := [memberAnnounce 1000 1 (memberRecord 3 900)]

def foreignAnnounce : List GatewayAnnounceRequest :=
  [memberAnnounce 1000 1 { memberRecord 3 900 with sisterId := 9 }]

theorem sample_in_range (clock : DateMs) : InRange sampleEnv clock := by
  have bound := clock.isLt
  constructor <;>
  · rw [now_secs_nat, sampleEnv]
    simp only [recordTtlSecs, nonceTtlSecs, Option.filter_none, Option.getD_none]
    have record : RECORD_TTL_SECS.toNat = 600 := by decide
    have nonce : NONCE_TTL_SECS.toNat = 900 := by decide
    omega

theorem directory_armed_iff (history : History platform env visits directory)
    (inRange : ∀ visit ∈ visits, InRange env visit.clock) :
    (∀ visit ∈ visits, Armed visit.after visit.clock) ↔
      ∀ visit ∈ visits, AlarmStands platform env visit := by
  constructor
  · intro armed visit member
    have taken := history_visit history visit member
    have after := armed visit member
    rw [taken] at after ⊢
    exact armed_stands (inRange visit member) after
  · intro stands
    exact (history_armed history inRange stands).2

theorem announce_arms :
    ∃ visits directory, History (sampleObject ownAnnounce []) sampleEnv visits directory ∧
      directory.expiries ≠ 0 ∧ ∀ visit ∈ visits, Armed visit.after visit.clock := by
  have unused : History (sampleObject ownAnnounce []) sampleEnv [] Directory.new := .start
  obtain ⟨after, handled, nonces, _⟩ := @member_announce_handled ownAnnounce [] Directory.new 1000000
    [0] 1000 1 3 900 rfl (by decide) rfl
  have history := unused.step handled (by simp)
  refine ⟨_, _, history, ?_, (directory_armed_iff history fun _ _ => sample_in_range _).mpr ?_⟩
  · intro empty
    have spent : NONCE_TTL_SECS.toInt64.toInt + 1000 ∈ after.expiries :=
      mem_expiries.mpr (Or.inr ⟨Bytes.fill 16 1, _, by rw [nonces]; exact Finmap.lookup_insert _,
        by decide⟩)
    rw [empty] at spent
    cases spent
  · intro visit member request vain
    rw [List.mem_singleton.mp member] at vain
    obtain ⟨taken, _, _, bad⟩ := vain
    cases taken
    rcases bad with mismatch | invalid
    · cases (member_record_matches 3 900).symm.trans mismatch
    · cases (@member_record_verifies ownAnnounce [] 3 900).symm.trans invalid

/-- The nonce of the refused announce is there for good: nothing is scheduled. -/
theorem foreign_announce_unarmed :
    ∃ visits directory, History (sampleObject foreignAnnounce []) sampleEnv visits directory ∧
      directory.nonces.lookup (Bytes.fill 16 1) = some 1900 ∧ directory.alarm = none ∧
      ∀ clock, ¬ Armed directory clock := by
  have unused : History (sampleObject foreignAnnounce []) sampleEnv [] Directory.new := .start
  have onward : ∀ visit ∈ ([] : List Visit), visit.clock ≤ 1000000 := by simp
  have history := unused.next (.fetch (.announce [0])) onward
  have after := @handle_unmatched (sampleObject foreignAnnounce []) sampleEnv Directory.new 1000000
    [0] memberKey (memberAnnounce 1000 1 { memberRecord 3 900 with sisterId := 9 }) rfl
    (member_verified _ _ (by decide)) rfl (Or.inl (by decide))
  rw [after] at history
  refine ⟨_, _, history, Finmap.lookup_insert _, rfl, ?_⟩
  intro clock armed
  obtain ⟨time, set, _⟩ := armed _ (spent_listed _ _)
  cases set
end Results
end Misaka.DirectoryAlarm
