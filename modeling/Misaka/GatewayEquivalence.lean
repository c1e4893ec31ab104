import Misaka.DirectoryAlarm
import Misaka.DirectorySequence
import Misaka.NativeGateway

/-!
The native Gateway beside the Durable Object, with one authority, one set of
lifetimes and one clock, under the same requests. Alarms reach only the object.
What the two hosts keep differs in what has expired: the native host drops spent
nonces when the next one comes in and never drops an entry, the object drops both
when its alarm goes off. The relation between the two states is about what is
live, and it lasts as long as the requests do not depend on the difference.
-/

namespace Misaka.GatewayEquivalence
open Bincode Identity Protocol GatewayContract KeyedRows CloudflareDirectory
open DirectorySequence (SameSide same_side_lt)
open DirectoryAlarm (InRange sample_in_range sum_in_range)
open NativeGateway (Gateway GatewayAnswer GatewayConfig GatewayError DirectoryEntry)
variable {gateway : Gateway} {directory : Directory} {clock : DateMs} {event : Event}
variable {gateway' : Gateway} {directory' : Directory} {object : Option Response}

/-- The native deployment with the lifetimes of the object's environment. -/
def nativeConfig (env : Env) : GatewayConfig :=
  ⟨env.authority, recordTtlSecs env, AUTH_WINDOW_SECS, nonceTtlSecs env⟩

abbrev NativeResult := Option (Except GatewayError GatewayAnswer)

structure Visit where
  event : Event
  clock : DateMs
  gateway : Gateway
  directory : Directory
  native : NativeResult
  object : Option Response

section Hosts
variable (platform : DirectoryPlatform) (env : Env) (event : Event) (clock : DateMs)

def nativeHandle (gateway : Gateway) : NativeResult × Gateway :=
  match event with
  | .fetch call =>
    let (answer, gateway) := NativeGateway.serve platform.toGatewayPlatform (nativeConfig env) call
      (nowSecs clock) (nowSecs clock) gateway
    (some answer, gateway)
  | .alarm => (none, gateway)

def visit (gateway : Gateway) (directory : Directory) : Visit :=
  ⟨event, clock, gateway, directory, (nativeHandle platform env event clock gateway).1,
    (handle platform env event clock directory).1⟩

inductive History : List Visit → Gateway → Directory → Prop where
  | start : History [] Gateway.new Directory.new
  | next {visits : List Visit} {gateway : Gateway} {directory : Directory}
      (history : History visits gateway directory) (event : Event) {clock : DateMs}
      (onward : ∀ visit ∈ visits, visit.clock ≤ clock) :
      History (visits ++ [visit platform env event clock gateway directory])
        (nativeHandle platform env event clock gateway).2
        (handle platform env event clock directory).2

/-- The two answers mean the same to the caller. -/
inductive Agree : NativeResult → Option Response → Prop where
  | accepted : Agree (some (.ok .noContent)) (some .noContent)
  | listed {records listing : Multiset PeerRecord}
      (same : ∀ record, record ∈ records ↔ record ∈ listing) :
      Agree (some (.ok (.peers records))) (some (.records listing))
  | refused {error : GatewayError} {message : String} {status : Nat} :
      Agree (some (.error error)) (some (.error message status))
  | failed {error : GatewayError} {message : String} :
      Agree (some (.error error)) (some (.failed message))
  | silent : Agree none none

def Event.Passes (auth : GatewayAuth) : Prop :=
  ∃ call membership body, event = .fetch call ∧
    Admitted platform env call clock auth membership body

def Event.Spends (nonce : Bytes 16) : Prop :=
  ∃ auth, Event.Passes platform env event clock auth ∧ auth.nonce = nonce

/-- An announce that both hosts write down. -/
structure Announces (event : Event) (clock : DateMs) (request : GatewayAnnounceRequest) : Prop where
  taken : event.announces platform.toGatewayPlatform = some request
  authentic : Authentic platform.toCrypto request.auth
    (announceBodyBytes request.membership request.record) request.membership env.authority
    (nowSecs clock) AUTH_WINDOW_SECS
  matched : recordMatchesMembership request.record request.membership = true
  verified : request.record.verify platform.verifies = true

/-- Everything one event can do to both hosts, if they agree on the nonce. -/
inductive Meeting (gateway : Gateway) (directory : Directory) (clock : DateMs) :
    Event → NativeResult → Option Response → Gateway → Directory → Prop where
  | refused {call : Call} {error : GatewayError} {message : String}
      (fails : ∀ auth, ¬ Event.Passes platform env (.fetch call) clock auth) :
      Meeting gateway directory clock (.fetch call) (some (.error error)) (some (.failed message))
        gateway directory
  | replayed {call : Call} {auth : GatewayAuth}
      (passes : Event.Passes platform env (.fetch call) clock auth)
      (spent : directory.spent auth.nonce = true) :
      Meeting gateway directory clock (.fetch call) (some (.error .replayed))
        (some (.error "replayed nonce" 401))
        (gateway.spend (nativeConfig env) (nowSecs clock) auth.nonce) directory
  | unmatched {call : Call} {auth : GatewayAuth} {error : GatewayError} {message : String}
      {status : Nat} (passes : Event.Passes platform env (.fetch call) clock auth) :
      Meeting gateway directory clock (.fetch call) (some (.error error))
        (some (.error message status))
        (gateway.spend (nativeConfig env) (nowSecs clock) auth.nonce)
        (directory.spendNonce env auth.nonce (nowSecs clock))
  | announced {call : Call} {request : GatewayAnnounceRequest}
      (announces : Announces platform env (.fetch call) clock request)
      (passes : Event.Passes platform env (.fetch call) clock request.auth) :
      Meeting gateway directory clock (.fetch call) (some (.ok .noContent)) (some .noContent)
        ((gateway.spend (nativeConfig env) (nowSecs clock) request.auth.nonce).upsert
          (nativeConfig env) (nowSecs clock) request.record request.membership)
        (((directory.spendNonce env request.auth.nonce (nowSecs clock)).upsertPeer
          request.record.sisterId.toInt64
          (peerRow platform env request.record request.membership (nowSecs clock))).scheduleAlarm
            clock)
  | listed {call : Call} {auth : GatewayAuth}
      (passes : Event.Passes platform env (.fetch call) clock auth) :
      Meeting gateway directory clock (.fetch call)
        (some (.ok (.peers (gateway.liveRecords (nowSecs clock)))))
        (some (.records (directory.liveRecords platform (nowSecs clock))))
        (gateway.spend (nativeConfig env) (nowSecs clock) auth.nonce)
        ((directory.spendNonce env auth.nonce (nowSecs clock)).scheduleAlarm clock)
  | collected :
      Meeting gateway directory clock .alarm none none gateway
        ((directory.collect (nowSecs clock).toInt64).scheduleAlarm clock)
end Hosts

section Meetings
variable {platform : DirectoryPlatform} {env : Env}

def SpendAlike (platform : DirectoryPlatform) (env : Env) (gateway : Gateway)
    (directory : Directory) (event : Event) (clock : DateMs) : Prop :=
  ∀ nonce, Event.Spends platform env event clock nonce →
    gateway.blocks (nowSecs clock) nonce = directory.spent nonce

theorem passes_verified {call : Call} {auth : GatewayAuth}
    (passes : Event.Passes platform env (.fetch call) clock auth) :
    (∃ request, call.announces platform.toGatewayPlatform = some request ∧
      ∃ key, verifyRequest platform.toCrypto request.auth
        (announceBodyBytes request.membership request.record) request.membership env.authority
        (nowSecs clock) AUTH_WINDOW_SECS = .ok key) ∨
    ∃ query, call.queries platform.toGatewayPlatform = some query ∧
      ∃ key, verifyRequest platform.toCrypto query.auth peersBodyBytes query.membership
        env.authority (nowSecs clock) AUTH_WINDOW_SECS = .ok key := by
  obtain ⟨call', membership, body, same, passed⟩ := passes
  cases same
  have verified := authentic_verifies passed.authentic
  rcases passed.carried with ⟨request, taken, rfl, rfl, rfl⟩ | ⟨query, queried, rfl, rfl, rfl⟩
  · exact Or.inl ⟨request, taken, _, verified⟩
  · exact Or.inr ⟨query, queried, _, verified⟩

theorem announce_meeting (body : List UInt8)
    (alike : SpendAlike platform env gateway directory (.fetch (.announce body)) clock) :
    Meeting platform env gateway directory clock (.fetch (.announce body))
      (some (NativeGateway.announce platform.toGatewayPlatform (nativeConfig env) (nowSecs clock)
        (nowSecs clock) body gateway).1)
      (some (handleAnnounce platform env clock body directory).1)
      (NativeGateway.announce platform.toGatewayPlatform (nativeConfig env) (nowSecs clock)
        (nowSecs clock) body gateway).2
      (handleAnnounce platform env clock body directory).2 := by
  unfold NativeGateway.announce handleAnnounce
  cases decoded : platform.announceRequest body with
  | error message =>
    apply Meeting.refused
    intro auth passes
    rcases passes_verified passes with ⟨request, taken, _⟩ | ⟨query, queried, _⟩
    · rw [Call.announces, decoded] at taken
      cases taken
    · cases queried
  | ok request =>
    have taken : (Call.announce body).announces platform.toGatewayPlatform = some request := by
      rw [Call.announces, decoded]
      rfl
    dsimp only [NativeGateway.Gateway.authenticate, nativeConfig]
    cases verdict : verifyRequest platform.toCrypto request.auth
        (announceBodyBytes request.membership request.record) request.membership env.authority
        (nowSecs clock) AUTH_WINDOW_SECS with
    | error cause =>
      apply Meeting.refused
      intro auth passes
      rcases passes_verified passes with ⟨request', taken', key, verified⟩ | ⟨query, queried, _⟩
      · cases taken.symm.trans taken'
        rw [verdict] at verified
        cases verified
      · cases queried
    | ok key =>
      have authentic := verify_request_ok verdict
      have passes : Event.Passes platform env (.fetch (.announce body)) clock request.auth :=
        ⟨_, _, _, rfl, Or.inl ⟨request, taken, rfl, rfl, rfl⟩, authentic⟩
      rw [alike request.auth.nonce ⟨request.auth, passes, rfl⟩]
      cases spent : directory.spent request.auth.nonce with
      | true => exact .replayed passes spent
      | false =>
        cases matched : recordMatchesMembership request.record request.membership with
        | false => exact .unmatched passes
        | true =>
          cases verified : request.record.verify platform.verifies with
          | false => exact .unmatched passes
          | true => exact .announced ⟨taken, authentic, matched, verified⟩ passes

theorem peers_meeting (body : List UInt8)
    (alike : SpendAlike platform env gateway directory (.fetch (.peers body)) clock) :
    Meeting platform env gateway directory clock (.fetch (.peers body))
      (some (NativeGateway.peers platform.toGatewayPlatform (nativeConfig env) (nowSecs clock)
        (nowSecs clock) body gateway).1)
      (some (handlePeers platform env clock body directory).1)
      (NativeGateway.peers platform.toGatewayPlatform (nativeConfig env) (nowSecs clock)
        (nowSecs clock) body gateway).2
      (handlePeers platform env clock body directory).2 := by
  unfold NativeGateway.peers handlePeers
  cases decoded : platform.peersRequest body with
  | error message =>
    apply Meeting.refused
    intro auth passes
    rcases passes_verified passes with ⟨request, taken, _⟩ | ⟨query, queried, _⟩
    · cases taken
    · rw [Call.queries, decoded] at queried
      cases queried
  | ok query =>
    have queried : (Call.peers body).queries platform.toGatewayPlatform = some query := by
      rw [Call.queries, decoded]
      rfl
    dsimp only [NativeGateway.Gateway.authenticate, nativeConfig]
    cases verdict : verifyRequest platform.toCrypto query.auth peersBodyBytes query.membership
        env.authority (nowSecs clock) AUTH_WINDOW_SECS with
    | error cause =>
      apply Meeting.refused
      intro auth passes
      rcases passes_verified passes with ⟨request, taken, _⟩ | ⟨query', queried', key, verified⟩
      · cases taken
      · cases queried.symm.trans queried'
        rw [verdict] at verified
        cases verified
    | ok key =>
      have passes : Event.Passes platform env (.fetch (.peers body)) clock query.auth :=
        ⟨_, _, _, rfl, Or.inr ⟨query, queried, rfl, rfl, rfl⟩, verify_request_ok verdict⟩
      rw [alike query.auth.nonce ⟨query.auth, passes, rfl⟩]
      cases spent : directory.spent query.auth.nonce with
      | true => exact .replayed passes spent
      | false =>
        simp only [Directory.liveRecords, schedule_peers]
        exact .listed passes

theorem meeting (event : Event) (alike : SpendAlike platform env gateway directory event clock) :
    Meeting platform env gateway directory clock event
      (nativeHandle platform env event clock gateway).1
      (handle platform env event clock directory).1
      (nativeHandle platform env event clock gateway).2
      (handle platform env event clock directory).2 := by
  cases event with
  | fetch call =>
    cases call with
    | announce body => exact announce_meeting body alike
    | peers body => exact peers_meeting body alike
  | alarm => exact .collected
end Meetings

abbrev Visit.seconds (visit : Visit) : Nat := (nowSecs visit.clock).toNat

variable {visits : List Visit} {new : Visit} {native : NativeResult}

section Nonces
variable (platform : DirectoryPlatform) (env : Env)

def Visit.Spends (visit : Visit) (nonce : Bytes 16) : Prop :=
  Event.Spends platform env visit.event visit.clock nonce

/-- A nonce that passed before passed less than its lifetime ago. -/
def Spaced (visits : List Visit) : Prop :=
  visits.Pairwise fun earlier later => ∀ nonce, earlier.Spends platform env nonce →
    later.Spends platform env nonce → later.seconds < earlier.seconds + (nonceTtlSecs env).toNat

/-- What the hosts remember of the nonces that passed. -/
structure Remembers (visits : List Visit) (gateway : Gateway) (directory : Directory) : Prop where
  native : ∀ nonce expiry, gateway.nonces.lookup nonce = some expiry →
    ∃ visit ∈ visits, visit.Spends platform env nonce
  object : ∀ nonce expiry, directory.nonces.lookup nonce = some expiry →
    ∃ visit ∈ visits, visit.Spends platform env nonce ∧
      expiry.toInt = visit.seconds + (nonceTtlSecs env).toNat
  blocked : ∀ visit ∈ visits, ∀ nonce, visit.Spends platform env nonce → ∀ clock : DateMs,
    (∀ visit ∈ visits, visit.clock ≤ clock) →
    visit.seconds + (nonceTtlSecs env).toNat ≤ (nowSecs clock).toNat ∨
      ∃ expiry, gateway.nonces.lookup nonce = some expiry ∧
        visit.seconds + (nonceTtlSecs env).toNat ≤ expiry.toNat
  spent : ∀ visit ∈ visits, ∀ nonce, visit.Spends platform env nonce →
    directory.spent nonce = true ∨ ∃ first ∈ visits, ∃ last ∈ visits,
      first.Spends platform env nonce ∧
        first.seconds + (nonceTtlSecs env).toNat ≤ last.seconds

variable {platform env}

theorem now_secs_mono {earlier later : DateMs} (onward : earlier ≤ later) :
    (nowSecs earlier).toNat ≤ (nowSecs later).toNat := by
  rw [now_secs_nat, now_secs_nat]
  exact Nat.div_le_div_right onward

variable (remembers : Remembers platform env visits gateway directory)
include remembers

theorem remembers_alike (onward : ∀ visit ∈ visits, visit.clock ≤ clock)
    (spaced : ∀ earlier ∈ visits, ∀ nonce, earlier.Spends platform env nonce →
      Event.Spends platform env event clock nonce →
      (nowSecs clock).toNat < earlier.seconds + (nonceTtlSecs env).toNat) :
    SpendAlike platform env gateway directory event clock := by
  intro nonce spends
  by_cases before : ∃ earlier ∈ visits, earlier.Spends platform env nonce
  · obtain ⟨earlier, member, known⟩ := before
    have recent := spaced earlier member nonce known spends
    have spent : directory.spent nonce = true := by
      rcases remembers.spent earlier member nonce known with spent | ⟨first, member, last, seen, own, past⟩
      · exact spent
      · have again := spaced first member nonce own spends
        have reached := now_secs_mono (onward last seen)
        unfold Visit.seconds at *
        omega
    have blocked : gateway.blocks (nowSecs clock) nonce = true := by
      rcases remembers.blocked earlier member nonce known clock onward with
        past | ⟨expiry, found, covers⟩
      · omega
      · apply NativeGateway.blocks_iff.mpr
        refine ⟨expiry, found, ?_⟩
        rw [UInt64.lt_iff_toNat_lt]
        omega
    rw [spent, blocked]
  · have unspent : directory.spent nonce = false := by
      rw [Directory.spent, Option.isSome_eq_false_iff, Option.isNone_iff_eq_none,
        Option.eq_none_iff_forall_ne_some]
      intro expiry found
      obtain ⟨visit, member, own, _⟩ := remembers.object nonce expiry found
      exact before ⟨visit, member, own⟩
    have unblocked : gateway.blocks (nowSecs clock) nonce = false := by
      rw [← Bool.not_eq_true, NativeGateway.blocks_iff]
      rintro ⟨expiry, found, _⟩
      obtain ⟨visit, member, own⟩ := remembers.native nonce expiry found
      exact before ⟨visit, member, own⟩
    rw [unspent, unblocked]

variable {nonce : Bytes 16}

/-- No nonce passes: the native host is left alone, the object may drop what has expired. -/
theorem remembers_idle (idle : ∀ nonce, ¬ new.Spends platform env nonce)
    (native : gateway'.nonces = gateway.nonces)
    (keeps : ∀ nonce expiry, directory'.nonces.lookup nonce = some expiry →
      directory.nonces.lookup nonce = some expiry)
    (drops : ∀ nonce expiry, directory.nonces.lookup nonce = some expiry →
      directory'.nonces.lookup nonce = some expiry ∨ expiry.toInt ≤ new.seconds) :
    Remembers platform env (visits ++ [new]) gateway' directory' := by
  have past : ∀ {visit nonce}, visit ∈ visits ++ [new] → visit.Spends platform env nonce →
      visit ∈ visits := by
    intro visit nonce member spends
    rcases List.mem_append.mp member with old | last
    · exact old
    · rw [List.mem_singleton.mp last] at spends
      exact absurd spends (idle nonce)
  constructor
  · intro nonce expiry found
    rw [native] at found
    obtain ⟨visit, member, own⟩ := remembers.native nonce expiry found
    exact ⟨visit, List.mem_append_left _ member, own⟩
  · intro nonce expiry found
    obtain ⟨visit, member, own⟩ := remembers.object nonce expiry (keeps nonce expiry found)
    exact ⟨visit, List.mem_append_left _ member, own⟩
  · intro visit member nonce spends clock onward
    rw [native]
    exact remembers.blocked visit (past member spends) nonce spends clock
      fun visit member => onward visit (List.mem_append_left _ member)
  · intro visit member nonce spends
    rcases remembers.spent visit (past member spends) nonce spends with
      spent | ⟨first, known, last, seen, past⟩
    · obtain ⟨expiry, found⟩ := Option.isSome_iff_exists.mp spent
      rcases drops nonce expiry found with kept | past
      · exact Or.inl (Option.isSome_iff_exists.mpr ⟨expiry, kept⟩)
      · obtain ⟨first, known, own, expires⟩ := remembers.object nonce expiry found
        refine Or.inr ⟨first, List.mem_append_left _ known, new, by simp, own, ?_⟩
        omega
    · exact Or.inr ⟨first, List.mem_append_left _ known, last, List.mem_append_left _ seen, past⟩

/-- A nonce passes: the native host writes it down again, the object if it is new. -/
theorem remembers_spending (inRange : InRange env new.clock)
    (onward : ∀ visit ∈ visits, visit.clock ≤ new.clock)
    (own : ∀ other, new.Spends platform env other ↔ other = nonce)
    (native : gateway'.nonces = (gateway.spend (nativeConfig env) (nowSecs new.clock) nonce).nonces)
    (object : directory'.nonces = directory.nonces ∧ directory.spent nonce = true ∨
      directory'.nonces = (directory.spendNonce env nonce (nowSecs new.clock)).nonces) :
    Remembers platform env (visits ++ [new]) gateway' directory' := by
  have last : new ∈ visits ++ [new] := by simp
  have spends : new.Spends platform env nonce := (own nonce).mpr rfl
  have fits : (nowSecs new.clock).toNat + (nonceTtlSecs env).toNat < 2 ^ 64 :=
    Nat.lt_trans inRange.nonces (by decide)
  constructor
  · intro other expiry found
    by_cases same : other = nonce
    · exact ⟨new, last, same ▸ spends⟩
    · rw [native, NativeGateway.Gateway.spend, Finmap.lookup_insert_of_ne _ same, lookup_retain,
        Option.filter_eq_some_iff] at found
      obtain ⟨visit, member, known⟩ := remembers.native other expiry found.1
      exact ⟨visit, List.mem_append_left _ member, known⟩
  · intro other expiry found
    have old : directory.nonces.lookup other = some expiry → ∃ visit ∈ visits ++ [new],
        visit.Spends platform env other ∧
          expiry.toInt = visit.seconds + (nonceTtlSecs env).toNat := by
      intro found
      obtain ⟨visit, member, known⟩ := remembers.object other expiry found
      exact ⟨visit, List.mem_append_left _ member, known⟩
    rcases object with ⟨unchanged, _⟩ | spent
    · rw [unchanged] at found
      exact old found
    · by_cases same : other = nonce
      · subst same
        rw [spent, Directory.spendNonce, Finmap.lookup_insert] at found
        cases found
        exact ⟨new, last, spends, sum_in_range inRange.nonces⟩
      · rw [spent, Directory.spendNonce, Finmap.lookup_insert_of_ne _ same] at found
        exact old found
  · intro visit member other known clock reached
    rw [native]
    rcases List.mem_append.mp member with old | latest
    · have before := onward visit old
      exact @NativeGateway.spend_remembers (nowSecs new.clock) (nativeConfig env) gateway
        (nowSecs visit.clock) nonce other (nowSecs clock) fits
        (UInt64.le_iff_toNat_le.mpr (now_secs_mono (reached new last)))
        (UInt64.le_iff_toNat_le.mpr (now_secs_mono before))
        (remembers.blocked visit old other known new.clock onward)
    · rw [List.mem_singleton.mp latest] at known ⊢
      rw [(own other).mp known]
      refine Or.inr ⟨_, NativeGateway.spend_own nonce, ?_⟩
      exact Nat.le_of_eq (Nat.mod_eq_of_lt fits).symm
  · intro visit member other known
    by_cases same : other = nonce
    · subst same
      apply Or.inl
      rcases object with ⟨unchanged, spent⟩ | spent
      · rw [Directory.spent, unchanged]
        exact spent
      · rw [Directory.spent, spent, Directory.spendNonce, Finmap.lookup_insert]
        rfl
    · have kept : directory'.spent other = directory.spent other := by
        rcases object with ⟨unchanged, _⟩ | spent
        · rw [Directory.spent, unchanged]
          rfl
        · rw [Directory.spent, spent, Directory.spendNonce, Finmap.lookup_insert_of_ne _ same]
          rfl
      rcases List.mem_append.mp member with old | latest
      · rw [kept]
        rcases remembers.spent visit old other known with
          spent | ⟨first, seen, final, reached, past⟩
        · exact Or.inl spent
        · exact Or.inr ⟨first, List.mem_append_left _ seen, final, List.mem_append_left _ reached,
            past⟩
      · rw [List.mem_singleton.mp latest] at known
        exact absurd ((own other).mp known) same

omit remembers

theorem passes_spends {auth : GatewayAuth} (passes : Event.Passes platform env event clock auth)
    (other : Bytes 16) : Event.Spends platform env event clock other ↔ other = auth.nonce := by
  constructor
  · rintro ⟨auth', ⟨call, _, _, rfl, passed'⟩, rfl⟩
    obtain ⟨call', _, _, same, passed⟩ := passes
    cases same
    cases (passed_auth passed).symm.trans (passed_auth passed')
    rfl
  · rintro rfl
    exact ⟨auth, passes, rfl⟩

theorem meeting_remembers (remembers : Remembers platform env visits gateway directory)
    (inRange : InRange env new.clock) (onward : ∀ visit ∈ visits, visit.clock ≤ new.clock)
    (called : new.event = event)
    (met : Meeting platform env gateway directory new.clock event native object gateway'
      directory') : Remembers platform env (visits ++ [new]) gateway' directory' := by
  have own : ∀ {auth}, Event.Passes platform env event new.clock auth →
      ∀ other, new.Spends platform env other ↔ other = auth.nonce := by
    intro auth passes other
    rw [Visit.Spends, called]
    exact passes_spends passes other
  cases met with
  | refused fails =>
    refine remembers_idle remembers ?_ rfl (fun _ _ found => found) fun _ _ found => Or.inl found
    rintro nonce ⟨auth, passes, _⟩
    rw [called] at passes
    exact fails auth passes
  | replayed passes spent =>
    exact remembers_spending remembers inRange onward (own passes) rfl (Or.inl ⟨rfl, spent⟩)
  | unmatched passes =>
    exact remembers_spending remembers inRange onward (own passes) rfl (Or.inr rfl)
  | announced announces passes =>
    refine remembers_spending remembers inRange onward (own passes) NativeGateway.upsert_nonces
      (Or.inr ?_)
    rw [schedule_nonces, upsert_nonces]
  | listed passes =>
    exact remembers_spending remembers inRange onward (own passes) rfl (Or.inr schedule_nonces)
  | collected =>
    refine remembers_idle remembers ?_ rfl ?_ ?_
    · rintro nonce ⟨auth, ⟨call, _, _, same, _⟩, _⟩
      rw [called] at same
      cases same
    · intro nonce expiry found
      rw [schedule_nonces, Directory.collect, lookup_retain, Option.filter_eq_some_iff] at found
      exact found.1
    · intro nonce expiry found
      rw [schedule_nonces, Directory.collect, lookup_retain, Option.filter_eq_some_iff]
      by_cases live : (nowSecs new.clock).toInt64 < expiry
      · exact Or.inl ⟨found, decide_eq_true live⟩
      · rw [Int64.lt_iff_toInt_lt, to_int64_int, if_pos (by have := inRange.nonces; omega)] at live
        exact Or.inr (Int.not_lt.mp live)
end Nonces

section Records
variable (platform : DirectoryPlatform) (env : Env)

/-- One record under one expiry, as the two hosts write it. -/
structure Mirrors (entry : DirectoryEntry) (row : PeerRow) : Prop where
  record : platform.readRecord row.record = .ok entry.record
  sequence : row.sequence = entry.record.sequence.toInt64
  expiry : row.expiresAt.toInt = entry.expiresAt.toNat

/-- The rows of the object are entries of the native host, and the other entries there
have expired. -/
structure Mirrored (visits : List Visit) (gateway : Gateway) (directory : Directory) : Prop where
  entries : ∀ id entry, gateway.members.lookup id = some entry →
    (∃ row, directory.peers.lookup id.toInt64 = some row ∧ Mirrors platform entry row) ∨
      ∃ visit ∈ visits, entry.expiresAt.toNat ≤ visit.seconds
  rows : ∀ key row, directory.peers.lookup key = some row →
    ∃ id entry, key = id.toInt64 ∧ gateway.members.lookup id = some entry ∧
      Mirrors platform entry row

/-- An announce that the hosts take alike: of two records with one sequence there is one,
and an expired row that was not collected is not older than its successor. -/
structure Succeeds (directory : Directory) (now : UInt64) (record : PeerRecord) : Prop where
  side : ∀ row stored, directory.peers.lookup record.sisterId.toInt64 = some row →
    platform.readRecord row.record = .ok stored → SameSide stored.sequence record.sequence
  tied : ∀ row stored, directory.peers.lookup record.sisterId.toInt64 = some row →
    platform.readRecord row.record = .ok stored → stored.sequence = record.sequence →
    stored = record
  expired : ∀ row stored, directory.peers.lookup record.sisterId.toInt64 = some row →
    platform.readRecord row.record = .ok stored → row.expiresAt ≤ now.toInt64 →
    stored.sequence ≤ record.sequence

variable {platform env}

theorem in_range_now (inRange : InRange env clock) :
    (nowSecs clock).toInt64.toInt = (nowSecs clock).toNat := by
  have bound := inRange.records
  rw [to_int64_int, if_pos (by omega)]

theorem mirrors_live {entry : DirectoryEntry} {row : PeerRow} (inRange : InRange env clock)
    (mirrors : Mirrors platform entry row) :
    (nowSecs clock).toInt64 < row.expiresAt ↔ nowSecs clock < entry.expiresAt := by
  rw [Int64.lt_iff_toInt_lt, UInt64.lt_iff_toNat_lt, in_range_now inRange, mirrors.expiry]
  omega

theorem Mirrored.mono (mirrored : Mirrored platform visits gateway directory) :
    Mirrored platform (visits ++ [new]) gateway directory := by
  constructor
  · intro id entry known
    rcases mirrored.entries id entry known with row | ⟨visit, member, past⟩
    · exact Or.inl row
    · exact Or.inr ⟨visit, List.mem_append_left _ member, past⟩
  · exact mirrored.rows

theorem mirrored_collect (mirrored : Mirrored platform visits gateway directory)
    (inRange : InRange env new.clock) :
    Mirrored platform (visits ++ [new]) gateway (directory.collect (nowSecs new.clock).toInt64) := by
  constructor
  · intro id entry known
    rcases mirrored.entries id entry known with ⟨row, found, mirrors⟩ | ⟨visit, member, past⟩
    · by_cases live : (nowSecs new.clock).toInt64 < row.expiresAt
      · apply Or.inl
        refine ⟨row, ?_, mirrors⟩
        rw [Directory.collect, lookup_retain, Option.filter_eq_some_iff]
        exact ⟨found, decide_eq_true live⟩
      · rw [mirrors_live inRange mirrors] at live
        exact Or.inr ⟨new, by simp, Nat.not_lt.mp live⟩
    · exact Or.inr ⟨visit, List.mem_append_left _ member, past⟩
  · intro key row found
    rw [Directory.collect, lookup_retain, Option.filter_eq_some_iff] at found
    exact mirrored.rows key row found.1

theorem live_records_agree (mirrored : Mirrored platform visits gateway directory)
    (inRange : InRange env clock) (onward : ∀ visit ∈ visits, visit.clock ≤ clock)
    (record : PeerRecord) :
    record ∈ gateway.liveRecords (nowSecs clock) ↔
      record ∈ directory.liveRecords platform (nowSecs clock) := by
  simp only [NativeGateway.Gateway.liveRecords, Directory.liveRecords, Multiset.mem_map,
    Multiset.mem_filterMap, mem_values_retain, decide_eq_true_eq]
  constructor
  · rintro ⟨entry, ⟨id, known, live⟩, rfl⟩
    rcases mirrored.entries id entry known with ⟨row, found, mirrors⟩ | ⟨visit, member, past⟩
    · refine ⟨row, ⟨_, found, (mirrors_live inRange mirrors).mpr live⟩, ?_⟩
      rw [mirrors.record]
      rfl
    · have reached := now_secs_mono (onward visit member)
      rw [gt_iff_lt, UInt64.lt_iff_toNat_lt] at live
      unfold Visit.seconds at past
      omega
  · rintro ⟨row, ⟨key, found, live⟩, reads⟩
    obtain ⟨id, entry, rfl, known, mirrors⟩ := mirrored.rows key row found
    refine ⟨entry, ⟨id, known, (mirrors_live inRange mirrors).mp live⟩, ?_⟩
    rw [mirrors.record] at reads
    exact Option.some.inj reads

section Announce
variable {record : PeerRecord} {membership : MembershipCertificate}

theorem written_mirrors (inRange : InRange env clock) {row : PeerRow}
    (reads : platform.readRecord row.record = .ok record)
    (sequence : row.sequence = record.sequence.toInt64)
    (expires : row.expiresAt = (nowSecs clock + recordTtlSecs env).toInt64) :
    Mirrors platform ⟨record, membership.serial, nowSecs clock + recordTtlSecs env⟩ row := by
  constructor
  · exact reads
  · exact sequence
  · have fits : (nowSecs clock).toNat + (recordTtlSecs env).toNat < 2 ^ 64 :=
      Nat.lt_trans inRange.records (by decide)
    rw [expires, sum_in_range inRange.records]
    rw [UInt64.toNat_add]
    omega

/-- Both hosts write the announce down, or both ignore it. -/
inductive Upserted (env : Env) (clock : DateMs) (gateway : Gateway) (directory : Directory)
    (record : PeerRecord) (membership : MembershipCertificate) : Gateway → Option PeerRow → Prop where
  | written {row : PeerRow}
      (mirrors : Mirrors platform
        ⟨record, membership.serial, nowSecs clock + recordTtlSecs env⟩ row) :
      Upserted env clock gateway directory record membership
        { gateway with
          members := gateway.members.insert record.sisterId
            ⟨record, membership.serial, nowSecs clock + recordTtlSecs env⟩ }
        (some row)
  | ignored :
      Upserted env clock gateway directory record membership gateway
        (directory.peers.lookup record.sisterId.toInt64)

theorem native_written
    (current : ∀ entry, gateway.members.lookup record.sisterId = some entry →
      nowSecs clock < entry.expiresAt → entry.record.sequence ≤ record.sequence) :
    gateway.upsert (nativeConfig env) (nowSecs clock) record membership =
      { gateway with
        members := gateway.members.insert record.sisterId
          ⟨record, membership.serial, nowSecs clock + recordTtlSecs env⟩ } := by
  unfold NativeGateway.Gateway.upsert
  rw [if_neg]
  · rfl
  intro stale
  cases known : gateway.members.lookup record.sisterId with
  | none =>
    rw [known] at stale
    cases stale
  | some entry =>
    rw [known] at stale
    simp only [Option.any_some, Bool.and_eq_true, decide_eq_true_eq] at stale
    exact UInt64.not_le.mpr stale.2 (current entry known stale.1)

theorem native_ignored {entry : DirectoryEntry}
    (known : gateway.members.lookup record.sisterId = some entry)
    (live : nowSecs clock < entry.expiresAt) (later : record.sequence < entry.record.sequence) :
    gateway.upsert (nativeConfig env) (nowSecs clock) record membership = gateway := by
  unfold NativeGateway.Gateway.upsert
  rw [known, if_pos]
  simp only [Option.any_some, live, later, decide_true, Bool.and_self]

variable (mirrored : Mirrored platform visits gateway directory) (inRange : InRange env clock)
variable (onward : ∀ visit ∈ visits, visit.clock ≤ clock)
variable (reads : platform.readRecord (platform.recordJson record) = .ok record)
variable (succeeds : Succeeds platform directory (nowSecs clock) record)

include mirrored inRange onward reads succeeds

theorem announce_upserted :
    @Upserted platform env clock gateway directory record membership
      (gateway.upsert (nativeConfig env) (nowSecs clock) record membership)
      ((directory.upsertPeer record.sisterId.toInt64
        (peerRow platform env record membership (nowSecs clock))).peers.lookup
          record.sisterId.toInt64) := by
  cases found : directory.peers.lookup record.sisterId.toInt64 with
  | none =>
    have written := @native_written gateway clock env record membership (by
      intro entry known live
      rcases mirrored.entries _ entry known with ⟨row, present, _⟩ | ⟨visit, member, past⟩
      · rw [found] at present
        cases present
      · have reached := now_secs_mono (onward visit member)
        rw [UInt64.lt_iff_toNat_lt] at live
        unfold Visit.seconds at past
        omega)
    rw [written, upsert_absent found]
    exact .written (written_mirrors inRange reads rfl rfl)
  | some row =>
    obtain ⟨id, entry, key, known, mirrors⟩ := mirrored.rows _ row found
    cases to_int64_injective key
    have side := succeeds.side row entry.record found mirrors.record
    have only : ∀ other, gateway.members.lookup record.sisterId = some other → other = entry :=
      fun other present => Option.some.inj (present.symm.trans known)
    by_cases higher : row.sequence < record.sequence.toInt64
    · have newer : entry.record.sequence < record.sequence := by
        rw [mirrors.sequence] at higher
        exact (same_side_lt side).mp higher
      rw [native_written (fun other present _ => only other present ▸ UInt64.le_of_lt newer),
        upsert_higher found higher]
      exact .written (written_mirrors inRange reads rfl rfl)
    · by_cases equal : row.sequence = record.sequence.toInt64
      · have tied : entry.record.sequence = record.sequence :=
          to_int64_injective (mirrors.sequence.symm.trans equal)
        have same := succeeds.tied row entry.record found mirrors.record tied
        rw [native_written (fun other present _ => only other present ▸ UInt64.le_of_eq tied),
          upsert_equal found equal]
        exact .written (written_mirrors inRange (same ▸ mirrors.record) equal rfl)
      · have lower : record.sequence.toInt64 < row.sequence :=
          Int64.lt_of_le_of_ne (Int64.not_lt.mp higher) fun same => equal same.symm
        have older : record.sequence < entry.record.sequence := by
          rw [mirrors.sequence] at lower
          exact (same_side_lt side.symm).mp lower
        have live : nowSecs clock < entry.expiresAt := by
          by_contra past
          rw [← mirrors_live inRange mirrors, Int64.not_lt] at past
          exact UInt64.not_le.mpr older
            (succeeds.expired row entry.record found mirrors.record past)
        have ignored : (directory.upsertPeer record.sisterId.toInt64
            (peerRow platform env record membership (nowSecs clock))).peers.lookup
              record.sisterId.toInt64 = some row := upsert_lower found lower
        rw [native_ignored known live older, ignored, ← found]
        exact .ignored

theorem mirrored_announce :
    Mirrored platform visits
      (gateway.upsert (nativeConfig env) (nowSecs clock) record membership)
      (directory.upsertPeer record.sisterId.toInt64
        (peerRow platform env record membership (nowSecs clock))) := by
  have upserted := @announce_upserted gateway directory clock visits platform env record membership
    mirrored inRange onward reads succeeds
  have others : ∀ key, key ≠ record.sisterId.toInt64 →
      (directory.upsertPeer record.sisterId.toInt64
        (peerRow platform env record membership (nowSecs clock))).peers.lookup key =
        directory.peers.lookup key := fun key different => upsert_other different
  generalize directory.upsertPeer record.sisterId.toInt64
    (peerRow platform env record membership (nowSecs clock)) = after at upserted others ⊢
  generalize own : after.peers.lookup record.sisterId.toInt64 = kept at upserted
  generalize gateway.upsert (nativeConfig env) (nowSecs clock) record membership = gateway'
    at upserted ⊢
  cases upserted with
  | ignored =>
    have same : ∀ key, after.peers.lookup key = directory.peers.lookup key := by
      intro key
      by_cases different : key = record.sisterId.toInt64
      · rw [different, own]
      · exact others key different
    constructor
    · intro id entry known
      rw [same]
      exact mirrored.entries id entry known
    · intro key row found
      rw [same] at found
      exact mirrored.rows key row found
  | @written row mirrors =>
    constructor
    · intro id entry known
      by_cases here : id = record.sisterId
      · subst here
        rw [Finmap.lookup_insert] at known
        cases known
        exact Or.inl ⟨row, own, mirrors⟩
      · rw [Finmap.lookup_insert_of_ne _ here] at known
        rw [others _ fun same => here (to_int64_injective same)]
        exact mirrored.entries id entry known
    · intro key found lookup
      by_cases here : key = record.sisterId.toInt64
      · subst here
        rw [own] at lookup
        cases lookup
        exact ⟨_, _, rfl, Finmap.lookup_insert _, mirrors⟩
      · rw [others key here] at lookup
        obtain ⟨id, entry, rfl, known, mirrors'⟩ := mirrored.rows key found lookup
        have different : id ≠ record.sisterId := fun same => here (same ▸ rfl)
        exact ⟨id, entry, rfl, by rw [Finmap.lookup_insert_of_ne _ different, known], mirrors'⟩
end Announce

theorem Mirrored.congr (mirrored : Mirrored platform visits gateway directory)
    (members : gateway'.members = gateway.members) (peers : directory'.peers = directory.peers) :
    Mirrored platform visits gateway' directory' := by
  constructor
  · rw [members, peers]
    exact mirrored.entries
  · rw [members, peers]
    exact mirrored.rows

theorem meeting_mirrored (mirrored : Mirrored platform visits gateway directory)
    (inRange : InRange env new.clock) (onward : ∀ visit ∈ visits, visit.clock ≤ new.clock)
    (reads : ∀ request, event.announces platform.toGatewayPlatform = some request →
      platform.readRecord (platform.recordJson request.record) = .ok request.record)
    (succeeds : ∀ request, Announces platform env event new.clock request →
      Succeeds platform directory (nowSecs new.clock) request.record)
    (met : Meeting platform env gateway directory new.clock event native object gateway'
      directory') : Mirrored platform (visits ++ [new]) gateway' directory' := by
  cases met with
  | refused => exact mirrored.mono
  | replayed | unmatched => exact mirrored.mono.congr rfl rfl
  | listed => exact mirrored.mono.congr rfl schedule_peers
  | @announced call request announces passes =>
    have spent : Mirrored platform visits
        (gateway.spend (nativeConfig env) (nowSecs new.clock) request.auth.nonce)
        (directory.spendNonce env request.auth.nonce (nowSecs new.clock)) :=
      mirrored.congr rfl rfl
    obtain ⟨side, tied, expired⟩ := succeeds request announces
    have announced := @mirrored_announce _ _ new.clock visits platform env request.record
      request.membership spent inRange onward (reads request announces.taken)
      ⟨side, tied, expired⟩
    exact announced.mono.congr rfl schedule_peers
  | collected => exact (mirrored_collect mirrored inRange).congr rfl schedule_peers

theorem meeting_agree (mirrored : Mirrored platform visits gateway directory)
    (inRange : InRange env clock) (onward : ∀ visit ∈ visits, visit.clock ≤ clock)
    (met : Meeting platform env gateway directory clock event native object gateway' directory') :
    Agree native object := by
  cases met with
  | refused => exact .failed
  | replayed | unmatched => exact .refused
  | announced => exact .accepted
  | listed => exact .listed (live_records_agree mirrored inRange onward)
  | collected => exact .silent
end Records

section Results
variable (platform : DirectoryPlatform) (env : Env)

/-- `serde_json` reads back what it wrote of the announced records. -/
def ReadsBack (visits : List Visit) : Prop :=
  ∀ visit ∈ visits, ∀ request, visit.event.announces platform.toGatewayPlatform = some request →
    platform.readRecord (platform.recordJson request.record) = .ok request.record

structure Conforms (visit : Visit) : Prop where
  inRange : InRange env visit.clock
  succeeds : ∀ request, Announces platform env visit.event visit.clock request →
    Succeeds platform visit.directory (nowSecs visit.clock) request.record

variable {platform env}

theorem history_related (history : History platform env visits gateway directory)
    (reads : ReadsBack platform visits) (spaced : Spaced platform env visits)
    (conforms : ∀ visit ∈ visits, Conforms platform env visit) :
    Remembers platform env visits gateway directory ∧ Mirrored platform visits gateway directory ∧
      ∀ visit ∈ visits, Agree visit.native visit.object := by
  induction history with
  | start =>
    refine ⟨⟨?_, ?_, ?_, ?_⟩, ⟨?_, ?_⟩, ?_⟩
    · intro nonce expiry found
      cases found
    · intro nonce expiry found
      cases found
    · intro visit member
      cases member
    · intro visit member
      cases member
    · intro id entry found
      cases found
    · intro key row found
      cases found
    · intro visit member
      cases member
  | @next visits gateway directory history event clock onward earlier =>
    have last : visit platform env event clock gateway directory ∈
        visits ++ [visit platform env event clock gateway directory] := by simp
    obtain ⟨apart, _, between⟩ := List.pairwise_append.mp spaced
    obtain ⟨remembers, mirrored, agreed⟩ := earlier
      (fun visit member => reads visit (List.mem_append_left _ member)) apart
      (fun visit member => conforms visit (List.mem_append_left _ member))
    have inRange : InRange env clock := (conforms _ last).inRange
    have met := meeting event (remembers_alike remembers onward fun earlier member nonce own spends =>
      between earlier member _ (List.mem_singleton.mpr rfl) nonce own spends)
    refine ⟨meeting_remembers remembers inRange onward rfl met,
      meeting_mirrored mirrored inRange onward (reads _ last) (conforms _ last).succeeds met, ?_⟩
    intro past member
    rcases List.mem_append.mp member with old | new
    · exact agreed past old
    · rw [List.mem_singleton.mp new]
      exact meeting_agree mirrored inRange onward met

/-! The member announces one record, then another with the same sequence, and queries. -/
section Sample

def sentAnnounces : List GatewayAnnounceRequest :=
  [memberAnnounce 1000 1 (memberRecord 3 900), memberAnnounce 1000 2 (memberRecord 3 950)]

abbrev sentObject : DirectoryPlatform := sampleObject sentAnnounces [memberQuery 1000 3]

theorem History.step (history : History platform env visits gateway directory)
    (served : nativeHandle platform env event clock gateway = (native, gateway'))
    (handled : handle platform env event clock directory = (object, directory'))
    (onward : ∀ visit ∈ visits, visit.clock ≤ clock) :
    History platform env (visits ++ [⟨event, clock, gateway, directory, native, object⟩]) gateway'
      directory' := by
  have next := history.next event onward
  rw [visit, served, handled] at next
  exact next

variable {body : List UInt8} {timestamp : UInt64} {nonce : UInt8}

theorem native_fetch {call : Call} {answer : Except GatewayError GatewayAnswer} {after : Gateway}
    (served : NativeGateway.serve platform.toGatewayPlatform (nativeConfig env) call (nowSecs clock)
      (nowSecs clock) gateway = (answer, after)) :
    nativeHandle platform env (.fetch call) clock gateway = (some answer, after) := by
  rw [nativeHandle, served]

theorem member_announce_native {sequence updatedAt : UInt64}
    (carried : numbered sentAnnounces body =
      .ok (memberAnnounce timestamp nonce (memberRecord sequence updatedAt)))
    (fresh : timestampDelta (nowSecs clock) timestamp ≤ AUTH_WINDOW_SECS.toNat)
    (unspent : gateway.blocks (nowSecs clock) (Bytes.fill 16 nonce) = false) :
    ∃ after, nativeHandle sentObject sampleEnv (.fetch (.announce body)) clock gateway =
        (some (.ok .noContent), after) ∧
      after = (gateway.spend (nativeConfig sampleEnv) (nowSecs clock) (Bytes.fill 16 nonce)).upsert
        (nativeConfig sampleEnv) (nowSecs clock) (memberRecord sequence updatedAt)
          memberCertificate := by
  have served := @NativeGateway.member_announce_served (nowSecs clock) (nowSecs clock)
    (nativeConfig sampleEnv) gateway sentAnnounces [memberQuery 1000 3] body timestamp nonce
    sequence updatedAt carried rfl fresh unspent
  exact ⟨_, native_fetch served, rfl⟩

theorem member_query_native
    (carried : numbered [memberQuery 1000 3] body = .ok (memberQuery timestamp nonce))
    (fresh : timestampDelta (nowSecs clock) timestamp ≤ AUTH_WINDOW_SECS.toNat)
    (unspent : gateway.blocks (nowSecs clock) (Bytes.fill 16 nonce) = false) :
    ∃ after, nativeHandle sentObject sampleEnv (.fetch (.peers body)) clock gateway =
      (some (.ok (.peers (gateway.liveRecords (nowSecs clock)))), after) := by
  have served := @NativeGateway.member_query_served (nowSecs clock) (nowSecs clock)
    (nativeConfig sampleEnv) gateway sentAnnounces [memberQuery 1000 3] body timestamp nonce carried
    rfl fresh
  rw [unspent] at served
  exact ⟨_, native_fetch served⟩

/-- The hosts hold one record each of the member, and the first nonces are unused. -/
structure Holding (native object : PeerRecord) (nonces : List UInt8) (gateway : Gateway)
    (directory : Directory) : Prop where
  entry : ∃ entry, gateway.members.lookup 2 = some entry ∧ entry.record = native ∧
    nowSecs 1000000 < entry.expiresAt
  row : ∃ row, directory.peers.lookup (memberRecord 3 900).sisterId.toInt64 = some row ∧
    row.record = sampleJson object ∧ row.sequence = object.sequence.toInt64 ∧
    (nowSecs 1000000).toInt64 < row.expiresAt
  only : ∀ key, key ≠ (memberRecord 3 900).sisterId.toInt64 → directory.peers.lookup key = none
  unspent : ∀ nonce ∈ nonces, gateway.blocks (nowSecs 1000000) (Bytes.fill 16 nonce) = false ∧
    directory.spent (Bytes.fill 16 nonce) = false

theorem sample_announced :
    ∃ gateway directory, History sentObject sampleEnv
        [⟨.fetch (.announce [0]), 1000000, Gateway.new, Directory.new, some (.ok .noContent),
          some .noContent⟩] gateway directory ∧
      Holding (memberRecord 3 900) (memberRecord 3 900) [2, 3] gateway directory := by
  have unused : History sentObject sampleEnv [] Gateway.new Directory.new := .start
  obtain ⟨gateway, served, native⟩ := @member_announce_native Gateway.new 1000000 [0] 1000 1 3 900
    rfl (by decide) rfl
  obtain ⟨directory, handled, nonces, peers⟩ := @member_announce_handled sentAnnounces
    [memberQuery 1000 3] Directory.new 1000000 [0] 1000 1 3 900 rfl (by decide) rfl
  refine ⟨gateway, directory, unused.step served handled (by simp), ?_, ?_, ?_, ?_⟩
  · rw [native]
    exact ⟨_, Finmap.lookup_insert _, rfl, by decide⟩
  · rw [peers]
    exact ⟨_, rfl, rfl, rfl, by decide⟩
  · intro key different
    rw [peers, upsert_other different]
    rfl
  · intro nonce member
    have other : (Bytes.fill 16 nonce : Bytes 16) ≠ Bytes.fill 16 1 := by
      revert nonce
      decide
    constructor
    · rw [native]
      exact NativeGateway.blocks_other other
    · rw [Directory.spent, nonces, Directory.spendNonce, Finmap.lookup_insert_of_ne _ other]
      rfl

theorem holding_lists {native object : PeerRecord} {nonces : List UInt8}
    (holding : Holding native object nonces gateway directory)
    (reads : sentObject.readRecord (sampleJson object) = .ok object) :
    native ∈ gateway.liveRecords (nowSecs 1000000) ∧
      ∀ record ∈ directory.liveRecords sentObject (nowSecs 1000000), record = object := by
  constructor
  · obtain ⟨entry, known, rfl, live⟩ := holding.entry
    rw [NativeGateway.Gateway.liveRecords, Multiset.mem_map]
    exact ⟨entry, mem_values_retain.mpr ⟨2, known, decide_eq_true live⟩, rfl⟩
  · intro record listed
    rw [Directory.liveRecords, Multiset.mem_filterMap] at listed
    obtain ⟨row, kept, read⟩ := listed
    obtain ⟨key, found, _⟩ := mem_values_retain.mp kept
    by_cases own : key = (memberRecord 3 900).sisterId.toInt64
    · obtain ⟨row', known, text, _⟩ := holding.row
      rw [own, known] at found
      cases found
      rw [text, reads] at read
      exact (Option.some.inj read).symm
    · rw [holding.only key own] at found
      cases found
end Sample

theorem hosts_agree (history : History platform env visits gateway directory)
    (reads : ReadsBack platform visits) (spaced : Spaced platform env visits)
    (conforms : ∀ visit ∈ visits, Conforms platform env visit) :
    ∀ visit ∈ visits, Agree visit.native visit.object :=
  (history_related history reads spaced conforms).2.2

/-- One announce and one query: the record is listed by both. -/
theorem announced_record_listed :
    ∃ visits gateway directory, History sentObject sampleEnv visits gateway directory ∧
      visits.map Visit.event = [.fetch (.announce [0]), .fetch (.peers [0])] ∧
      (∃ visit ∈ visits, ∃ records, visit.native = some (.ok (.peers records)) ∧
        memberRecord 3 900 ∈ records) ∧
      ∀ visit ∈ visits, Agree visit.native visit.object := by
  obtain ⟨gateway, directory, announced, holding⟩ := sample_announced
  obtain ⟨gateway', served⟩ := @member_query_native gateway 1000000 [0] 1000 3 rfl (by decide)
    (holding.unspent 3 (by simp)).1
  obtain ⟨directory', handled, _⟩ := @member_query_handled sentAnnounces [memberQuery 1000 3]
    directory 1000000 [0] 1000 3 rfl (by decide) (holding.unspent 3 (by simp)).2
  have history := announced.step served handled (by simp)
  have lists := (holding_lists holding (by decide)).1
  refine ⟨_, _, _, history, rfl,
    ⟨_, List.mem_append_right _ (List.mem_singleton.mpr rfl), _, rfl, lists⟩,
    hosts_agree history ?_ ?_ ?_⟩
  · intro visit member request taken
    rcases List.mem_pair.mp member with rfl | rfl
    · cases taken
      decide
    · cases taken
  · have soon : (nowSecs 1000000).toNat < (nowSecs 1000000).toNat + (nonceTtlSecs sampleEnv).toNat := by
      decide
    exact List.pairwise_pair.mpr fun nonce _ _ => soon
  · intro visit member
    refine ⟨sample_in_range _, fun request announces => ?_⟩
    have taken := announces.taken
    rcases List.mem_pair.mp member with rfl | rfl
    · constructor <;>
      · intro row stored known
        cases known
    · cases taken

/-- Two records with one sequence: the native host lists the later, the object the earlier. -/
theorem tied_records_listed_apart :
    ∃ visits gateway directory, History sentObject sampleEnv visits gateway directory ∧
      visits.map Visit.event =
        [.fetch (.announce [0]), .fetch (.announce [1]), .fetch (.peers [0])] ∧
      ¬ ∀ visit ∈ visits, Agree visit.native visit.object := by
  obtain ⟨gateway, directory, announced, holding⟩ := sample_announced
  obtain ⟨gateway', served, native⟩ := @member_announce_native gateway 1000000 [1] 1000 2 3 950
    rfl (by decide) (holding.unspent 2 (by simp)).1
  obtain ⟨directory', handled, nonces, peers⟩ := @member_announce_handled sentAnnounces
    [memberQuery 1000 3] directory 1000000 [1] 1000 2 3 950 rfl (by decide)
    (holding.unspent 2 (by simp)).2
  have tied : Holding (memberRecord 3 950) (memberRecord 3 900) [3] gateway' directory' := by
    obtain ⟨entry, known, record, _⟩ := holding.entry
    obtain ⟨row, found, text, sequence, live⟩ := holding.row
    constructor
    · rw [native, native_written]
      · exact ⟨_, Finmap.lookup_insert _, rfl, by decide⟩
      · intro other present _
        cases known.symm.trans present
        rw [record]
        decide
    · have renewed : (nowSecs 1000000).toInt64 <
          (nowSecs 1000000 + recordTtlSecs sampleEnv).toInt64 := by decide
      rw [peers]
      exact ⟨_, upsert_equal found sequence, text, sequence, renewed⟩
    · intro key different
      have other : key ≠ (memberRecord 3 950).sisterId.toInt64 := different
      rw [peers, upsert_other other]
      exact holding.only key different
    · intro nonce member
      have other : (Bytes.fill 16 nonce : Bytes 16) ≠ Bytes.fill 16 2 := by
        revert nonce
        decide
      have unspent := holding.unspent nonce (List.mem_cons_of_mem _ member)
      constructor
      · rw [native, NativeGateway.Gateway.blocks, NativeGateway.upsert_nonces]
        exact (NativeGateway.blocks_other other).trans unspent.1
      · rw [Directory.spent, nonces, Directory.spendNonce, Finmap.lookup_insert_of_ne _ other]
        exact unspent.2
  obtain ⟨gateway'', served'⟩ := @member_query_native gateway' 1000000 [0] 1000 3 rfl (by decide)
    (tied.unspent 3 (by simp)).1
  obtain ⟨directory'', handled', _⟩ := @member_query_handled sentAnnounces [memberQuery 1000 3]
    directory' 1000000 [0] 1000 3 rfl (by decide) (tied.unspent 3 (by simp)).2
  have history := (announced.step served handled (by simp)).step served' handled' (by simp)
  refine ⟨_, _, _, history, rfl, ?_⟩
  intro agree
  obtain ⟨later, earlier⟩ := holding_lists tied (by decide)
  have query := agree _ (List.mem_append_right _ (List.mem_singleton.mpr rfl))
  cases query with
  | listed same =>
    have times := congrArg PeerRecord.updatedAt (earlier _ ((same _).mp later))
    revert times
    decide
end Results
end Misaka.GatewayEquivalence
