import Misaka.CloudflareDirectory

/-!
Which record of a Sister the directory keeps. The upsert compares sequences after
they were cast to signed integers, and the cast turns the order around for two
sequences on different sides of the middle of the range. The record that is kept
is followed over all histories.
-/

namespace Misaka.DirectorySequence
open Bincode Identity Protocol GatewayContract KeyedRows CloudflareDirectory
variable {env : Env} {directory : Directory} {visits : List Visit}

/-- Both numbers keep or lose their order in the cast together. -/
def SameSide (left right : UInt64) : Prop := left.toNat < 2 ^ 63 ↔ right.toNat < 2 ^ 63

theorem same_side_lt {left right : UInt64} (side : SameSide left right) :
    left.toInt64 < right.toInt64 ↔ left < right := by
  unfold SameSide at side
  rw [Int64.lt_iff_toInt_lt, UInt64.lt_iff_toNat_lt, to_int64_int, to_int64_int]
  split <;> split <;> omega

-- Across the middle of the range the cast turns the order around.
theorem other_side_lt {left right : UInt64} (side : ¬ SameSide left right) :
    left.toInt64 < right.toInt64 ↔ right < left := by
  have boundLeft := left.toNat_lt
  have boundRight := right.toNat_lt
  unfold SameSide at side
  rw [Int64.lt_iff_toInt_lt, UInt64.lt_iff_toNat_lt, to_int64_int, to_int64_int]
  split <;> split <;> omega

section Sequences
variable (platform : DirectoryPlatform)

/-- Every row is the announce of one record under its Sister. -/
def Filed (directory : Directory) : Prop :=
  ∀ key row, directory.peers.lookup key = some row →
    ∃ record, platform.readRecord row.record = .ok record ∧
      row.sequence = record.sequence.toInt64 ∧ key = record.sisterId.toInt64

/-- What a query would read for this Sister. -/
def Stores (directory : Directory) (id : SisterId) (record : PeerRecord) : Prop :=
  ∃ row, directory.peers.lookup id.toInt64 = some row ∧ platform.readRecord row.record = .ok record

structure KeepsHighest (visit : Visit) : Prop where
  monotone : ∀ id stored kept, Stores platform visit.before id stored →
    Stores platform visit.after id kept → stored.sequence ≤ kept.sequence
  replaces : ∀ request stored, visit.Accepts platform request →
    Stores platform visit.before request.record.sisterId stored →
    stored.sequence < request.record.sequence →
    Stores platform visit.after request.record.sisterId request.record

def Comparable (visit : Visit) : Prop :=
  ∀ request stored, visit.Accepts platform request →
    Stores platform visit.before request.record.sisterId stored →
    SameSide stored.sequence request.record.sequence

variable {platform} {clock : DateMs}

theorem filed_collect (filed : Filed platform directory) (now : Int64) :
    Filed platform (directory.collect now) := by
  intro key row found
  rw [Directory.collect, lookup_retain, Option.filter_eq_some_iff] at found
  exact filed key row found.1

variable {record : PeerRecord}

theorem filed_upsert (filed : Filed platform directory) {membership : MembershipCertificate}
    {now : UInt64} (reads : platform.readRecord (platform.recordJson record) = .ok record) :
    Filed platform (directory.upsertPeer record.sisterId.toInt64
      (peerRow platform env record membership now)) := by
  intro key row found
  by_cases own : key = record.sisterId.toInt64
  · subst own
    rcases upsert_row found with ⟨rfl, _⟩ | ⟨old, known, _, text, sequence, _⟩
    · exact ⟨record, reads, rfl, rfl⟩
    · rw [text, sequence]
      exact filed _ old known
  · rw [upsert_other own] at found
    exact filed key row found

theorem handle_filed (event : Event) (filed : Filed platform directory)
    (reads : ∀ request, event.announces platform.toGatewayPlatform = some request →
      platform.readRecord (platform.recordJson request.record) = .ok request.record) :
    Filed platform (handle platform env event clock directory).2 := by
  have handled := @handling platform env directory clock event
  generalize (handle platform env event clock directory).1 = answer at handled
  generalize (handle platform env event clock directory).2 = after at handled ⊢
  cases handled with
  | failed | replayed | unmatched => exact filed
  | @announced call request taken passed fresh matched verified =>
    have spent : Filed platform (directory.spendNonce env request.auth.nonce (nowSecs clock)) :=
      filed
    intro key row found
    rw [schedule_peers] at found
    exact filed_upsert spent (reads request taken) key row found
  | listed =>
    intro key row found
    rw [schedule_peers] at found
    exact filed key row found
  | collected =>
    intro key row found
    rw [schedule_peers] at found
    exact filed_collect filed _ key row found

variable {id : SisterId} {stored kept : PeerRecord}

-- An event that is no accepted announce changes no row, or drops it.
theorem stores_unchanged {after : Directory}
    (rows : ∀ key row, after.peers.lookup key = some row → directory.peers.lookup key = some row)
    (before : Stores platform directory id stored) (later : Stores platform after id kept) :
    stored = kept := by
  obtain ⟨row, known, reads⟩ := before
  obtain ⟨row', known', reads'⟩ := later
  have same := Option.some.inj (known.symm.trans (rows _ _ known'))
  rw [← same] at reads'
  exact Except.ok.inj (reads.symm.trans reads')

theorem stored_sequence {row : PeerRow} (filed : Filed platform directory)
    (known : directory.peers.lookup id.toInt64 = some row)
    (reads : platform.readRecord row.record = .ok stored) :
    row.sequence = stored.sequence.toInt64 := by
  obtain ⟨record, same, sequence, _⟩ := filed _ row known
  rw [Except.ok.inj (reads.symm.trans same)]
  exact sequence

theorem stores_unique {left right : PeerRecord} (first : Stores platform directory id left)
    (second : Stores platform directory id right) :
    left = right :=
  stores_unchanged (fun _ _ known => known) first second

/-- The stored record gives way exactly to one whose cast sequence is greater. -/
theorem upsert_stores {membership : MembershipCertificate} {now : UInt64}
    (filed : Filed platform directory)
    (reads : platform.readRecord (platform.recordJson record) = .ok record)
    (before : Stores platform directory record.sisterId stored) :
    Stores platform (directory.upsertPeer record.sisterId.toInt64
        (peerRow platform env record membership now)) record.sisterId
      (if stored.sequence.toInt64 < record.sequence.toInt64 then record else stored) := by
  obtain ⟨row, known, stores⟩ := before
  have sequence := stored_sequence filed known stores
  by_cases higher : stored.sequence.toInt64 < record.sequence.toInt64
  · rw [if_pos higher]
    rw [← sequence] at higher
    exact ⟨_, upsert_higher known higher, reads⟩
  · rw [if_neg higher]
    rw [← sequence] at higher
    by_cases equal : row.sequence = record.sequence.toInt64
    · exact ⟨_, upsert_equal known equal, stores⟩
    · have lower : record.sequence.toInt64 < row.sequence :=
        Int64.lt_of_le_of_ne (Int64.not_lt.mp higher) fun same => equal same.symm
      exact ⟨row, upsert_lower known lower, stores⟩

variable {visit : Visit}

/-- What an accepted announce leaves for the Sister that had a record. -/
theorem accepted_stores {request : GatewayAnnounceRequest} (filed : Filed platform visit.before)
    (handled : Handling platform env visit.before visit.clock visit.event visit.answer visit.after)
    (reads : platform.readRecord (platform.recordJson request.record) = .ok request.record)
    (accepts : visit.Accepts platform request)
    (before : Stores platform visit.before request.record.sisterId stored) :
    Stores platform visit.after request.record.sisterId
      (if stored.sequence.toInt64 < request.record.sequence.toInt64 then request.record
        else stored) := by
  rcases visit with ⟨event, clock, directory, answer, after⟩
  obtain ⟨taken, accepted⟩ := accepts
  dsimp only at *
  cases handled with
  | failed | replayed | unmatched | listed | collected => cases accepted
  | @announced call request' taken' passed fresh matched verified =>
    have same : request' = request := Option.some.inj (taken'.symm.trans taken)
    subst same
    have spent : Filed platform (directory.spendNonce env request'.auth.nonce (nowSecs clock)) :=
      filed
    have stores : Stores platform
        (directory.spendNonce env request'.auth.nonce (nowSecs clock)) request'.record.sisterId
        stored := before
    obtain ⟨row, known, kept⟩ := @upsert_stores env _ platform _ _ request'.membership
      (nowSecs clock) spent reads stores
    refine ⟨row, ?_, kept⟩
    rw [schedule_peers]
    exact known

/-- Where no announce is accepted for a Sister, its row stays or goes. -/
theorem unaccepted_stores
    (handled : Handling platform env visit.before visit.clock visit.event visit.answer visit.after)
    (other : ∀ request, visit.Accepts platform request → request.record.sisterId ≠ id)
    (before : Stores platform visit.before id stored)
    (later : Stores platform visit.after id kept) :
    stored = kept := by
  rcases visit with ⟨event, clock, directory, answer, after⟩
  dsimp only at *
  cases handled with
  | failed | replayed | unmatched => exact stores_unique before later
  | listed =>
    refine stores_unchanged (fun key row known => ?_) before later
    rw [schedule_peers] at known
    exact known
  | collected =>
    refine stores_unchanged (fun key row known => ?_) before later
    rw [schedule_peers, Directory.collect, lookup_retain, Option.filter_eq_some_iff] at known
    exact known.1
  | @announced call request taken passed fresh matched verified =>
    have different : id.toInt64 ≠ request.record.sisterId.toInt64 := fun same =>
      other request ⟨taken, rfl⟩ (to_int64_injective same).symm
    obtain ⟨row, known, reads⟩ := later
    rw [schedule_peers, upsert_other different] at known
    exact stores_unique before ⟨row, known, reads⟩

variable {visit : Visit}

theorem keeps_highest_comparable (filed : Filed platform visit.before)
    (handled : Handling platform env visit.before visit.clock visit.event visit.answer visit.after)
    (reads : ∀ request, visit.event.announces platform.toGatewayPlatform = some request →
      platform.readRecord (platform.recordJson request.record) = .ok request.record)
    (keeps : KeepsHighest platform visit) : Comparable platform visit := by
  intro request stored accepts before
  by_contra side
  have after := accepted_stores filed handled (reads request accepts.taken) accepts before
  -- The cast has turned the order around, so the wrong one of the two is there now.
  simp only [other_side_lt side] at after
  by_cases lower : request.record.sequence < stored.sequence
  · rw [if_pos lower] at after
    exact UInt64.not_le.mpr lower (keeps.monotone _ stored request.record before after)
  · rw [if_neg lower] at after
    have different : stored.sequence ≠ request.record.sequence := fun same =>
      side (same ▸ Iff.rfl)
    have higher : stored.sequence < request.record.sequence :=
      UInt64.lt_of_le_of_ne (UInt64.not_lt.mp lower) different
    have replaced := keeps.replaces request stored accepts before higher
    exact different (congrArg PeerRecord.sequence (stores_unique after replaced))

theorem comparable_keeps_highest (filed : Filed platform visit.before)
    (handled : Handling platform env visit.before visit.clock visit.event visit.answer visit.after)
    (reads : ∀ request, visit.event.announces platform.toGatewayPlatform = some request →
      platform.readRecord (platform.recordJson request.record) = .ok request.record)
    (comparable : Comparable platform visit) : KeepsHighest platform visit := by
  constructor
  · intro id stored kept before later
    by_cases accepted : ∃ request, visit.Accepts platform request ∧ request.record.sisterId = id
    · obtain ⟨request, accepts, rfl⟩ := accepted
      have after := accepted_stores filed handled (reads request accepts.taken) accepts before
      simp only [same_side_lt (comparable request stored accepts before)] at after
      rw [← stores_unique after later]
      split
      · rename_i higher
        exact UInt64.le_of_lt higher
      · exact UInt64.le_refl _
    · have other : ∀ request, visit.Accepts platform request → request.record.sisterId ≠ id :=
        fun request accepts same => accepted ⟨request, accepts, same⟩
      rw [unaccepted_stores handled other before later]
      exact UInt64.le_refl _
  · intro request stored accepts before higher
    have after := accepted_stores filed handled (reads request accepts.taken) accepts before
    simp only [same_side_lt (comparable request stored accepts before), higher, if_true] at after
    exact after

theorem history_filed (history : History platform env visits directory)
    (reads : ReadsBack platform visits) :
    Filed platform directory ∧
      ∀ visit ∈ visits, Filed platform visit.before ∧ Filed platform visit.after := by
  refine history_invariant ?_ (fun event clock directory filed => handle_filed event filed) history
    reads
  intro key row found
  cases found
end Sequences

/-! A Sister announces two records, one after the other. -/
section Sample
variable (first second : UInt64)

def sentAnnounces : List GatewayAnnounceRequest :=
  [memberAnnounce 1000 1 (memberRecord first 900), memberAnnounce 1000 2 (memberRecord second 900)]

abbrev sentObject : DirectoryPlatform := sampleObject (sentAnnounces first second) []

variable {first second}

theorem sent_read (differ : (sampleJson (memberRecord first 900) ==
      sampleJson (memberRecord second 900)) = false) :
    ∀ record ∈ [memberRecord first 900, memberRecord second 900],
      (sentObject first second).readRecord ((sentObject first second).recordJson record) =
        .ok record := by
  intro record member
  rcases List.mem_pair.mp member with rfl | rfl
  · simp [sentObject, sentAnnounces, sampleObject, memberAnnounce]
  · simp [sentObject, sentAnnounces, sampleObject, memberAnnounce, differ]

theorem sent_announces (differ : (sampleJson (memberRecord first 900) ==
      sampleJson (memberRecord second 900)) = false) :
    ∃ between after,
      History (sentObject first second) sampleEnv
        [⟨.fetch (.announce [0]), 1000000, Directory.new, some .noContent, between⟩,
          ⟨.fetch (.announce [1]), 1000000, between, some .noContent, after⟩] after ∧
      Stores (sentObject first second) between (memberRecord first 900).sisterId
        (memberRecord first 900) := by
  have unused : History (sentObject first second) sampleEnv [] Directory.new := .start
  obtain ⟨between, handled, nonces, peers⟩ := @member_announce_handled (sentAnnounces first second)
    [] Directory.new 1000000 [0] 1000 1 first 900 rfl (by decide) rfl
  have unspent : between.spent (Bytes.fill 16 2) = false := by
    have other : (Bytes.fill 16 2 : Bytes 16) ≠ Bytes.fill 16 1 := by decide
    rw [Directory.spent, nonces, Directory.spendNonce, Finmap.lookup_insert_of_ne _ other]
    rfl
  obtain ⟨after, handled', _⟩ := @member_announce_handled (sentAnnounces first second) [] between
    1000000 [1] 1000 2 second 900 rfl (by decide) unspent
  have stored : between.peers.lookup (memberRecord first 900).sisterId.toInt64 =
      some (peerRow (sentObject first second) sampleEnv (memberRecord first 900) memberCertificate
        (nowSecs 1000000)) := by
    rw [peers]
    exact upsert_absent rfl
  exact ⟨between, after, (unused.step handled (by simp)).step handled' (by simp), _, stored,
    sent_read differ _ List.mem_cons_self⟩

theorem sent_reads_back {between after : Directory}
   
    (differ : (sampleJson (memberRecord first 900) == sampleJson (memberRecord second 900)) = false) :
    ReadsBack (sentObject first second)
      [⟨.fetch (.announce [0]), 1000000, Directory.new, some .noContent, between⟩,
        ⟨.fetch (.announce [1]), 1000000, between, some .noContent, after⟩] := by
  intro visit member request taken
  rcases List.mem_pair.mp member with rfl | rfl
  · cases taken
    exact sent_read differ _ List.mem_cons_self
  · cases taken
    exact sent_read differ _ (List.mem_cons_of_mem _ List.mem_cons_self)
end Sample

section Results
variable {platform : DirectoryPlatform}

theorem highest_sequence_kept_iff (history : History platform env visits directory)
    (reads : ReadsBack platform visits) :
    (∀ visit ∈ visits, KeepsHighest platform visit) ↔
      ∀ visit ∈ visits, Comparable platform visit := by
  have filed := (history_filed history reads).2
  have handled := history_handling history
  constructor
  · intro keeps visit member
    exact keeps_highest_comparable (filed visit member).1 (handled visit member) (reads visit member)
      (keeps visit member)
  · intro comparable visit member
    exact comparable_keeps_highest (filed visit member).1 (handled visit member) (reads visit member)
      (comparable visit member)

/-- Small sequences: the newer record takes the place of the older. -/
theorem newer_record_kept :
    ∃ visits directory, History (sentObject 3 4) sampleEnv visits directory ∧
      visits.map Visit.answer = [some .noContent, some .noContent] ∧
      ∀ visit ∈ visits, KeepsHighest (sentObject 3 4) visit := by
  have differ : (sampleJson (memberRecord 3 900) == sampleJson (memberRecord 4 900)) = false := by
    decide
  obtain ⟨between, after, history, stores⟩ := sent_announces differ
  refine ⟨_, _, history, rfl, (highest_sequence_kept_iff history (sent_reads_back differ)).mpr ?_⟩
  intro visit member request stored accepts before
  rcases List.mem_pair.mp member with rfl | rfl
  · obtain ⟨row, known, _⟩ := before
    cases known
  · have taken := accepts.taken
    cases taken
    rw [← stores_unique stores before]
    unfold SameSide
    decide

/-- In the middle of the range the newer record is ignored. -/
theorem far_sequence_ignored :
    ∃ visits directory, History (sentObject 5 9223372036854775808) sampleEnv visits directory ∧
      visits.map Visit.answer = [some .noContent, some .noContent] ∧
      Stores (sentObject 5 9223372036854775808) directory 2 (memberRecord 5 900) ∧
      ¬ ∀ visit ∈ visits, KeepsHighest (sentObject 5 9223372036854775808) visit := by
  have differ : (sampleJson (memberRecord 5 900) ==
      sampleJson (memberRecord 9223372036854775808 900)) = false := by decide
  obtain ⟨between, after, history, stores⟩ := sent_announces differ
  have reads := @sent_reads_back 5 9223372036854775808 between after differ
  have last : (⟨.fetch (.announce [1]), 1000000, between, some .noContent, after⟩ : Visit) ∈
      [⟨.fetch (.announce [0]), 1000000, Directory.new, some .noContent, between⟩,
        ⟨.fetch (.announce [1]), 1000000, between, some .noContent, after⟩] := by simp
  have accepts : Visit.Accepts (sentObject 5 9223372036854775808)
      ⟨.fetch (.announce [1]), 1000000, between, some .noContent, after⟩
      (memberAnnounce 1000 2 (memberRecord 9223372036854775808 900)) := ⟨rfl, rfl⟩
  have kept := accepted_stores ((history_filed history reads).2 _ last).1
    (history_handling history _ last) (reads _ last _ accepts.taken) accepts stores
  refine ⟨_, _, history, rfl, kept, ?_⟩
  intro keeps
  have replaced := (keeps _ last).replaces _ _ accepts stores (by decide)
  have same := congrArg PeerRecord.sequence (stores_unique kept replaced)
  revert same
  decide
end Results
end Misaka.DirectorySequence
