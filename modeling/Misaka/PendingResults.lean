import Misaka.ServiceMoves

/-!
The waiters of jobs submitted to other Sisters. A submission reserves an entry of
the pending map under the id it has drawn; a response takes the entry out and sends
the result to the waiter; the submission itself removes the entry when it cannot
send or has waited too long. Nothing else removes it: a submission that is dropped
while it sends or waits leaves its entry behind.
-/

namespace Misaka.PendingResults
open Identity Protocol JobManager EffectTask NodeRuntime Dispatch RelyGuarantee JobServices
open ServiceRoles ServiceMoves
variable {Index : Type} {node : NodeConfig} {board after : Board Index} {thread : Index}
variable {platform : Platform}

section Waiters

-- The roles that lay claim to an id or a waiter.
def Claims : TaskRole → Prop
  | .named _ | .submitting _ _ | .carrying _ _ => True
  | _ => False

def Has (board : Board Index) (role : TaskRole) : Prop := ∃ thread, board.role thread = role

def pending (board : Board Index) (id : String) : Option Waiter :=
  board.node.jobs.pending.lookup id

-- A result was taken for the waiter: it is in a handler's hands, or already sent.
def Resolved (board : Board Index) (waiter : Waiter) : Prop :=
  (∃ id, Has board (.carrying id waiter)) ∨ ∃ data, (waiter, data) ∈ board.delivered

structure Waiters (node : NodeConfig) (board : Board Index) : Prop where
  apart : ∀ {role thread other}, board.role thread = role → board.role other = role →
    Claims role → thread = other
  named : ∀ {id}, Has board (.named id) → id ∈ board.drawn ∧ ∀ entry ∈ board.reserved, entry.1 ≠ id
  drawn : ∀ entry ∈ board.reserved, entry.1 ∈ board.drawn
  ids : (board.reserved.map Prod.fst).Nodup
  channels : (board.reserved.map Prod.snd).Nodup
  -- Every entry of the map belongs to a submission that is still there.
  watched : ∀ {id waiter}, pending board id = some waiter → Has board (.submitting id waiter)
  submitting : ∀ {id waiter}, Has board (.submitting id waiter) → (id, waiter) ∈ board.reserved ∧
    (pending board id = some waiter ∨ Resolved board waiter)
  carrying : ∀ {id waiter}, Has board (.carrying id waiter) → (id, waiter) ∈ board.reserved ∧
    ∀ entry ∈ board.delivered, entry.1 ≠ waiter
  resolved : ∀ {id waiter}, Resolved board waiter → pending board id ≠ some waiter
  once : (board.delivered.map Prod.fst).Nodup
  own : ∀ entry ∈ board.delivered, entry.2.creator = node.identity.id ∧
    (entry.2.jobId, entry.1) ∈ board.reserved

def KeepsSubmissions (actor : Option Index) (before after : ServiceCrew Index) : Prop :=
  actor = none → ∀ thread id waiter, before.shared.role thread = .submitting id waiter →
    after.shared.role thread = before.shared.role thread

variable (waiters : Waiters node board)
include waiters

variable {waiter : Waiter} {id : String}

-- A waiter belongs to one id, and an id to one waiter.
theorem one_waiter {other : Waiter} (first : (id, waiter) ∈ board.reserved)
    (second : (id, other) ∈ board.reserved) :
    waiter = other :=
  (Prod.ext_iff.mp (List.inj_on_of_nodup_map waiters.ids first second rfl)).2

theorem one_id {other : String} (first : (id, waiter) ∈ board.reserved)
    (second : (other, waiter) ∈ board.reserved) :
    id = other :=
  (Prod.ext_iff.mp (List.inj_on_of_nodup_map waiters.channels first second rfl)).1

theorem pending_reserved (found : pending board id = some waiter) :
    (id, waiter) ∈ board.reserved :=
  (waiters.submitting (waiters.watched found)).1

/-- No claim appears, no waiter in hand or in the map loses its holder, and the books
stay as they are. -/
theorem waiters_kept
    (apart : ∀ {role thread other}, after.role thread = role → after.role other = role →
      Claims role → thread = other) (fewer : ∀ role, Claims role → Has after role → Has board role)
    (carries : ∀ id waiter, Has board (.carrying id waiter) → Has after (.carrying id waiter))
    (watches : ∀ id waiter, pending board id = some waiter → Has after (.submitting id waiter))
    (entries : ∀ id, pending after id = pending board id) (drawn : after.drawn = board.drawn)
    (reserved : after.reserved = board.reserved) (delivered : after.delivered = board.delivered) :
    Waiters node after := by
  have same : ∀ waiter, Resolved after waiter ↔ Resolved board waiter := by
    intro waiter
    unfold Resolved
    rw [delivered]
    constructor
    · rintro (⟨id, held⟩ | sent)
      · exact Or.inl ⟨id, fewer _ trivial held⟩
      · exact Or.inr sent
    · rintro (⟨id, held⟩ | sent)
      · exact Or.inl ⟨id, carries id waiter held⟩
      · exact Or.inr sent
  refine ⟨apart, ?_, ?_, ?_, ?_, ?_, ?_, ?_, ?_, ?_, ?_⟩
  · intro id held
    rw [drawn, reserved]
    exact waiters.named (fewer _ trivial held)
  · rw [drawn, reserved]
    exact waiters.drawn
  · rw [reserved]
    exact waiters.ids
  · rw [reserved]
    exact waiters.channels
  · intro id waiter found
    rw [entries] at found
    exact watches id waiter found
  · intro id waiter held
    rw [reserved, entries, same]
    exact waiters.submitting (fewer _ trivial held)
  · intro id waiter held
    rw [reserved, delivered]
    exact waiters.carrying (fewer _ trivial held)
  · intro id waiter taken
    rw [same] at taken
    rw [entries]
    exact waiters.resolved taken
  · rw [delivered]
    exact waiters.once
  · rw [delivered, reserved]
    exact waiters.own

theorem drop_waiters (dropped : Drops board after)
    (staying : ∀ thread id waiter, board.role thread = .submitting id waiter →
      after.role thread = board.role thread) : Waiters node after := by
  obtain ⟨state, role, jobs, rfl, freed⟩ := dropped
  have kept : ∀ {claim : TaskRole} {thread}, Claims claim → role thread = claim →
      board.role thread = claim := by
    intro claim thread claims held
    rcases freed thread with same | ⟨free, -⟩
    · exact same.symm.trans held
    · rw [free] at held
      subst held
      exact claims.elim
  refine waiters_kept waiters ?_ ?_ ?_ ?_ ?_ rfl rfl rfl
  · intro claim thread other held heldToo claims
    exact waiters.apart (kept claims held) (kept claims heldToo) claims
  · rintro claim claims ⟨thread, held⟩
    exact ⟨thread, kept claims held⟩
  · rintro id waiter ⟨thread, held⟩
    refine ⟨thread, ?_⟩
    rcases freed thread with same | ⟨-, empty⟩
    · exact same.trans held
    · exact absurd held (empty id waiter)
  · intro id waiter found
    obtain ⟨thread, held⟩ := waiters.watched found
    exact ⟨thread, (staying thread id waiter held).trans held⟩
  · intro id
    change state.jobs.pending.lookup id = _
    rw [jobs]
    rfl

omit waiters

theorem start_waiters {state : NodeState} : Waiters node (Board.start Index state) where
  apart held _ claims := by
    subst held
    exact claims.elim
  named := by
    rintro id ⟨thread, impossible⟩
    cases impossible
  drawn entry member := by cases member
  ids := List.nodup_nil
  channels := List.nodup_nil
  watched := by
    intro id waiter found
    cases found
  submitting := by
    rintro id waiter ⟨thread, impossible⟩
    cases impossible
  carrying := by
    rintro id waiter ⟨thread, impossible⟩
    cases impossible
  resolved := by
    rintro id waiter (⟨other, thread, impossible⟩ | ⟨data, impossible⟩) <;> cases impossible
  once := List.nodup_nil
  own entry member := by cases member

end Waiters

/-! One task changes its role. -/
section Steps
variable [DecidableEq Index]
variable {role : TaskRole} {service : Service} {op : ServiceOp} {claim : TaskRole}

theorem has_update (roles : after.role = Function.update board.role thread role)
    (held : Has after claim) :
    role = claim ∨ ∃ other, other ≠ thread ∧ board.role other = claim := by
  obtain ⟨other, held⟩ := held
  rw [roles] at held
  by_cases here : other = thread
  · subst here
    rw [Function.update_self] at held
    exact Or.inl held
  · rw [Function.update_of_ne here] at held
    exact Or.inr ⟨other, here, held⟩

theorem has_kept (roles : after.role = Function.update board.role thread role)
    (held : Has board claim) (different : board.role thread ≠ claim) :
    Has after claim := by
  obtain ⟨other, held⟩ := held
  refine ⟨other, ?_⟩
  rw [roles, Function.update_of_ne]
  · exact held
  · rintro rfl
    exact different held

-- A claim that is not the new role was there before, with another task.
theorem has_before (roles : after.role = Function.update board.role thread role)
    (held : Has after claim) (different : role ≠ claim) : Has board claim := by
  obtain ⟨other, -, holds⟩ := (has_update roles held).resolve_left different
  exact ⟨other, holds⟩

theorem resolved_kept (roles : after.role = Function.update board.role thread role)
    (empty : ∀ id waiter, board.role thread ≠ .carrying id waiter)
    (delivered : after.delivered = board.delivered) {waiter : Waiter}
    (resolved : Resolved board waiter) : Resolved after waiter := by
  rw [Resolved, delivered]
  exact resolved.imp_left fun ⟨id, holds⟩ => ⟨id, has_kept roles holds (empty id waiter)⟩

variable (waiters : Waiters node board)
include waiters

theorem apart_kept (roles : after.role = Function.update board.role thread role)
    (new : Claims role → ¬ Has board role) :
    ∀ {claim first second}, after.role first = claim → after.role second = claim →
      Claims claim → first = second := by
  intro claim first second held heldToo claims
  rw [roles] at held heldToo
  by_cases here : first = thread
  · by_cases there : second = thread
    · exact here.trans there.symm
    · subst here
      rw [Function.update_self] at held
      rw [Function.update_of_ne there] at heldToo
      subst held
      exact absurd ⟨second, heldToo⟩ (new claims)
  · rw [Function.update_of_ne here] at held
    by_cases there : second = thread
    · subst there
      rw [Function.update_self] at heldToo
      subst heldToo
      exact absurd ⟨first, held⟩ (new claims)
    · rw [Function.update_of_ne there] at heldToo
      exact waiters.apart held heldToo claims

-- The task ends up without a claim.
theorem waiters_plain (roles : after.role = Function.update board.role thread role)
    (plain : ¬ Claims role) (empty : ∀ id waiter, board.role thread ≠ .carrying id waiter)
    (past : ∀ id waiter, board.role thread = .submitting id waiter → pending board id ≠ some waiter)
    (entries : ∀ id, pending after id = pending board id) (drawn : after.drawn = board.drawn)
    (reserved : after.reserved = board.reserved) (delivered : after.delivered = board.delivered) :
    Waiters node after := by
  refine waiters_kept waiters (apart_kept waiters roles fun claims => absurd claims plain) ?_ ?_ ?_
    entries drawn reserved delivered
  · intro claim claims held
    rcases has_update roles held with rfl | ⟨other, -, holds⟩
    · exact absurd claims plain
    · exact ⟨other, holds⟩
  · intro id waiter held
    exact has_kept roles held (empty id waiter)
  · intro id waiter found
    exact has_kept roles (waiters.watched found) fun held => past id waiter held found

variable {id : String}

theorem draw_waiters (held : board.role thread = .free) (fresh : id ∉ board.drawn) :
    Waiters node { board with
      role := Function.update board.role thread (.named id)
      drawn := id :: board.drawn } := by
  let after : Board Index := { board with
    role := Function.update board.role thread (.named id)
    drawn := id :: board.drawn }
  have roles : after.role = Function.update board.role thread (.named id) := rfl
  refine ⟨apart_kept waiters roles fun _ holds => fresh (waiters.named holds).1, ?_, ?_,
    waiters.ids, waiters.channels,
    fun found => has_kept roles (waiters.watched found) (held ▸ nofun), ?_, ?_, ?_, waiters.once,
    waiters.own⟩
  · intro other holds
    by_cases same : other = id
    · subst same
      refine ⟨List.mem_cons_self, fun entry member named => ?_⟩
      exact fresh (named ▸ waiters.drawn entry member)
    · obtain ⟨drawn, apart⟩ := waiters.named (has_before roles holds (by simpa using Ne.symm same))
      exact ⟨List.mem_cons_of_mem _ drawn, apart⟩
  · exact fun entry member => List.mem_cons_of_mem _ (waiters.drawn entry member)
  · intro other waiter holds
    obtain ⟨reserved, waits⟩ := waiters.submitting (has_before roles holds nofun)
    exact ⟨reserved, waits.imp_right (resolved_kept roles (held ▸ nofun) rfl)⟩
  · exact fun holds => waiters.carrying (has_before roles holds nofun)
  · intro other waiter taken
    apply waiters.resolved
    exact taken.imp_left fun ⟨other, holds⟩ => ⟨other, has_before roles holds nofun⟩

variable {waiter : Waiter}

theorem reserve_waiters (held : board.role thread = .named id)
    (fresh : ∀ entry ∈ board.reserved, entry.2 ≠ waiter) :
    Waiters node
      { board.manage thread (.submitting id waiter)
          (board.node.jobs.reservePending id waiter) with
        reserved := (id, waiter) :: board.reserved } := by
  let after : Board Index :=
    { board.manage thread (.submitting id waiter) (board.node.jobs.reservePending id waiter) with
      reserved := (id, waiter) :: board.reserved }
  have roles : after.role = Function.update board.role thread (.submitting id waiter) := rfl
  obtain ⟨drawn, unused⟩ := waiters.named ⟨thread, held⟩
  -- Nothing was taken for a channel that did not exist.
  have known : ∀ {channel}, Resolved board channel → ∃ entry ∈ board.reserved, entry.2 = channel := by
    rintro channel (⟨other, holds⟩ | ⟨data, sent⟩)
    · exact ⟨_, (waiters.carrying holds).1, rfl⟩
    · exact ⟨_, (waiters.own _ sent).2, rfl⟩
  have entries : ∀ other, pending after other =
      if other = id then some waiter else pending board other := by
    intro other
    change (board.node.jobs.pending.insert id waiter).lookup other = _
    split
    · rename_i same
      rw [same, Finmap.lookup_insert]
    · rename_i different
      exact Finmap.lookup_insert_of_ne _ different
  refine ⟨apart_kept waiters roles fun _ holds => ?_, ?_, ?_, ?_, ?_, ?_, ?_, ?_, ?_, waiters.once,
    ?_⟩
  · exact fresh _ (waiters.submitting holds).1 rfl
  · intro other holds
    obtain ⟨task, different, holds⟩ := (has_update roles holds).resolve_left nofun
    obtain ⟨named, apart⟩ := waiters.named ⟨task, holds⟩
    refine ⟨named, List.forall_mem_cons.mpr ⟨?_, apart⟩⟩
    rintro rfl
    exact different (waiters.apart holds held trivial)
  · exact List.forall_mem_cons.mpr ⟨drawn, waiters.drawn⟩
  · refine List.nodup_cons.mpr ⟨fun member => ?_, waiters.ids⟩
    obtain ⟨entry, member, same⟩ := List.mem_map.mp member
    exact unused entry member same
  · refine List.nodup_cons.mpr ⟨fun member => ?_, waiters.channels⟩
    obtain ⟨entry, member, same⟩ := List.mem_map.mp member
    exact fresh entry member same
  · intro other channel found
    rw [entries] at found
    split at found
    · rename_i same
      cases found
      subst same
      exact ⟨thread, by rw [roles, Function.update_self]⟩
    · exact has_kept roles (waiters.watched found) (held ▸ nofun)
  · intro other channel holds
    by_cases same : other = id ∧ channel = waiter
    · obtain ⟨rfl, rfl⟩ := same
      exact ⟨List.mem_cons_self, Or.inl ((entries _).trans (if_pos rfl))⟩
    · obtain ⟨reserved, waits⟩ := waiters.submitting (has_before roles holds fun here =>
        same ⟨(TaskRole.submitting.inj here).1.symm, (TaskRole.submitting.inj here).2.symm⟩)
      refine ⟨List.mem_cons_of_mem _ reserved, ?_⟩
      rw [entries, if_neg (unused _ reserved)]
      exact waits.imp_right (resolved_kept roles (held ▸ nofun) rfl)
  · intro other channel holds
    obtain ⟨reserved, unsent⟩ := waiters.carrying (has_before roles holds nofun)
    exact ⟨List.mem_cons_of_mem _ reserved, unsent⟩
  · intro other channel taken found
    have earlier : Resolved board channel :=
      taken.imp_left fun ⟨other, holds⟩ => ⟨other, has_before roles holds nofun⟩
    rw [entries] at found
    split at found
    · cases found
      obtain ⟨entry, member, same⟩ := known earlier
      exact fresh entry member same
    · exact waiters.resolved earlier found
  · intro entry sent
    obtain ⟨creator, reserved⟩ := waiters.own entry sent
    exact ⟨creator, List.mem_cons_of_mem _ reserved⟩

omit waiters

theorem pending_cancelled (jobs : Jobs) (id other : String) :
    (jobs.cancelPending id).pending.lookup other =
      if other = id then none else jobs.pending.lookup other := by
  split
  · rename_i same
    rw [same]
    exact Finmap.lookup_erase _ _
  · rename_i different
    exact Finmap.lookup_erase_ne different

variable (waiters : Waiters node board)
include waiters

theorem cancel_waiters (held : board.role thread = .submitting id waiter) :
    Waiters node (board.manage thread .free (board.node.jobs.cancelPending id)) := by
  let after := board.manage thread .free (board.node.jobs.cancelPending id)
  have roles : after.role = Function.update board.role thread .free := rfl
  have mine := (waiters.submitting ⟨thread, held⟩).1
  have entries : ∀ other, pending after other = if other = id then none else pending board other :=
    pending_cancelled board.node.jobs id
  refine ⟨apart_kept waiters roles fun claims => claims.elim, ?_, waiters.drawn, waiters.ids,
    waiters.channels, ?_, ?_, ?_, ?_, waiters.once, waiters.own⟩
  · exact fun holds => waiters.named (has_before roles holds nofun)
  · intro other channel found
    rw [entries] at found
    split at found
    · cases found
    · rename_i different
      exact has_kept roles (waiters.watched found) (by simp [held, Ne.symm different])
  · intro other channel holds
    obtain ⟨task, different, kept⟩ := (has_update roles holds).resolve_left nofun
    obtain ⟨reserved, waits⟩ := waiters.submitting ⟨task, kept⟩
    refine ⟨reserved, waits.imp (fun entry => ?_) (resolved_kept roles (held ▸ nofun) rfl)⟩
    rw [entries, if_neg]
    · exact entry
    · rintro rfl
      cases one_waiter waiters mine reserved
      exact different (waiters.apart kept held trivial)
  · exact fun holds => waiters.carrying (has_before roles holds nofun)
  · intro other channel taken found
    rw [entries] at found
    split at found
    · cases found
    · refine waiters.resolved (taken.imp_left ?_) found
      exact fun ⟨other, holds⟩ => ⟨other, has_before roles holds nofun⟩

theorem resolve_waiters (held : board.role thread = .free)
    (waiting : pending board id = some waiter) :
    Waiters node
      (board.manage thread (.carrying id waiter) (board.node.jobs.cancelPending id)) := by
  let after := board.manage thread (.carrying id waiter) (board.node.jobs.cancelPending id)
  have roles : after.role = Function.update board.role thread (.carrying id waiter) := rfl
  have mine := pending_reserved waiters waiting
  have untaken : ¬ Resolved board waiter := fun taken => waiters.resolved taken waiting
  have still : ∀ {other channel}, Has after (.carrying other channel) →
      ¬ (other = id ∧ channel = waiter) → Has board (.carrying other channel) := by
    intro other channel holds different
    exact has_before roles holds (by simpa [eq_comm] using different)
  have entries : ∀ other, pending after other = if other = id then none else pending board other :=
    pending_cancelled board.node.jobs id
  have holder : Has after (.carrying id waiter) :=
    ⟨thread, by rw [roles, Function.update_self]⟩
  refine ⟨apart_kept waiters roles fun _ holds => untaken (Or.inl ⟨id, holds⟩), ?_, waiters.drawn,
    waiters.ids, waiters.channels, ?_, ?_, ?_, ?_, waiters.once, waiters.own⟩
  · exact fun holds => waiters.named (has_before roles holds nofun)
  · intro other channel found
    rw [entries] at found
    split at found
    · cases found
    · exact has_kept roles (waiters.watched found) (held ▸ nofun)
  · intro other channel holds
    obtain ⟨reserved, waits⟩ := waiters.submitting (has_before roles holds nofun)
    refine ⟨reserved, ?_⟩
    by_cases same : other = id
    · subst same
      cases one_waiter waiters mine reserved
      exact Or.inr (Or.inl ⟨_, holder⟩)
    · rw [entries, if_neg same]
      exact waits.imp_right (resolved_kept roles (held ▸ nofun) rfl)
  · intro other channel holds
    by_cases same : other = id ∧ channel = waiter
    · obtain ⟨rfl, rfl⟩ := same
      refine ⟨mine, fun entry sent named => ?_⟩
      exact untaken (Or.inr ⟨entry.2, named ▸ sent⟩)
    · exact waiters.carrying (still holds same)
  · intro other channel taken found
    rw [entries] at found
    split at found
    · cases found
    · rename_i different
      rcases taken with ⟨carried, holds⟩ | sent
      · by_cases same : carried = id ∧ channel = waiter
        · obtain ⟨-, rfl⟩ := same
          exact different (one_id waiters (pending_reserved waiters found) mine)
        · exact waiters.resolved (Or.inl ⟨carried, still holds same⟩) found
      · exact waiters.resolved (Or.inr sent) found

theorem deliver_waiters {result : JobResultData}
    (held : board.role thread = .carrying result.jobId waiter)
    (own : result.creator = node.identity.id) :
    Waiters node { board with
      role := Function.update board.role thread .free
      delivered := (waiter, result) :: board.delivered } := by
  let after : Board Index := { board with
    role := Function.update board.role thread .free
    delivered := (waiter, result) :: board.delivered }
  have roles : after.role = Function.update board.role thread .free := rfl
  obtain ⟨mine, unsent⟩ := waiters.carrying ⟨thread, held⟩
  have resolved : ∀ {channel}, Resolved after channel → Resolved board channel := by
    rintro channel (⟨other, holds⟩ | ⟨data, sent⟩)
    · exact Or.inl ⟨other, has_before roles holds nofun⟩
    · rcases List.mem_cons.mp sent with same | sent
      · cases same
        exact Or.inl ⟨_, thread, held⟩
      · exact Or.inr ⟨data, sent⟩
  -- What the handler held is now in the channel.
  have remains : ∀ {channel}, Resolved board channel → Resolved after channel := by
    rintro channel (⟨other, holds⟩ | ⟨data, sent⟩)
    · by_cases same : TaskRole.carrying result.jobId waiter = .carrying other channel
      · cases same
        exact Or.inr ⟨result, List.mem_cons_self⟩
      · exact Or.inl ⟨other, has_kept roles holds (held ▸ same)⟩
    · exact Or.inr ⟨data, List.mem_cons_of_mem _ sent⟩
  refine ⟨apart_kept waiters roles fun claims => claims.elim, ?_, waiters.drawn, waiters.ids,
    waiters.channels, ?_, ?_, ?_, fun taken => waiters.resolved (resolved taken), ?_,
    List.forall_mem_cons.mpr ⟨⟨own, mine⟩, waiters.own⟩⟩
  · exact fun holds => waiters.named (has_before roles holds nofun)
  · intro other channel found
    exact has_kept roles (waiters.watched found) (held ▸ nofun)
  · intro other channel holds
    obtain ⟨reserved, waits⟩ := waiters.submitting (has_before roles holds nofun)
    exact ⟨reserved, waits.imp_right remains⟩
  · intro other channel holds
    obtain ⟨task, different, holds⟩ := (has_update roles holds).resolve_left nofun
    obtain ⟨reserved, before⟩ := waiters.carrying ⟨task, holds⟩
    refine ⟨reserved, List.forall_mem_cons.mpr ⟨?_, before⟩⟩
    rintro rfl
    cases one_id waiters mine reserved
    exact different (waiters.apart holds held trivial)
  · refine List.nodup_cons.mpr ⟨fun member => ?_, waiters.once⟩
    obtain ⟨entry, sent, same⟩ := List.mem_map.mp member
    exact unsent entry sent same

theorem move_waiters (moved : Move node service op thread board after) : Waiters node after := by
  -- A task whose role has to do with no waiter takes another such role.
  have plain : ∀ {role earlier}, after.role = Function.update board.role thread role →
      ¬ Claims role → board.role thread = earlier → (∀ id waiter, earlier ≠ .carrying id waiter) →
      (∀ id waiter, earlier ≠ .submitting id waiter) →
      (∀ id, pending after id = pending board id) → after.drawn = board.drawn →
      after.reserved = board.reserved → after.delivered = board.delivered →
      Waiters node after := by
    intro role earlier roles claimless held empty idle
    exact waiters_plain waiters roles claimless (held ▸ empty)
      fun id waiter submits => absurd (held.symm.trans submits) (idle id waiter)
  cases moved with
  | looks state envelopes same =>
    refine waiters_kept waiters ?_ ?_ ?_ ?_ ?_ rfl rfl rfl
    · exact waiters.apart
    · exact fun _ _ holds => holds
    · exact fun _ _ holds => holds
    · exact fun _ _ found => waiters.watched found
    · intro id
      change state.jobs.pending.lookup id = _
      rw [same]
      rfl
  | draws id held fresh => exact draw_waiters waiters held fresh
  | enqueues job held accepted queued placed =>
    rcases held with held | held
    · exact plain rfl id held (by simp) (by simp) (fun _ => rfl) rfl rfl rfl
    · exact plain rfl id held (by simp) (by simp) (fun _ => rfl) rfl rfl rfl
  | offers job requester jobs held asked popping =>
    refine plain rfl id held (by simp) (by simp) (fun other => ?_) rfl rfl rfl
    rw [pop_transferable_rest popping]
    rfl
  | putsBack job held =>
    exact plain rfl id held (by simp) (by simp) (fun _ => rfl) rfl rfl rfl
  | transfers job requester now held sent =>
    refine plain rfl id held (by simp) (by simp) (fun other => ?_) rfl rfl rfl
    exact congrArg (Finmap.lookup other)
      (modify_pending board.node.jobs job.id fun job => { job with status := .transferred })
  | takes job jobs held worker popping =>
    refine plain rfl id held (by simp) (by simp) (fun other => ?_) rfl rfl rfl
    rw [(pop_some popping).2]
    rfl
  | begins job startedAt held =>
    refine plain rfl id held (by simp) (by simp) (fun other => ?_) rfl rfl rfl
    exact congrArg (Finmap.lookup other) (modify_pending board.node.jobs job.id _)
  | beginsInline job startedAt held accepted | executes job held =>
    exact plain rfl id held (by simp) (by simp) (fun _ => rfl) rfl rfl rfl
  | finishes job result held =>
    refine plain rfl id held (by simp) (by simp) (fun other => ?_) rfl rfl rfl
    exact congrArg (Finmap.lookup other) (modify_pending board.node.jobs job.id _)
  | reserves id waiter held fresh => exact reserve_waiters waiters held fresh
  | cancels id waiter held => exact cancel_waiters waiters held
  | stopsWaiting name waiter held past =>
    refine waiters_plain waiters rfl id ?_ ?_ (fun _ => rfl) rfl rfl rfl
    · exact held ▸ by simp
    · intro other channel submits
      cases held.symm.trans submits
      rcases past with sent | absent
      · exact waiters.resolved (Or.inr sent)
      · exact absent name
  | resolves id waiter held found => exact resolve_waiters waiters held found
  | misses missing held absent =>
    refine plain rfl id held (by simp) (by simp) (fun other => ?_) rfl rfl rfl
    refine (pending_cancelled board.node.jobs missing other).trans ?_
    split
    · rename_i same
      rw [same]
      exact absent.symm
    · rfl
  | delivers waiter result held own => exact deliver_waiters waiters held own
end Steps

/-! A submission that waits gives its caller what the channel gives it. -/

def AwaitReturns (op : ServiceOp)
    (next : op.Result → ServiceTask MisakaError (Option JobResultData)) : Prop :=
  match op, next with
  | .awaitResult _, next => ∀ data, next (.result data) = .done (some data)
  | _, _ => True

def NoAwait : ServiceOp → Prop
  | .awaitResult _ => False
  | _ => True

theorem no_await_returns (op : ServiceOp)
    (next : op.Result → ServiceTask MisakaError (Option JobResultData)) (none : NoAwait op) :
    AwaitReturns op next := by
  cases op <;> first | exact none.elim | trivial

theorem runtime_no_await {Err Val : Type} (task : RuntimeTask Err Val) :
    Only NoAwait (runtime task) :=
  only_lift (only_any task) fun _ _ => trivial

theorem execute_and_record_no_await (id command : String) :
    Only NoAwait (executeAndRecord node id command) := by
  apply only_perform_bind trivial
  intro started
  apply only_perform_bind trivial
  intro _
  apply only_perform_bind trivial
  intro result
  apply only_perform_bind trivial
  intro finished
  apply only_perform_bind trivial
  intro _
  exact (only_pure _).mpr trivial

theorem executor_turn_no_await : Only NoAwait (executorTurn platform node) := by
  apply only_perform_bind trivial
  rintro (_ | job)
  · exact (only_pure _).mpr trivial
  apply only_perform_bind trivial
  intro started
  apply only_perform_bind trivial
  intro _
  apply only_perform_bind trivial
  intro result
  apply only_perform_bind trivial
  intro finished
  apply only_perform_bind trivial
  intro _
  split
  · exact runtime_no_await _
  · exact (only_pure _).mpr trivial

theorem callback_no_await (executor : SisterId) : Only NoAwait (callbackAddr node executor) := by
  unfold callbackAddr
  split
  · exact (only_pure _).mpr trivial
  split
  · exact (only_pure _).mpr trivial
  apply only_perform_bind trivial
  intro spawned
  apply only_bind ((only_or_error _ _).mpr trivial)
  intro addr
  exact (only_pure _).mpr trivial

theorem await_job_returns (id : String) (waiter : Waiter) :
    Everywhere AwaitReturns (awaitJob id waiter >>= fun data => pure (some data)) := by
  refine ⟨fun data => rfl, ?_⟩
  rintro (data | _ | _)
  · trivial
  · trivial
  · exact ⟨trivial, fun _ => trivial⟩

theorem submission_returns (sister : SisterId) (command : String)
    (authorization : Option CommandAuthorization) :
    Everywhere AwaitReturns ((Service.submitToSister sister command authorization).program
      platform node) := by
  change Everywhere AwaitReturns
    (submitToSisterAuthorized platform node sister command authorization >>= fun data =>
      pure (some data))
  unfold submitToSisterAuthorized
  rw [bind_assoc]
  apply everywhere_bind (callback_no_await sister) no_await_returns
  intro myListen
  rw [bind_assoc]
  apply everywhere_bind ((only_perform _).mpr trivial) no_await_returns
  intro id
  rw [bind_assoc]
  apply everywhere_bind ((only_perform _).mpr trivial) no_await_returns
  intro now
  split
  · apply everywhere_bind (execute_and_record_no_await id command) no_await_returns
    intro data
    trivial
  rw [bind_assoc]
  apply everywhere_bind ((only_perform _).mpr trivial) no_await_returns
  intro waiter
  rw [bind_assoc]
  apply everywhere_bind (only_attempt (runtime_no_await _)) no_await_returns
  rintro (error | _)
  · exact ⟨trivial, fun _ => trivial⟩
  · exact await_job_returns id waiter

theorem program_returns (service : Service) :
    Everywhere AwaitReturns (service.program platform node) := by
  cases service with
  | submitToSister sister command authorization =>
    exact submission_returns sister command authorization
  | handler envelope peer =>
    refine everywhere_only (only_bind (runtime_no_await _) fun _ => ?_) no_await_returns
    exact (only_pure _).mpr trivial
  | executor turns =>
    refine everywhere_only (only_bind (only_for_each ?_) fun _ => ?_) no_await_returns
    · exact fun _ _ => executor_turn_no_await
    · exact (only_pure _).mpr trivial
  | submitLocal command =>
    refine everywhere_only (only_bind (only_perform_bind trivial fun id => ?_)
      fun _ => ?_) no_await_returns
    · exact (only_perform _).mpr trivial
    · exact (only_pure _).mpr trivial
  | runLocalSync command =>
    refine everywhere_only (only_bind (only_perform_bind trivial fun id => ?_)
      fun _ => ?_) no_await_returns
    · exact execute_and_record_no_await id command
    · exact (only_pure _).mpr trivial

/-! Whole runs. -/
section Runs
variable [DecidableEq Index]
variable {services : Index → Service} {state : NodeState} {crew : ServiceCrew Index}

def InProgress (crew : ServiceCrew Index) (id : String) (waiter : Waiter) : Prop :=
  ∃ thread op next, crew.shared.role thread = .submitting id waiter ∧
    crew.task thread = .call op next

/-- A response for a submission in progress finds its waiter, goes into the channel
next, and is what the submission returns. -/
structure Delivers (platform : Platform) (crew : ServiceCrew Index) : Prop where
  taken : ∀ {handler id waiter next after}, InProgress crew id waiter →
    ¬ Resolved crew.shared waiter →
    crew.task handler = .call (.runtime (.resolvePending id)) next →
    Step (machine platform Index) (some handler) crew after →
    after.shared.role handler = .carrying id waiter
  sent : ∀ {handler id waiter}, crew.shared.role handler = .carrying id waiter →
    ∃ data next, data.jobId = id ∧
      crew.task handler = .call (.runtime (.sendResult waiter data)) next
  returned : ∀ {thread waiter data next after}, (waiter, data) ∈ crew.shared.delivered →
    crew.task thread = .call (.awaitResult waiter) next →
    Step (machine platform Index) (some thread) crew after →
    after.task thread = .done (some data)

theorem run_waiters
    (run : ServiceRun platform KeepsSubmissions (opening platform node services state) crew) :
    Waiters node crew.shared := by
  refine service_invariant start_waiters ?_ ?_ run
  · intro thread op next before after _ _ moved waiters
    exact move_waiters waiters moved
  · intro before after kept dropped waiters
    exact drop_waiters waiters dropped (kept rfl)

variable {condition : Condition Index}

theorem holder_running {role : TaskRole}
    (run : ServiceRun platform condition (opening platform node services state) crew)
    (held : crew.shared.role thread = role) (busy : role ≠ .free) :
    ∃ op next, crew.task thread = .call op next := by
  by_contra ended
  apply busy
  rw [← held]
  exact ended_holds_nothing run thread fun op next running => ended ⟨op, next, running⟩

variable {waiter : Waiter}

theorem held_in_progress {id : String}
    (run : ServiceRun platform condition (opening platform node services state) crew) :
    InProgress crew id waiter ↔ Has crew.shared (.submitting id waiter) := by
  constructor
  · rintro ⟨thread, op, next, held, -⟩
    exact ⟨thread, held⟩
  · rintro ⟨thread, held⟩
    obtain ⟨op, next, running⟩ := holder_running run held nofun
    exact ⟨thread, op, next, held, running⟩

variable (run : ServiceRun platform KeepsSubmissions (opening platform node services state) crew)
include run

theorem pending_in_progress {id : String} :
    pending crew.shared id = some waiter ↔
      InProgress crew id waiter ∧ ¬ Resolved crew.shared waiter := by
  have waiters := run_waiters run
  rw [held_in_progress run]
  constructor
  · intro found
    exact ⟨waiters.watched found, fun taken => waiters.resolved taken found⟩
  · rintro ⟨held, untaken⟩
    exact (waiters.submitting held).2.resolve_right untaken

theorem run_delivers :
    Delivers platform crew where
  taken := by
    intro handler id waiter next after going untaken running taken
    have found := (pending_in_progress run).mpr ⟨going, untaken⟩
    cases taken with
    | works started done =>
      obtain ⟨result, state, impossible, -⟩ := done
      cases impossible
    | finishes started done =>
      obtain ⟨result, state, answered, -, effect, rfl⟩ := done
      cases running.symm.trans started
      cases answered
      obtain ⟨jobs, resolving, -⟩ := effect
      have same := found.symm.trans (congrArg Prod.fst resolving)
      cases same
      exact Function.update_self _ _ _
  sent := by
    intro handler id waiter held
    have secured := run_all_secured run handler
    obtain ⟨op, next, running⟩ := holder_running run held nofun
    rw [running] at secured
    have legal := secured_guard secured
    simp only [terms, held] at legal
    obtain ⟨data, rfl⟩ := legal_carrying legal
    cases legal.1
    exact ⟨data, next, rfl, running⟩
  returned := by
    intro thread waiter data next after sent running taken
    have waiters := run_waiters run
    have returns := run_everywhere (fun thread => program_returns (services thread)) run thread
    rw [running] at returns
    cases taken with
    | works started done =>
      obtain ⟨result, state, impossible, -⟩ := done
      cases impossible
    | @finishes _ _ _ _ outcome _ started done =>
      obtain ⟨result, state, same, answered, -⟩ := done
      cases running.symm.trans started
      cases same
      simp only [Crew.advance, Function.update_self]
      cases outcome with
      | result found =>
        have one := List.inj_on_of_nodup_map waiters.once sent answered rfl
        cases one
        exact returns.1 data
      | timedOut => exact absurd rfl (answered _ sent)
      | closed => exact absurd rfl (answered.1 _ sent)

omit run

/-- In every run in which no submission is dropped once it has reserved its place, the
map holds the submissions in progress whose result has not come, each waiter gets at most
one result, one that names this Sister as its creator, and every result that comes is
delivered. -/
theorem pending_map_holds_submissions
    (run : ServiceRun platform KeepsSubmissions (opening platform node services state) crew) :
    (∀ id waiter, pending crew.shared id = some waiter ↔
      InProgress crew id waiter ∧ ¬ Resolved crew.shared waiter) ∧
    (crew.shared.delivered.map Prod.fst).Nodup ∧
    (∀ waiter data, (waiter, data) ∈ crew.shared.delivered →
      data.creator = node.identity.id ∧ (data.jobId, waiter) ∈ crew.shared.reserved) ∧
    Delivers platform crew := by
  have waiters := run_waiters run
  refine ⟨fun id waiter => pending_in_progress run, waiters.once, ?_, run_delivers run⟩
  intro waiter data sent
  exact waiters.own (waiter, data) sent
end Runs

/-! A submission to Sister 2 while it looks up where to send the job. -/

def submittingStart : ServiceCrew (Fin 1) :=
  opening samplePlatform sampleNode (fun _ => .submitToSister 2 "true" none) sampleState

theorem submitting_reached {condition : Condition (Fin 1)}
    (allowed : ∀ (before after : ServiceCrew (Fin 1)) op next,
      before.task 0 = .call op next → AnyOp before.shared op → condition (some 0) before after) :
    ∃ crew next, ServiceRun samplePlatform condition submittingStart crew ∧
      pending crew.shared "job-1" = some ⟨0⟩ ∧
      crew.task 0 = .call (.runtime (.peerGet 2)) next := by
  have submits : ∃ next after, Reaches (fun board op result after => AnyOp board op ∧
      Acts samplePlatform 0 board op result after) (submittingStart.task 0) submittingStart.shared
      (.call (.runtime (.peerGet 2)) next) after ∧ pending after "job-1" = some ⟨0⟩ := by
    refine ⟨_, _, .next ⟨trivial, acts_with "job-1" List.not_mem_nil rfl⟩
      (.next ⟨trivial, acts_with 5 trivial ⟨rfl, rfl⟩⟩
      (.next ⟨trivial, acts_with (Waiter.mk 0) ?_ rfl⟩ (.here _ _))), ?_⟩
    · intro entry member
      cases member
    · exact Finmap.lookup_insert _
  obtain ⟨next, after, sends, found⟩ := submits
  exact ⟨_, next, run_alone allowed sends, found, rfl⟩

theorem keeping_alone (before after : ServiceCrew (Fin 1)) (op : ServiceOp)
    (next : op.Result → ServiceTask MisakaError (Option JobResultData))
    (_ : before.task 0 = .call op next) (_ : AnyOp before.shared op) :
    KeepsSubmissions (some 0) before after := by
  intro impossible
  cases impossible

theorem sending_submission_pending : ∃ crew : ServiceCrew (Fin 1),
    ServiceRun samplePlatform KeepsSubmissions submittingStart crew ∧
    pending crew.shared "job-1" = some ⟨0⟩ ∧ InProgress crew "job-1" ⟨0⟩ := by
  obtain ⟨crew, next, run, found, -⟩ := submitting_reached keeping_alone
  exact ⟨crew, run, found, (((pending_map_holds_submissions run).1 "job-1" ⟨0⟩).mp found).1⟩

/-- Dropped there, the submission is over and its waiter stays in the map. -/
theorem dropped_submission_stays_pending : ∃ crew : ServiceCrew (Fin 1),
    ServiceRun samplePlatform Unrestricted submittingStart crew ∧
    pending crew.shared "job-1" = some ⟨0⟩ ∧ ∀ id waiter, ¬ InProgress crew id waiter := by
  obtain ⟨crew, next, run, found, sends⟩ := submitting_reached (any_op_allowed 0)
  let role : Fin 1 → TaskRole := fun _ => .free
  let left : Board (Fin 1) := { crew.shared with role := role }
  have halted : (machine samplePlatform (Fin 1)).halts (fun _ => True) crew.shared left :=
    ⟨crew.shared.node, role, rfl, fun _ _ => rfl, fun _ stays => absurd trivial stays, rfl⟩
  refine ⟨_, run.tail ⟨none, .halts halted, ?_, trivial⟩, found, ?_⟩
  · intro _ thread _
    have only : thread = 0 := Subsingleton.elim _ _
    subst only
    exact ⟨_, next, sends, rfl⟩
  · rintro id waiter ⟨thread, op, next, impossible, -⟩
    cases impossible
end Misaka.PendingResults
