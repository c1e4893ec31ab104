import Misaka.NodeRuntime

/-!
A command authorization on the node that is asked to act on it. Jobs and stream
services make the same checks against the installed authority, the clock and the
local revocations; what they add is the permission, the constraints and whether
the nonce is spent. A task keeps what it checked in its trace, and the trace says
what was true of the states it met.
-/

namespace Misaka.HumanAuthorization
open Identity AuthorizationStores EffectTask NodeRuntime

section Checks
variable {State : Type} {trace longer : List (Event RuntimeOp RuntimeOp.Result State)}
variable {platform : Platform} {node : NodeConfig} {target : SisterId}
variable {authorization : CommandAuthorization} {authority : NetworkAuthority} {now : UInt64}

/-- The checks every side effect shares, as a task performed them. -/
structure Vetted (platform : Platform) (node : NodeConfig) (target : SisterId)
    (authorization : CommandAuthorization) (authority : NetworkAuthority) (now : UInt64)
    (trace : List (Event RuntimeOp RuntimeOp.Result State)) : Prop where
  installed : Answered trace (.loadAuthority node.dataDir) (.ok (some authority))
  timely : Answered trace .nowSecs now
  verified : authorization.verify platform.verifies authority now = true
  network : authorization.networkId = node.networkId
  targeted : authorization.target = some (.sister target)
  unrevoked : FoundUnrevoked platform authority node.dataDir authorization.networkId .human
    authorization.membership.serial trace

theorem vetted_suffix (kept : trace <:+ longer)
    (vetted : Vetted platform node target authorization authority now trace) :
    Vetted platform node target authorization authority now longer :=
  { vetted with
    installed := answered_suffix kept vetted.installed
    timely := answered_suffix kept vetted.timely
    unrevoked := found_unrevoked_suffix kept vetted.unrevoked }
end Checks

-- The operations before a verdict: they only read.
def JudgeOp : RuntimeOp → Prop
  | .loadAuthority _ | .nowSecs | .loadRevocations _ | .peerGet _ => True
  | _ => False

def RecordsNonce : RuntimeOp → Prop
  | .recordNonce _ _ => True
  | _ => False

def VerdictOp (op : RuntimeOp) : Prop := JudgeOp op ∨ RecordsNonce op

theorem judge_op_records_nothing (op : RuntimeOp) (judging : JudgeOp op) : ¬ RecordsNonce op := by
  unfold JudgeOp at judging
  split at judging <;> simp_all [RecordsNonce]

/-! The same checks in terms of the node states the task met. -/
section States
variable {platform : Platform} {node : NodeConfig} {signed : PublicKey → List UInt8 → Prop}

/-- The local revocation file was readable and does not name the membership. -/
def LocallyUnrevoked (directory : DataDirectory) (authorization : CommandAuthorization) : Prop :=
  ∃ records, directory.revocations.read = .ok records ∧
    NotRevoked (records.getD []) authorization.networkId .human authorization.membership.serial

structure Established (node : NodeConfig) (signed : PublicKey → List UInt8 → Prop)
    (target : SisterId) (authorization : CommandAuthorization) (authority : NetworkAuthority)
    (trace : NodeTrace) : Prop where
  installed : Met trace fun state => (state.directories node.dataDir).authority = .present authority
  granted : Met trace fun state => authorization.Grants signed authority state.clock
  network : authorization.networkId = node.networkId
  targeted : authorization.target = some (.sister target)
  unrevoked : Met trace fun state =>
    LocallyUnrevoked (state.directories node.dataDir) authorization

theorem vetted_established {target : SisterId} {authorization : CommandAuthorization}
    {authority : NetworkAuthority} {now : UInt64} {trace : NodeTrace}
    (unforgeable : Unforgeable platform.verifies signed)
    (steps : ∀ event ∈ trace, NodeStep platform event.before event.op event.result event.after)
    (vetted : Vetted platform node target authorization authority now trace) :
    Established node signed target authorization authority trace := by
  obtain ⟨_, _, loading⟩ := vetted.installed
  obtain ⟨before, _, reading⟩ := vetted.timely
  obtain ⟨records, ⟨_, _, listing⟩, clean⟩ := vetted.unrevoked
  have clock : now = before.clock := (steps _ reading).1
  have granted := authorization_grants unforgeable vetted.verified
  exact ⟨⟨_, loading, reads_value (steps _ loading).1⟩, ⟨_, reading, clock ▸ granted⟩,
    vetted.network, vetted.targeted,
    ⟨_, listing, records, reads_ok (steps _ listing).1, is_revoked_false_sound _ _ clean⟩⟩

theorem silent_step_keeps_directories {before after : NodeState} {op : RuntimeOp}
    {result : op.Result} (taken : NodeStep platform before op result after)
    (silent : ¬ RecordsNonce op) : after.directories = before.directories := by
  rcases node_step_cases taken with rfl | ⟨_, _, _, rfl, _⟩ | ⟨_, _, _, rfl⟩ |
    ⟨_, _, _, _, _, _, rfl⟩ | ⟨_, _, rfl⟩
  · rfl
  · exact absurd trivial silent
  · rfl
  · rfl
  · rfl
end States
end Misaka.HumanAuthorization
