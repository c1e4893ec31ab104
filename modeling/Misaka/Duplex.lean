import Misaka.EffectTask

/-!
Two tasks at the ends of one connection. Each end keeps everything it has
received and everything it has sent, and receives only what the other end has
sent, in order. A step lets one end perform its next operation; an end that waits
for more than has been sent stands still. What the two say to each other can be
laid down as a script of turns, and if both keep to the script then no schedule
leaves them waiting for each other.
-/

namespace Misaka.Duplex
open EffectTask
variable {COp HOp : Type} {CRes : COp → Type} {HRes : HOp → Type}
variable {CErr CVal CState HErr HVal HState Word Reply : Type}

/-! Total correctness over every schedule. -/
section Settling
variable {State : Type} {step : State → State → Prop} {good : State → Prop}

/-- Every run from the state comes to rest, and rests where the property holds. -/
inductive Settles (step : State → State → Prop) (good : State → Prop) : State → Prop where
  | rest {state : State} (resting : ∀ after, ¬ step state after) (holds : good state) :
      Settles step good state
  | move {state after : State} (moves : step state after)
      (settles : ∀ next, step state next → Settles step good next) : Settles step good state

variable {state : State}

theorem settles_mono {better : State → Prop} (settles : Settles step good state)
    (implies : ∀ final, good final → better final) : Settles step better state := by
  induction settles with
  | rest resting holds => exact .rest resting (implies _ holds)
  | move moves _ ih => exact .move moves ih

theorem settles_run (settles : Settles step good state) :
    ∃ final, Relation.ReflTransGen step state final ∧ good final := by
  induction settles with
  | rest _ holds => exact ⟨_, .refl, holds⟩
  | move moves _ ih =>
    obtain ⟨final, run, holds⟩ := ih _ moves
    exact ⟨final, run.head moves, holds⟩
end Settling

section Tasks
variable {Op : Type} {Res : Op → Type} {Err Val : Type}

inductive Subtask : Task Op Res Err Val → Task Op Res Err Val → Prop where
  | answered (op : Op) (next : Res op → Task Op Res Err Val) (result : Res op) :
      Subtask (next result) (.call op next)

theorem subtask_well_founded : WellFounded (@Subtask Op Res Err Val) := by
  constructor
  intro task
  induction task with
  | done value | fail error => exact ⟨_, fun _ sub => nomatch sub⟩
  | call op next ih =>
    constructor
    rintro _ ⟨⟩
    exact ih _

def Ended : Task Op Res Err Val → Prop
  | .call _ _ => False
  | _ => True
end Tasks

/-- One end of a connection: a state of its own, and the two histories. -/
structure End (State In Out : Type) where
  state : State
  received : List In
  sent : List Out

abbrev Acts (Op : Type) (Res : Op → Type) (State In Out : Type) :=
  End State In Out → (op : Op) → Res op → End State In Out → Prop

structure Connection (COp : Type) (CRes : COp → Type) (CErr CVal CState : Type) (HOp : Type)
    (HRes : HOp → Type) (HErr HVal HState Word Reply : Type) where
  calling : Task COp CRes CErr CVal
  caller : End CState Reply Word
  hosting : Task HOp HRes HErr HVal
  host : End HState Word Reply

section Connections

inductive Step (callerActs : Acts COp CRes CState Reply Word)
    (hostActs : Acts HOp HRes HState Word Reply) :
    Connection COp CRes CErr CVal CState HOp HRes HErr HVal HState Word Reply →
    Connection COp CRes CErr CVal CState HOp HRes HErr HVal HState Word Reply → Prop where
  | caller {op : COp} {next : CRes op → Task COp CRes CErr CVal} {result : CRes op}
      {world after : End CState Reply Word} {hosting : Task HOp HRes HErr HVal}
      {host : End HState Word Reply} (taken : callerActs world op result after)
      (delivered : after.received <+: host.sent) :
      Step callerActs hostActs ⟨.call op next, world, hosting, host⟩
        ⟨next result, after, hosting, host⟩
  | host {op : HOp} {next : HRes op → Task HOp HRes HErr HVal} {result : HRes op}
      {world after : End HState Word Reply} {calling : Task COp CRes CErr CVal}
      {caller : End CState Reply Word} (taken : hostActs world op result after)
      (delivered : after.received <+: caller.sent) :
      Step callerActs hostActs ⟨calling, caller, .call op next, world⟩
        ⟨calling, caller, next result, after⟩

variable {callerActs : Acts COp CRes CState Reply Word}
variable {hostActs : Acts HOp HRes HState Word Reply}

/-- A task performs finitely many operations, whatever it is answered, so a
connection always comes to rest. -/
theorem connection_settles
    (known : Connection COp CRes CErr CVal CState HOp HRes HErr HVal HState Word Reply → Prop)
    {good : Connection COp CRes CErr CVal CState HOp HRes HErr HVal HState Word Reply → Prop}
    (kept : ∀ before after, known before → Step callerActs hostActs before after → known after)
    (rests : ∀ connection, known connection →
      (∀ after, ¬ Step callerActs hostActs connection after) → good connection)
    (connection : Connection COp CRes CErr CVal CState HOp HRes HErr HVal HState Word Reply)
    (start : known connection) : Settles (Step callerActs hostActs) good connection := by
  obtain ⟨calling, caller, hosting, host⟩ := connection
  induction calling, hosting using
    Prod.GameAdd.recursion subtask_well_founded subtask_well_founded generalizing caller host with
  | _ calling hosting ih =>
    by_cases moves : ∃ after, Step callerActs hostActs ⟨calling, caller, hosting, host⟩ after
    · obtain ⟨after, moves⟩ := moves
      refine .move moves fun next taken => ?_
      have held := kept _ _ start taken
      cases taken with
      | caller _ _ => exact ih _ _ (.fst (.answered _ _ _)) _ _ held
      | host _ _ => exact ih _ _ (.snd (.answered _ _ _)) _ _ held
    · exact .rest (not_exists.mp moves) (rests _ start (not_exists.mp moves))
end Connections

/-! A script: the caller says something, the host replies, and so on. How much
the caller may have said is settled by the number of replies it has heard. -/

structure Turn (Word Reply : Type) where
  words : List Word
  replies : List Reply

variable (script : List (Turn Word Reply))

def saying : List Word := script.flatMap Turn.words

def replying : List Reply := script.flatMap Turn.replies

def cue : List (Turn Word Reply) → Nat → List Word
  | [], _ => []
  | turn :: rest, heard =>
    turn.words ++
      if turn.replies.length ≤ heard then cue rest (heard - turn.replies.length) else []

theorem cue_mono (script : List (Turn Word Reply)) {fewer more : Nat} (le : fewer ≤ more) :
    cue script fewer <+: cue script more := by
  induction script generalizing fewer more with
  | nil => exact List.prefix_rfl
  | cons turn rest ih =>
    rw [cue, cue, List.prefix_append_right_inj]
    by_cases enough : turn.replies.length ≤ fewer
    · rw [if_pos enough, if_pos (enough.trans le)]
      exact ih (Nat.sub_le_sub_right le _)
    · rw [if_neg enough]
      exact List.nil_prefix

@[simp] theorem saying_append (past rest : List (Turn Word Reply)) :
    saying (past ++ rest) = saying past ++ saying rest := List.flatMap_append

@[simp] theorem replying_append (past rest : List (Turn Word Reply)) :
    replying (past ++ rest) = replying past ++ replying rest := List.flatMap_append

@[simp] theorem saying_cons (turn : Turn Word Reply) (rest : List (Turn Word Reply)) :
    saying (turn :: rest) = turn.words ++ saying rest := List.flatMap_cons

@[simp] theorem replying_cons (turn : Turn Word Reply) (rest : List (Turn Word Reply)) :
    replying (turn :: rest) = turn.replies ++ replying rest := List.flatMap_cons

@[simp] theorem saying_nil : saying ([] : List (Turn Word Reply)) = [] := rfl

@[simp] theorem replying_nil : replying ([] : List (Turn Word Reply)) = [] := rfl

theorem cue_past (past rest : List (Turn Word Reply)) (heard : Nat) :
    cue (past ++ rest) ((replying past).length + heard) = saying past ++ cue rest heard := by
  induction past with
  | nil => simp
  | cons turn past ih =>
    have enough : turn.replies.length ≤ (replying (turn :: past)).length + heard := by
      rw [replying_cons, List.length_append]
      omega
    have left : (replying (turn :: past)).length + heard - turn.replies.length =
        (replying past).length + heard := by
      rw [replying_cons, List.length_append]
      omega
    rw [List.cons_append, cue, if_pos enough, left, ih, saying_cons, List.append_assoc]

-- In the middle of a turn the caller has said what opens it, and nothing more.
theorem cue_turn (past : List (Turn Word Reply)) (turn : Turn Word Reply)
    (rest : List (Turn Word Reply)) {heard : Nat} (open_ : heard < turn.replies.length) :
    cue (past ++ turn :: rest) ((replying past).length + heard) = saying past ++ turn.words := by
  rw [cue_past, cue, if_neg (Nat.not_le.mpr open_), List.append_nil]

theorem cue_opened (past : List (Turn Word Reply)) (turn : Turn Word Reply)
    (rest : List (Turn Word Reply)) (due : turn.replies ≠ []) :
    cue (past ++ turn :: rest) (replying past).length = saying past ++ turn.words :=
  cue_turn past turn rest (List.length_pos_of_ne_nil due)

theorem cue_all (script : List (Turn Word Reply)) :
    cue script (replying script).length = saying script := by
  simpa [cue] using cue_past script [] 0

/-! Two ends that keep to one script. Each is specified alone, under the
assumption that the other keeps to it. -/
section Dialogues
variable (script : List (Turn Word Reply))

def Cued (world : End CState Reply Word) : Prop := world.sent <+: cue script world.received.length

/-- Before the caller waits for a reply it has said all it can, and a reply is due. -/
def Calls (waits : COp → Prop) (world : End CState Reply Word) (op : COp) : Prop :=
  Cued script world ∧ (waits op → world.sent = cue script world.received.length ∧
    world.received.length < (replying script).length)

/-- What the host is about to read is something the caller is free to say. -/
def Hosts (needs : HOp → Nat) (world : End HState Word Reply) (op : HOp) : Prop :=
  world.sent <+: replying script ∧
    (needs op ≠ 0 → world.received.length + needs op ≤ (cue script world.sent.length).length)

def hearing (callerActs : Acts COp CRes CState Reply Word) : Acts COp CRes CState Reply Word :=
  fun before op result after =>
    callerActs before op result after ∧ after.received <+: replying script

def attending (hostActs : Acts HOp HRes HState Word Reply) : Acts HOp HRes HState Word Reply :=
  fun before op result after =>
    hostActs before op result after ∧ after.received <+: cue script after.sent.length

variable (callerActs : Acts COp CRes CState Reply Word)
variable (hostActs : Acts HOp HRes HState Word Reply)
variable (waits : COp → Prop) (needs : HOp → Nat)
variable (hostGuard : End HState Word Reply → HOp → Prop)
variable (callerPost : End CState Reply Word → CVal → Prop)
variable (callerFailed : End CState Reply Word → CErr → Prop)
variable (hostPost : End HState Word Reply → HVal → Prop)
variable (hostFailed : End HState Word Reply → HErr → Prop)

def CallerKeeps (task : Task COp CRes CErr CVal) (world : End CState Reply Word) : Prop :=
  Holds (hearing script callerActs) (Calls script waits) task
    (fun after value => Cued script after ∧ callerPost after value)
    (fun after error => Cued script after ∧ callerFailed after error) world

def HostKeeps (task : Task HOp HRes HErr HVal) (world : End HState Word Reply) : Prop :=
  Holds (attending script hostActs)
    (fun middle op => Hosts script needs middle op ∧ hostGuard middle op) task
    (fun after value => after.sent <+: replying script ∧ hostPost after value)
    (fun after error => after.sent <+: replying script ∧ hostFailed after error) world

structure InStep
    (connection : Connection COp CRes CErr CVal CState HOp HRes HErr HVal HState Word Reply) :
    Prop where
  heard : connection.caller.received <+: connection.host.sent
  attended : connection.host.received <+: connection.caller.sent
  calls : CallerKeeps script callerActs waits callerPost callerFailed connection.calling
    connection.caller
  hosts : HostKeeps script hostActs needs hostGuard hostPost hostFailed connection.hosting
    connection.host

variable {script callerActs hostActs waits needs hostGuard}
variable {callerPost callerFailed hostPost hostFailed}

theorem caller_cued {task : Task COp CRes CErr CVal} {world : End CState Reply Word}
    (keeps : CallerKeeps script callerActs waits callerPost callerFailed task world) :
    Cued script world := by
  cases task with
  | done value => exact ((holds_done value).mp keeps).1
  | fail error => exact ((holds_fail error).mp keeps).1
  | call op next => exact ((holds_call op next).mp keeps).1.1

theorem host_replies {task : Task HOp HRes HErr HVal} {world : End HState Word Reply}
    (keeps : HostKeeps script hostActs needs hostGuard hostPost hostFailed task world) :
    world.sent <+: replying script := by
  cases task with
  | done value => exact ((holds_done value).mp keeps).1
  | fail error => exact ((holds_fail error).mp keeps).1
  | call op next => exact ((holds_call op next).mp keeps).1.1.1

variable {connection after :
  Connection COp CRes CErr CVal CState HOp HRes HErr HVal HState Word Reply}

def Grows {Op : Type} {Res : Op → Type} {State In Out : Type} (acts : Acts Op Res State In Out) :
    Prop :=
  ∀ before op result after, acts before op result after → before.sent <+: after.sent

/-- Neither end can be led off the script by the other: what one receives is
something the other sent while it kept to the script. -/
theorem in_step_kept (callerGrows : Grows callerActs) (hostGrows : Grows hostActs)
    (inStep : InStep script callerActs hostActs waits needs hostGuard callerPost callerFailed
      hostPost hostFailed connection)
    (taken : Step callerActs hostActs connection after) :
    InStep script callerActs hostActs waits needs hostGuard callerPost callerFailed hostPost
      hostFailed after := by
  obtain ⟨heard, attended, calls, hosts⟩ := inStep
  cases taken with
  | caller acted delivered =>
    refine ⟨delivered, attended.trans (callerGrows _ _ _ _ acted), ?_, hosts⟩
    exact ((holds_call _ _).mp calls).2 _ _ ⟨acted, delivered.trans (host_replies hosts)⟩
  | @host _ _ _ world next calling caller acted delivered =>
    have grown := hostGrows _ _ _ _ acted
    refine ⟨heard.trans grown, delivered, calls, ?_⟩
    have spoken : next.received <+: cue script next.sent.length :=
      (delivered.trans (caller_cued calls)).trans
        (cue_mono script (heard.length_le.trans grown.length_le))
    exact ((holds_call _ _).mp hosts).2 _ _ ⟨acted, spoken⟩

/-! At rest. -/
section Rest
variable (resting : ∀ after, ¬ Step callerActs hostActs connection after)
variable (inStep : InStep script callerActs hostActs waits needs hostGuard callerPost callerFailed
  hostPost hostFailed connection)

include resting inStep

theorem caller_ended_or_waits
    (free : ∀ world op, ¬ waits op → ∃ result after, callerActs world op result after ∧
      after.received = world.received)
    (hears : ∀ world op reply, waits op → ∃ result after, callerActs world op result after ∧
      after.received = world.received ++ [reply]) :
    Ended connection.calling ∨
      (connection.caller.sent = cue script connection.caller.received.length ∧
        connection.host.sent = connection.caller.received ∧
        connection.caller.received.length < (replying script).length) := by
  obtain ⟨calling, caller, hosting, host⟩ := connection
  cases calling with
  | done value | fail error => exact .inl trivial
  | call op next =>
    right
    have heard : caller.received <+: host.sent := inStep.heard
    by_cases waiting : waits op
    · obtain ⟨said, due⟩ := ((holds_call op next).mp inStep.calls).1.2 waiting
      refine ⟨said, ?_, due⟩
      -- Another reply would have been taken.
      obtain ⟨more, sent⟩ := heard
      cases more with
      | nil => simpa using sent.symm
      | cons reply later =>
        obtain ⟨result, after, acted, received⟩ := hears caller op reply waiting
        refine absurd (Step.caller acted ?_) (resting _)
        exact ⟨later, by rw [received, ← sent, List.append_assoc]; rfl⟩
    · obtain ⟨result, after, acted, received⟩ := free caller op waiting
      exact absurd (Step.caller acted (received ▸ heard)) (resting _)

theorem host_ended
    (able : ∀ world op words, hostGuard world op → words.length = needs op →
      ∃ result after, hostActs world op result after ∧ after.received = world.received ++ words)
    (said : connection.caller.sent = cue script connection.caller.received.length)
    (level : connection.host.sent = connection.caller.received) : Ended connection.hosting := by
  obtain ⟨calling, caller, hosting, host⟩ := connection
  cases hosting with
  | done value | fail error => trivial
  | call op next =>
    exfalso
    obtain ⟨⟨_, available⟩, guarded⟩ := ((holds_call op next).mp inStep.hosts).1
    have attended : host.received <+: caller.sent := inStep.attended
    -- The words the operation needs have been said.
    have enough : host.received.length + needs op ≤ caller.sent.length := by
      by_cases none : needs op = 0
      · rw [none]
        exact attended.length_le
      · rw [said, ← level]
        exact available none
    obtain ⟨words, sent⟩ := attended
    have long : (words.take (needs op)).length = needs op := by
      rw [← sent, List.length_append] at enough
      rw [List.length_take]
      omega
    obtain ⟨result, after, acted, received⟩ := able host op _ guarded long
    refine resting _ (Step.host acted ?_)
    rw [received, ← sent, List.prefix_append_right_inj]
    exact List.take_prefix _ _
end Rest
end Dialogues
end Misaka.Duplex
