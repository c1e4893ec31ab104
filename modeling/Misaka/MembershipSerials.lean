import Misaka.FileText
import Misaka.Identity

/-!
The serial numbers of memberships. The allocator keeps its mark in a file and in
the memory of every handle that opened it. The mutex of a handle keeps its own
threads apart, but nothing keeps two handles apart, and the file is overwritten
in place, one character after the other.
-/

namespace Misaka.MembershipSerials
open FileText
variable {Handle : Type} {handle other : Handle}

section Store
variable [DecidableEq Handle]

-- No file, or its text.
abbrev SerialFile := Option (List Char)

def readSerial : SerialFile → Option UInt64
  | none => some 0
  | some text => parseU64 (trim text)

-- `saturating_add(1)`.
def nextSerial (current : UInt64) : UInt64 :=
  if current.toNat + 1 < 2 ^ 64 then current + 1 else current

def nextText (current : UInt64) : List Char := decimal (nextSerial current).toNat

-- A file another writer has cut in the meantime is filled up with zeros.
def writeAt (text : List Char) (offset : Nat) (char : Char) : List Char :=
  text.take offset ++ List.replicate (offset - text.length) (Char.ofNat 0) ++
    char :: text.drop (offset + 1)

structure Opened where
  counter : UInt64
  -- A thread holds the mutex and has written so much of the next serial.
  written : Option Nat

inductive StoreEvent (Handle : Type) where
  | opened (handle : Handle)
  | returned (handle : Handle) (serial : UInt64)

/-- The file, the open handles, and what happened so far, newest first. -/
structure SerialStore (Handle : Type) where
  file : SerialFile
  handles : Handle → Option Opened
  history : List (StoreEvent Handle)

def SerialStore.start (file : SerialFile) : SerialStore Handle := ⟨file, fun _ => none, []⟩

variable (store : SerialStore Handle) (handle : Handle)

def SerialStore.set (state : Option Opened) :
    SerialStore Handle :=
  { store with handles := Function.update store.handles handle state }

inductive StoreAction (Handle : Type) where
  | openStore (handle : Handle)
  -- `allocate` takes the mutex and truncates the file, writes character by
  -- character, and returns once all is written.
  | lock (handle : Handle)
  | write (handle : Handle)
  | publish (handle : Handle)
  -- The write reports an error.
  | fail (handle : Handle)
  -- The handle is dropped, or its process dies.
  | drop (handle : Handle)

def SerialStore.openStore : SerialStore Handle :=
  match store.handles handle, readSerial store.file with
  | none, some current =>
    { store.set handle (some ⟨current, none⟩) with history := .opened handle :: store.history }
  | _, _ => store

def SerialStore.lock : SerialStore Handle :=
  match store.handles handle with
  | some ⟨counter, none⟩ => { store.set handle (some ⟨counter, some 0⟩) with file := some [] }
  | _ => store

def SerialStore.write : SerialStore Handle :=
  match store.handles handle with
  | some ⟨counter, some written⟩ =>
    match (nextText counter)[written]? with
    | some char =>
      { store.set handle (some ⟨counter, some (written + 1)⟩) with
        file := some (writeAt (store.file.getD []) written char) }
    | none => store
  | _ => store

/-- The serial `allocate` returns. -/
def SerialStore.publish :
    Option (UInt64 × SerialStore Handle) :=
  match store.handles handle with
  | some ⟨counter, some written⟩ =>
    if written = (nextText counter).length then
      some (nextSerial counter,
        { store.set handle (some ⟨nextSerial counter, none⟩) with
          history := .returned handle (nextSerial counter) :: store.history })
    else none
  | _ => none

def SerialStore.fail : SerialStore Handle :=
  match store.handles handle with
  | some ⟨counter, _⟩ => store.set handle (some ⟨counter, none⟩)
  | none => store

def SerialStore.act : StoreAction Handle → SerialStore Handle
  | .openStore handle => store.openStore handle
  | .lock handle => store.lock handle
  | .write handle => store.write handle
  | .publish handle =>
    match store.publish handle with
    | some (_, after) => after
    | none => store
  | .fail handle => store.fail handle
  | .drop handle => store.set handle none

def SerialStore.run (actions : List (StoreAction Handle)) :
    SerialStore Handle :=
  actions.foldl SerialStore.act store

def returnedSerials : List (StoreEvent Handle) → List UInt64
  | [] => []
  | .opened _ :: rest => returnedSerials rest
  | .returned _ serial :: rest => serial :: returnedSerials rest

variable (store : SerialStore Handle)

def SerialStore.returned : List UInt64 :=
  returnedSerials store.history

/-! What the allocator needs of its users. -/

def SerialStore.writing (handle : Handle) : Option Nat :=
  (store.handles handle).bind Opened.written

-- No allocation is under way.
def Quiet : Prop := ∀ handle, store.writing handle = none

-- The handle was opened, and since then no other handle has allocated.
def Sole (handle : Handle) : List (StoreEvent Handle) → Prop
  | [] => False
  | .opened other :: rest => other = handle ∨ Sole handle rest
  | .returned other _ :: rest => other = handle ∧ Sole handle rest

instance Sole.decide (handle : Handle) : (history : List (StoreEvent Handle)) →
    Decidable (Sole handle history)
  | [] => isFalse id
  | .opened _ :: rest => @instDecidableOr _ _ _ (Sole.decide handle rest)
  | .returned _ _ :: rest => @instDecidableAnd _ _ _ (Sole.decide handle rest)

-- A write that stops here leaves nothing or the whole text.
def Whole : Option Opened → Prop
  | some ⟨counter, some written⟩ => written = 0 ∨ written = (nextText counter).length
  | _ => True

instance Whole.decide : (state : Option Opened) → Decidable (Whole state)
  | some ⟨_, some _⟩ => instDecidableOr
  | some ⟨_, none⟩ => isTrue trivial
  | none => isTrue trivial

/-- No handle is opened and no allocation begins during an allocation, a handle
allocates only if no other one has since it was opened and its counter is not at
the end, and a write that stops has written nothing or everything. -/
def Careful (store : SerialStore Handle) : StoreAction Handle → Prop
  | .openStore _ => Quiet store
  | .lock handle => Quiet store ∧ Sole handle store.history ∧
      ∀ state ∈ store.handles handle, state.counter.toNat + 1 < 2 ^ 64
  | .fail handle => Whole (store.handles handle)
  | .drop handle => Whole (store.handles handle)
  | _ => True

instance Careful.decide [Fintype Handle] (store : SerialStore Handle) :
    (action : StoreAction Handle) → Decidable (Careful store action)
  | .openStore _ => Fintype.decidableForallFintype
  | .lock handle =>
    have : Decidable (Quiet store) := Fintype.decidableForallFintype
    inferInstanceAs (Decidable (Quiet store ∧ Sole handle store.history ∧
      ∀ state ∈ store.handles handle, state.counter.toNat + 1 < 2 ^ 64))
  | .fail handle => Whole.decide (store.handles handle)
  | .drop handle => Whole.decide (store.handles handle)
  | .write _ | .publish _ => isTrue trivial

def CarefulRun (store : SerialStore Handle) : List (StoreAction Handle) → Prop
  | [] => True
  | action :: rest => Careful store action ∧ CarefulRun (store.act action) rest

instance CarefulRun.decide [Fintype Handle] (store : SerialStore Handle) :
    (actions : List (StoreAction Handle)) → Decidable (CarefulRun store actions)
  | [] => isTrue trivial
  | action :: rest => @instDecidableAnd _ _ _ (CarefulRun.decide (store.act action) rest)

def allocation (handle : Handle) (digits : Nat) : List (StoreAction Handle) :=
  .lock handle :: List.replicate digits (.write handle) ++ [.publish handle]
end Store

/-! The invariant. -/
section Invariant
variable {store : SerialStore Handle}

theorem next_serial_above {current : UInt64} (room : current.toNat + 1 < 2 ^ 64) :
    current < nextSerial current := by
  rw [nextSerial, if_pos room, UInt64.lt_iff_toNat_lt, UInt64.toNat_add]
  simp only [UInt64.toNat_one]
  omega

theorem write_at_end {text : List Char} {offset : Nat} {char : Char}
    (next : text[offset]? = some char) :
    writeAt (text.take offset) offset char = text.take (offset + 1) := by
  have inside : offset < text.length := (List.getElem?_eq_some_iff.mp next).1
  have filled : offset - (text.take offset).length = 0 := by
    rw [List.length_take]
    omega
  have nothing : (text.take offset).drop (offset + 1) = [] := by
    apply List.drop_eq_nil_of_le
    rw [List.length_take]
    omega
  rw [writeAt, filled, nothing, List.take_take, Nat.min_self, List.take_add_one, next]
  simp

/-- An allocation under way: its handle is alone and has room, and the file holds
what was written so far. -/
structure Writer (store : SerialStore Handle) (handle : Handle) (counter : UInt64)
    (written : Nat) : Prop where
  sole : Sole handle store.history
  room : counter.toNat + 1 < 2 ^ 64
  file : store.file = some ((nextText counter).take written)
  alone : ∀ other, store.writing other ≠ none → other = handle

/-- Nothing is behind the serials that were returned: not the counter of a handle
that is alone, and not the file while nobody writes it. -/
structure Ahead (store : SerialStore Handle) : Prop where
  counters : ∀ handle state, store.handles handle = some state → Sole handle store.history →
    ∀ serial ∈ store.returned, serial ≤ state.counter
  file : Quiet store → ∀ mark, readSerial store.file = some mark →
    ∀ serial ∈ store.returned, serial ≤ mark
  writers : ∀ handle counter written, store.handles handle = some ⟨counter, some written⟩ →
    Writer store handle counter written
  distinct : store.returned.Nodup

theorem ahead_start (file : SerialFile) : Ahead (SerialStore.start file : SerialStore Handle) where
  counters _ _ none := by cases none
  file _ _ _ _ none := by cases none
  writers _ _ _ none := by cases none
  distinct := List.nodup_nil

variable {counter : UInt64} {written : Nat}

theorem writing_of_handle (held : store.handles handle = some ⟨counter, some written⟩) :
    store.writing handle ≠ none := by
  simp [SerialStore.writing, held]

theorem quiet_handle (quiet : Quiet store) :
    store.handles handle ≠ some ⟨counter, some written⟩ :=
  fun held => writing_of_handle held (quiet handle)

theorem writer_only {counter' : UInt64} {written' : Nat}
    (writer : Writer store handle counter written) (different : other ≠ handle) :
    store.handles other ≠ some ⟨counter', some written'⟩ :=
  fun held => different (writer.alone other (writing_of_handle held))

theorem returned_below (ahead : Ahead store)
    (held : store.handles handle = some ⟨counter, some written⟩) :
    ∀ serial ∈ store.returned, serial < nextSerial counter := by
  intro serial member
  have writer := ahead.writers handle counter written held
  exact UInt64.lt_of_le_of_lt (ahead.counters handle _ held writer.sole serial member)
    (next_serial_above writer.room)

theorem read_next_text (counter : UInt64) :
    readSerial (some ((nextText counter).take (nextText counter).length)) =
      some (nextSerial counter) := by
  rw [List.take_length]
  exact parse_decimal _

end Invariant

section Steps
variable [DecidableEq Handle] {store : SerialStore Handle}

@[simp]
theorem set_handles_self (state : Option Opened) : (store.set handle state).handles handle = state :=
  Function.update_self ..

@[simp]
theorem set_handles_other (different : other ≠ handle) (state : Option Opened) :
    (store.set handle state).handles other = store.handles other :=
  Function.update_of_ne different ..

theorem ahead_open (ahead : Ahead store) (quiet : Quiet store) :
    Ahead (store.openStore handle) := by
  unfold SerialStore.openStore
  split
  · rename_i mark _ read
    constructor
    · intro other state held sole
      by_cases same : other = handle
      · subst same
        obtain rfl := Option.some.inj ((set_handles_self _).symm.trans held)
        exact ahead.file quiet mark read
      · rcases sole with opened | sole
        · exact absurd opened.symm same
        · exact ahead.counters other state ((set_handles_other same _).symm.trans held) sole
    · intro _
      exact ahead.file quiet
    · intro other counter written held
      by_cases same : other = handle
      · subst same
        cases (set_handles_self _).symm.trans held
      · exact absurd ((set_handles_other same _).symm.trans held) (quiet_handle quiet)
    · exact ahead.distinct
  · exact ahead

theorem ahead_lock (ahead : Ahead store) (careful : Careful store (.lock handle)) :
    Ahead (store.lock handle) := by
  obtain ⟨quiet, sole, room⟩ := careful
  unfold SerialStore.lock
  split
  · rename_i counter idle
    constructor
    · intro other state held sole
      by_cases same : other = handle
      · subst same
        obtain rfl := Option.some.inj ((set_handles_self _).symm.trans held)
        exact ahead.counters other ⟨counter, none⟩ idle sole
      · exact ahead.counters other state ((set_handles_other same _).symm.trans held) sole
    · intro quiet
      exact absurd (set_handles_self _) (quiet_handle quiet)
    · intro other counter' written held
      by_cases same : other = handle
      · subst same
        obtain ⟨rfl, rfl⟩ : counter = counter' ∧ 0 = written := by
          simpa using (set_handles_self _).symm.trans held
        refine ⟨sole, room ⟨counter, none⟩ idle, rfl, ?_⟩
        intro third writing
        by_contra different
        apply writing
        rw [SerialStore.writing, set_handles_other different]
        exact quiet third
      · exact absurd ((set_handles_other same _).symm.trans held) (quiet_handle quiet)
    · exact ahead.distinct
  · exact ahead

theorem ahead_write (ahead : Ahead store) : Ahead (store.write handle) := by
  unfold SerialStore.write
  split
  · rename_i counter written held
    split
    · rename_i char next
      have writer := ahead.writers handle counter written held
      constructor
      · intro other state held' sole
        by_cases same : other = handle
        · subst same
          obtain rfl := Option.some.inj ((set_handles_self _).symm.trans held')
          exact ahead.counters other ⟨counter, some written⟩ held sole
        · exact ahead.counters other state ((set_handles_other same _).symm.trans held') sole
      · intro quiet
        exact absurd (set_handles_self _) (quiet_handle quiet)
      · intro other counter' written' held'
        by_cases same : other = handle
        · subst same
          obtain ⟨rfl, rfl⟩ : counter = counter' ∧ written + 1 = written' := by
            simpa using (set_handles_self _).symm.trans held'
          refine ⟨writer.sole, writer.room, ?_, ?_⟩
          · rw [writer.file, Option.getD_some, write_at_end next]
          · intro third writing
            by_contra different
            apply different
            apply writer.alone
            simpa only [SerialStore.writing, set_handles_other different] using writing
        · exact absurd ((set_handles_other same _).symm.trans held') (writer_only writer same)
      · exact ahead.distinct
    · exact ahead
  · exact ahead

variable {serial : UInt64} {after : SerialStore Handle}

theorem publish_cases (published : store.publish handle = some (serial, after)) :
    ∃ counter, store.handles handle = some ⟨counter, some (nextText counter).length⟩ ∧
      serial = nextSerial counter ∧
      after = { store.set handle (some ⟨serial, none⟩) with
        history := .returned handle serial :: store.history } := by
  unfold SerialStore.publish at published
  split at published
  · rename_i counter written held
    split at published
    · rename_i all
      subst all
      obtain ⟨rfl, rfl⟩ := Prod.mk.inj (Option.some.inj published)
      exact ⟨counter, held, rfl, rfl⟩
    · cases published
  · cases published

theorem ahead_publish (ahead : Ahead store)
    (published : store.publish handle = some (serial, after)) : Ahead after := by
  obtain ⟨counter, held, rfl, rfl⟩ := publish_cases published
  have writer := ahead.writers handle counter _ held
  have above := returned_below ahead held
  have covered : ∀ earlier ∈ nextSerial counter :: store.returned,
      earlier ≤ nextSerial counter := by
    intro earlier member
    rcases List.mem_cons.mp member with rfl | member
    · exact UInt64.le_refl _
    · exact UInt64.le_of_lt (above earlier member)
  constructor
  · rintro other state held' ⟨rfl, _⟩
    obtain rfl := Option.some.inj ((set_handles_self _).symm.trans held')
    exact covered
  · intro _ mark read
    have wrote := (congrArg readSerial writer.file).trans (read_next_text counter)
    obtain rfl := Option.some.inj (wrote.symm.trans read)
    exact covered
  · intro other counter' written' held'
    by_cases same : other = handle
    · subst same
      cases (set_handles_self _).symm.trans held'
    · exact absurd ((set_handles_other same _).symm.trans held') (writer_only writer same)
  · apply List.nodup_cons.mpr
    exact ⟨fun member => UInt64.lt_irrefl _ (above _ member), ahead.distinct⟩

theorem publish_returned (published : store.publish handle = some (serial, after)) :
    after.returned = serial :: store.returned := by
  obtain ⟨_, _, _, rfl⟩ := publish_cases published
  rfl

theorem act_returned (action : StoreAction Handle) :
    store.returned <:+ (store.act action).returned := by
  cases action with
  | openStore handle =>
    simp only [SerialStore.act, SerialStore.openStore]
    split <;> exact List.suffix_refl _
  | lock handle =>
    simp only [SerialStore.act, SerialStore.lock]
    split <;> exact List.suffix_refl _
  | write handle =>
    simp only [SerialStore.act, SerialStore.write]
    split
    · split <;> exact List.suffix_refl _
    · exact List.suffix_refl _
  | publish handle =>
    simp only [SerialStore.act]
    split
    · rename_i serial after published
      rw [publish_returned published]
      exact List.suffix_cons _ _
    · exact List.suffix_refl _
  | fail handle =>
    simp only [SerialStore.act, SerialStore.fail]
    split <;> exact List.suffix_refl _
  | drop handle => exact List.suffix_refl _

variable {action : StoreAction Handle}

/-- An allocation under way was under way before, or has just begun. -/
theorem writing_after {counter : UInt64} {written : Nat}
    (held : (store.act action).handles other = some ⟨counter, some written⟩) :
    (∃ earlier, store.handles other = some ⟨counter, some earlier⟩) ∨
      action = .lock other ∧ store.handles other = some ⟨counter, none⟩ := by
  have unchanged : ∀ {handle state}, other ≠ handle →
      (store.set handle state).handles other = some ⟨counter, some written⟩ →
      ∃ earlier, store.handles other = some ⟨counter, some earlier⟩ :=
    fun different held => ⟨written, (set_handles_other different _).symm.trans held⟩
  have stopped : ∀ {handle : Handle} {state : Option Opened},
      (∀ left ∈ state, left.written = none) →
      (store.set handle state).handles other = some ⟨counter, some written⟩ →
      ∃ earlier, store.handles other = some ⟨counter, some earlier⟩ := by
    intro handle state idle held
    by_cases same : other = handle
    · subst same
      rw [set_handles_self] at held
      cases idle _ held
    · exact unchanged same held
  cases action with
  | openStore handle =>
    simp only [SerialStore.act, SerialStore.openStore] at held
    split at held
    · exact .inl (stopped (by rintro _ ⟨⟩; rfl) held)
    · exact .inl ⟨written, held⟩
  | lock handle =>
    simp only [SerialStore.act, SerialStore.lock] at held
    split at held
    · rename_i counter' idle
      by_cases same : other = handle
      · subst same
        obtain ⟨rfl, _⟩ : counter' = counter ∧ 0 = written := by
          simpa using (set_handles_self _).symm.trans held
        exact .inr ⟨rfl, idle⟩
      · exact .inl (unchanged same held)
    · exact .inl ⟨written, held⟩
  | write handle =>
    simp only [SerialStore.act, SerialStore.write] at held
    split at held
    · rename_i counter' earlier before
      split at held
      · by_cases same : other = handle
        · subst same
          obtain ⟨rfl, _⟩ : counter' = counter ∧ earlier + 1 = written := by
            simpa using (set_handles_self _).symm.trans held
          exact .inl ⟨earlier, before⟩
        · exact .inl (unchanged same held)
      · exact .inl ⟨written, held⟩
    · exact .inl ⟨written, held⟩
  | publish handle =>
    simp only [SerialStore.act] at held
    split at held
    · rename_i serial after published
      obtain ⟨_, _, _, rfl⟩ := publish_cases published
      exact .inl (stopped (by rintro _ ⟨⟩; rfl) held)
    · exact .inl ⟨written, held⟩
  | fail handle =>
    simp only [SerialStore.act, SerialStore.fail] at held
    split at held
    · exact .inl (stopped (by rintro _ ⟨⟩; rfl) held)
    · exact .inl ⟨written, held⟩
  | drop handle => exact .inl (stopped (by rintro _ ⟨⟩) held)

/-- A handle that stops writing, or goes away, with its counter as it was. -/
theorem ahead_stopped (ahead : Ahead store) (whole : Whole (store.handles handle))
    {state : Option Opened} (stopped : ∀ left ∈ state, left.written = none ∧
      ∃ before ∈ store.handles handle, left.counter = before.counter) :
    Ahead (store.set handle state) := by
  have idle : (store.set handle state).writing handle = none := by
    rw [SerialStore.writing, set_handles_self]
    cases state with
    | none => rfl
    | some left => exact (stopped left rfl).1
  have others : ∀ third, (store.set handle state).writing third ≠ none →
      third ≠ handle ∧ store.writing third ≠ none := by
    intro third writing
    by_cases same : third = handle
    · rw [same] at writing
      exact absurd idle writing
    · rw [SerialStore.writing, set_handles_other same] at writing
      exact ⟨same, writing⟩
  constructor
  · intro other left held sole
    by_cases same : other = handle
    · subst same
      rw [set_handles_self] at held
      obtain ⟨_, before, opened, counter⟩ := stopped left held
      rw [counter]
      exact ahead.counters other before opened sole
    · exact ahead.counters other left ((set_handles_other same _).symm.trans held) sole
  · intro quiet mark read
    by_cases writing : store.writing handle = none
    · apply ahead.file _ mark read
      intro third
      by_cases same : third = handle
      · rw [same]
        exact writing
      · have still := quiet third
        rwa [SerialStore.writing, set_handles_other same] at still
    · obtain ⟨⟨counter, written⟩, held, some_⟩ :=
        Option.bind_eq_some_iff.mp (Option.ne_none_iff_exists'.mp writing).choose_spec
      obtain rfl : written = some _ := some_
      have writer := ahead.writers handle counter _ held
      change readSerial store.file = some mark at read
      rw [writer.file] at read
      rw [held] at whole
      rcases whole with nothing | all
      · rw [nothing] at read
        cases parse_nothing.symm.trans read
      · rw [all] at read
        obtain rfl := Option.some.inj ((read_next_text counter).symm.trans read)
        intro serial member
        exact UInt64.le_of_lt (returned_below ahead held serial member)
  · intro other counter written held
    obtain ⟨different, _⟩ := others other (writing_of_handle held)
    have writer := ahead.writers other counter written ((set_handles_other different _).symm.trans held)
    refine ⟨writer.sole, writer.room, writer.file, ?_⟩
    intro third writing
    exact writer.alone third (others third writing).2
  · exact ahead.distinct

theorem ahead_step (ahead : Ahead store) (careful : Careful store action) :
    Ahead (store.act action) := by
  cases action with
  | openStore handle => exact ahead_open ahead careful
  | lock handle => exact ahead_lock ahead careful
  | write handle => exact ahead_write ahead
  | publish handle =>
    simp only [SerialStore.act]
    split
    · rename_i serial after published
      exact ahead_publish ahead published
    · exact ahead
  | fail handle =>
    simp only [SerialStore.act, SerialStore.fail]
    split
    · rename_i counter written held
      apply ahead_stopped ahead careful
      rintro left ⟨⟩
      exact ⟨rfl, _, held, rfl⟩
    · exact ahead
  | drop handle =>
    apply ahead_stopped ahead careful
    rintro left ⟨⟩
theorem ahead_run (ahead : Ahead store)
    {actions : List (StoreAction Handle)} (careful : CarefulRun store actions) :
    Ahead (store.run actions) := by
  induction actions generalizing store with
  | nil => exact ahead
  | cons action rest ih => exact ih (ahead_step ahead careful.1) careful.2

/-- No serial is returned twice, whatever the handles, crashes and restarts of a
careful run. -/
theorem serials_never_repeat (file : SerialFile) {actions : List (StoreAction Handle)}
    (careful : CarefulRun (SerialStore.start file) actions) :
    ((SerialStore.start file : SerialStore Handle).run actions).returned.Nodup :=
  (ahead_run (ahead_start file) careful).distinct

theorem reopened_serials_never_repeat :
    ((SerialStore.start none : SerialStore Bool).run (.openStore false :: allocation false 1 ++
      [.drop false, .openStore true] ++ allocation true 1)).returned.Nodup :=
  serials_never_repeat none (by decide +kernel)

/-- Two handles opened on one file return the same serial. After nine serials, a
write of "10" that stops at "1" takes the next handle back to 2. At the end of the
counter every allocation returns the same serial. -/
theorem serials_repeat :
    ((SerialStore.start none : SerialStore Bool).run ([.openStore false, .openStore true] ++
      allocation false 1 ++ allocation true 1)).returned = [1, 1] ∧
    ((SerialStore.start none : SerialStore Bool).run (.openStore false ::
      (List.replicate 9 (allocation false 1)).flatten ++
      [.lock false, .write false, .drop false, .openStore true] ++
      allocation true 1)).returned = [2, 9, 8, 7, 6, 5, 4, 3, 2, 1] ∧
    ((SerialStore.start (some "18446744073709551614".toList) : SerialStore Bool).run
      (.openStore false :: allocation false 20 ++ allocation false 20)).returned =
      [18446744073709551615, 18446744073709551615] := by
  decide +kernel
end Steps
end Misaka.MembershipSerials
