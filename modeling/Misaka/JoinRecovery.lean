import Misaka.JoinTransaction

/-!
What the installation of a Network guarantees. Over every run, with failing
operations and stops at any point, the directory is a mixture of what was there
and what the installation brings, and something of the latter only once the
guard and the check of the certificate have passed. From this follow recovery by
running the installation again, and when an installed authority is replaced.
-/

namespace Misaka.JoinRecovery
open Bincode EffectTask EnrollmentContracts FileText Identity JoinTransaction JsonText
variable {before : Disk} {uuid : Bytes 16} {contents : Artifact → Option (List UInt8)}
variable {Err Value : Type}
variable {platform : JoinPlatform} {input : NetworkInstall}

/-! What one installation makes of a directory. -/
section Outcome
variable (platform : JoinPlatform) (input : NetworkInstall)

/-- The file each artifact is installed as. -/
def artifact : Artifact → Option (List UInt8)
  | .networkId => some (utf8 input.networkId.display)
  | .networkJson => some (utf8 (authorityJson input.bundle.authority))
  | .membershipBin => some input.bundle.membership.encode
  | .peerRecords => some (utf8 (recordsJson (recordMap input.bundle.bootstrapRecords)))
  | .gateways => input.gateways.map fun gateways => utf8 (gatewaysJson gateways)

def artifactNames : List Artifact :=
  [.networkId, .networkJson, .membershipBin, .peerRecords] ++
    if input.gateways.isSome then [.gateways] else []

/-- The codecs read back what they wrote for this bundle. -/
structure ReadsBack (bundle : EnrollmentBundle) : Prop where
  networkId : platform.parseNetworkId bundle.authority.networkId.display.toList =
    .ok bundle.authority.networkId
  authority : platform.authority (authorityJson bundle.authority).toList =
    .ok bundle.authority
  membership : platform.membership bundle.membership.encode = .ok bundle.membership

/-- What the guard asks of the directory. -/
structure Accepts (disk : Disk) : Prop where
  networkId : ∀ bytes, disk .dataDir .networkId = some bytes →
    networkIdOf platform bytes = .ok input.networkId
  authority : ∀ bytes, disk .dataDir .networkJson = some bytes →
    ∃ existing, authorityOf platform bytes = .ok existing ∧ existing.networkId = input.networkId

structure Committing (disk : Disk) : Prop where
  accepts : Accepts platform input disk
  verified : input.bundle.membership.verify platform.verifies input.bundle.authority = true

/-- Each file is the one from before or, once the installation commits, the one
it brings. -/
def Partly (before disk : Disk) : Prop :=
  ∀ name, disk .dataDir name = before .dataDir name ∨
    Committing platform input before ∧ name ∈ artifactNames input ∧
      disk .dataDir name = artifact input name

def Free (disk : Disk) (uuid : Bytes 16) : Prop := ∀ name, disk (.staging uuid) name = none

-- The disk with other files in the staging directory.
def staged (before : Disk) (uuid : Bytes 16) (contents : Artifact → Option (List UInt8)) : Disk :=
  fun place name => if place = .staging uuid then contents name else before place name
end Outcome

@[simp]
theorem staged_data (name : Artifact) :
    staged before uuid contents .dataDir name = before .dataDir name := rfl

@[simp]
theorem staged_staging (name : Artifact) :
    staged before uuid contents (.staging uuid) name = contents name := if_pos rfl

theorem staged_free (free : Free before uuid) : staged before uuid (fun _ => none) = before := by
  funext place name
  by_cases here : place = .staging uuid
  · rw [here, staged_staging, free name]
  · exact if_neg here

theorem put_staged (name : Artifact) (content : Option (List UInt8)) :
    put (staged before uuid contents) (.staging uuid) name content =
      staged before uuid (Function.update contents name content) := by
  funext place named
  simp only [put, staged, Function.update_apply]
  by_cases here : place = .staging uuid
  · simp [here]
  · simp [here]

theorem artifact_named (name : Artifact) :
    name ∈ artifactNames input ↔ artifact input name ≠ none := by
  cases name <;> cases held : input.gateways <;> simp [artifactNames, artifact, held]

theorem artifact_names_nodup : (artifactNames input).Nodup := by
  unfold artifactNames
  split <;> decide

theorem staged_artifacts : Function.update (Function.update (Function.update (Function.update
    (Function.update (fun _ => none) .networkId (some (utf8 input.networkId.display)))
    .networkJson (some (utf8 (authorityJson input.bundle.authority))))
    .membershipBin (some input.bundle.membership.encode))
    .peerRecords (some (utf8 (recordsJson (recordMap input.bundle.bootstrapRecords)))))
    .gateways (input.gateways.map fun gateways => utf8 (gatewaysJson gateways)) =
      artifact input := by
  funext name
  cases name <;> rfl

theorem partly_staged : Partly platform input before (staged before uuid contents) :=
  fun name => .inl (staged_data name)

theorem network_id_reads (input : NetworkInstall) (reads : ReadsBack platform input.bundle) :
    networkIdOf platform (utf8 input.networkId.display) = .ok input.networkId := by
  have solid : trim input.networkId.display.toList = input.networkId.display.toList := trim_uuid _
  have some_ : input.networkId.display.toList ≠ [] := by
    simp [NetworkId.display, uuidText]
  simp only [networkIdOf, read_text_utf8, solid, if_neg some_]
  exact congrArg (Except.mapError _) reads.networkId

theorem descriptor_reads {authority : NetworkAuthority}
    (reads : platform.authority (authorityJson authority).toList = .ok authority) :
    authorityOf platform (utf8 (authorityJson authority)) = .ok authority := by
  simp only [authorityOf, read_text_utf8, reads, Except.mapError]

theorem authority_reads (input : NetworkInstall) (reads : ReadsBack platform input.bundle) :
    authorityOf platform (utf8 (authorityJson input.bundle.authority)) =
      .ok input.bundle.authority :=
  descriptor_reads reads.authority

theorem membership_reads (input : NetworkInstall) (reads : ReadsBack platform input.bundle) :
    membershipOf platform input.bundle.membership.encode = .ok input.bundle.membership :=
  congrArg (Except.mapError _) reads.membership

/-- The guard accepts every directory an installation it accepted has left. -/
theorem accepts_partly (reads : ReadsBack platform input.bundle) {disk : Disk}
    (accepts : Accepts platform input before) (partly : Partly platform input before disk) :
    Accepts platform input disk := by
  constructor
  · intro bytes content
    rcases partly .networkId with same | ⟨_, _, new⟩
    · exact accepts.networkId bytes (same.symm.trans content)
    · obtain rfl := Option.some.inj (new.symm.trans content)
      exact network_id_reads input reads
  · intro bytes content
    rcases partly .networkJson with same | ⟨_, _, new⟩
    · exact accepts.authority bytes (same.symm.trans content)
    · obtain rfl := Option.some.inj (new.symm.trans content)
      exact ⟨_, authority_reads input reads, rfl⟩

/-! What each part of the transaction does, on a disk where operations may fail
and on one where they do not. -/
section Specifications
variable {mayFail : Prop}
variable {guard : Disk → JoinOp → Prop} {disk : Disk}

theorem refuse_spec (existing : Option Value) (same : Value → Bool) (error : Value → JoinError) :
    Holds (JoinStep mayFail) guard (refuse existing same error)
      (fun after _ => after = disk ∧ ∀ found, existing = some found → same found = true)
      (fun after _ => after = disk ∧ ∃ found, existing = some found ∧ same found = false) disk := by
  cases existing with
  | none =>
    rw [refuse, holds_pure]
    exact ⟨rfl, nofun⟩
  | some found =>
    rw [refuse, holds_ensure]
    constructor
    · rintro passed
      exact ⟨rfl, by rintro _ ⟨⟩; exact passed⟩
    · intro refused
      exact ⟨rfl, found, rfl, refused⟩

-- Everything but a rename is owed its guard.
variable (owed : ∀ contents op, op.isRename = false → guard (staged before uuid contents) op)

include owed

theorem load_spec (place : Place) (name : Artifact) (io : String → Err)
    (decode : List UInt8 → Except Err Value) :
    Holds (JoinStep mayFail) guard (load place name io decode)
      (fun after value => after = staged before uuid contents ∧
        (staged before uuid contents place name = none ∧ value = none ∨
          ∃ bytes found, staged before uuid contents place name = some bytes ∧
            decode bytes = .ok found ∧ value = some found))
      (fun after _ => after = staged before uuid contents ∧ (mayFail ∨
        ∃ bytes error, staged before uuid contents place name = some bytes ∧
          decode bytes = .error error))
      (staged before uuid contents) := by
  rw [load, holds_bind, holds_perform]
  refine ⟨owed contents _ rfl, ?_⟩
  rintro present after ⟨rfl, rfl⟩
  cases content : staged before uuid contents place name with
  | none => simp
  | some bytes =>
    simp only [Option.isSome_some, if_true]
    rw [holds_bind, holds_perform]
    refine ⟨owed contents _ rfl, ?_⟩
    intro result after taken
    rw [holds_bind, holds_or_error]
    constructor
    · rintro read rfl
      obtain ⟨rfl, same⟩ := taken
      obtain rfl := Option.some.inj (content.symm.trans same)
      rw [holds_bind, holds_of_except]
      constructor
      · intro found decoded
        rw [holds_pure]
        exact ⟨rfl, .inr ⟨bytes, found, rfl, decoded, rfl⟩⟩
      · intro error decoded
        exact ⟨rfl, .inr ⟨bytes, error, rfl, decoded⟩⟩
    · rintro error rfl
      obtain ⟨rfl, missing | fails⟩ := taken
      · cases content.symm.trans missing
      · exact ⟨rfl, .inl fails⟩

theorem save_spec (name : Artifact) (io : String → Err) (bytes : List UInt8) :
    Holds (JoinStep mayFail) guard (save (.staging uuid) name io bytes)
      (fun after _ => after = staged before uuid (Function.update contents name (some bytes)))
      (fun after _ => (∃ left, after = staged before uuid left) ∧ mayFail)
      (staged before uuid contents) := by
  rw [save, holds_bind, holds_perform]
  refine ⟨owed contents _ rfl, ?_⟩
  intro made after taken
  rw [holds_bind, holds_or_error]
  constructor
  · rintro _ rfl
    obtain rfl : after = staged before uuid contents := taken
    rw [holds_bind, holds_perform]
    refine ⟨owed contents _ rfl, ?_⟩
    intro written after taken
    rw [holds_or_error]
    constructor
    · rintro _ rfl
      have wrote : after = put (staged before uuid contents) _ name (some bytes) := taken
      rw [wrote, put_staged]
    · rintro error rfl
      obtain ⟨⟨left, rfl⟩, fails⟩ := taken
      exact ⟨⟨_, put_staged name left⟩, fails⟩
  · rintro error rfl
    obtain ⟨rfl, fails⟩ := taken
    exact ⟨⟨contents, rfl⟩, fails⟩

theorem check_spec
    (place : Place) (name : Artifact) (io : String → Err) (decode : List UInt8 → Except Err Value)
    (change : Err → JoinError) (same : Value → Bool) (error : Value → JoinError) :
    Holds (JoinStep mayFail) guard
      (mapError change (load place name io decode) >>= fun existing => refuse existing same error)
      (fun after _ => after = staged before uuid contents ∧
        ∀ bytes, staged before uuid contents place name = some bytes →
          ∃ found, decode bytes = .ok found ∧ same found = true)
      (fun after _ => after = staged before uuid contents ∧ (mayFail ∨
        ∃ bytes, staged before uuid contents place name = some bytes ∧
          ∀ found, decode bytes = .ok found → same found = false))
      (staged before uuid contents) := by
  rw [holds_bind, holds_map_error]
  refine holds_mono (load_spec owed place name io decode) ?_ ?_
  · rintro _ existing ⟨rfl, read⟩
    refine holds_mono (refuse_spec existing same error) ?_ ?_
    · rintro _ _ ⟨rfl, passed⟩
      refine ⟨rfl, ?_⟩
      intro bytes content
      rcases read with ⟨absent, _⟩ | ⟨_, found, present, decoded, rfl⟩
      · cases content.symm.trans absent
      · obtain rfl := Option.some.inj (content.symm.trans present)
        exact ⟨found, decoded, passed found rfl⟩
    · rintro _ _ ⟨rfl, found, rfl, other⟩
      refine ⟨rfl, .inr ?_⟩
      rcases read with ⟨_, none⟩ | ⟨bytes, _, present, decoded, known⟩
      · cases none
      · obtain rfl := Option.some.inj known
        refine ⟨bytes, present, ?_⟩
        intro again decodes
        obtain rfl := Except.ok.inj (decoded.symm.trans decodes)
        exact other
  · rintro _ _ ⟨rfl, fails | ⟨bytes, error, present, broken⟩⟩
    · exact ⟨rfl, .inl fails⟩
    · refine ⟨rfl, .inr ⟨bytes, present, ?_⟩⟩
      intro found decodes
      cases broken.symm.trans decodes

theorem guard_spec :
    Holds (JoinStep mayFail) guard (guardExistingNetwork platform input.networkId)
      (fun after _ => after = staged before uuid contents ∧ Accepts platform input before)
      (fun after _ => after = staged before uuid contents ∧
        (mayFail ∨ ¬ Accepts platform input before))
      (staged before uuid contents) := by
  rw [guardExistingNetwork, ← bind_assoc, holds_bind]
  refine holds_mono (check_spec owed _ _ _ _ _ _ _) ?_ ?_
  · rintro _ _ ⟨rfl, first⟩
    refine holds_mono (check_spec owed _ _ _ _ _ _ _) ?_ ?_
    · rintro _ _ ⟨rfl, second⟩
      refine ⟨rfl, ?_, ?_⟩
      · intro bytes content
        obtain ⟨found, decoded, same⟩ := first bytes content
        rw [decoded, of_decide_eq_true same]
      · intro bytes content
        obtain ⟨found, decoded, same⟩ := second bytes content
        exact ⟨found, decoded, of_decide_eq_true same⟩
    · rintro _ _ ⟨rfl, fails | ⟨bytes, content, refused⟩⟩
      · exact ⟨rfl, .inl fails⟩
      · refine ⟨rfl, .inr fun accepts => ?_⟩
        obtain ⟨found, decoded, same⟩ := accepts.authority bytes content
        exact of_decide_eq_false (refused found decoded) same
  · rintro _ _ ⟨rfl, fails | ⟨bytes, content, refused⟩⟩
    · exact ⟨rfl, .inl fails⟩
    · refine ⟨rfl, .inr fun accepts => ?_⟩
      exact of_decide_eq_false (refused _ (accepts.networkId bytes content)) rfl

/-! Staging. -/

variable {name : Artifact}

theorem load_absent_spec (absent : contents name = none) (io : String → Err)
    (decode : List UInt8 → Except Err Value) :
    Holds (JoinStep mayFail) guard (load (.staging uuid) name io decode)
      (fun after value => after = staged before uuid contents ∧ value = none)
      (fun after _ => (∃ left, after = staged before uuid left) ∧ mayFail)
      (staged before uuid contents) := by
  refine holds_mono (load_spec owed _ _ _ _) ?_ ?_
  · rintro _ value ⟨rfl, ⟨_, none⟩ | ⟨bytes, _, present, _⟩⟩
    · exact ⟨rfl, none⟩
    · rw [staged_staging, absent] at present
      cases present
  · rintro _ _ ⟨rfl, fails | ⟨bytes, _, present, _⟩⟩
    · exact ⟨⟨contents, rfl⟩, fails⟩
    · rw [staged_staging, absent] at present
      cases present

theorem load_present_spec {bytes : List UInt8} {value : Value}
    (present : contents name = some bytes) (io : String → Err)
    {decode : List UInt8 → Except Err Value} (decoded : decode bytes = .ok value) :
    Holds (JoinStep mayFail) guard (load (.staging uuid) name io decode)
      (fun after found => after = staged before uuid contents ∧ found = some value)
      (fun after _ => (∃ left, after = staged before uuid left) ∧ mayFail)
      (staged before uuid contents) := by
  refine holds_mono (load_spec owed _ _ _ _) ?_ ?_
  · rintro _ found ⟨rfl, ⟨absent, _⟩ | ⟨_, _, content, decodes, rfl⟩⟩
    · rw [staged_staging, present] at absent
      cases absent
    · rw [staged_staging, present] at content
      obtain rfl := Option.some.inj content
      obtain rfl := Except.ok.inj (decoded.symm.trans decodes)
      exact ⟨rfl, rfl⟩
  · rintro _ _ ⟨rfl, fails | ⟨_, _, content, broken⟩⟩
    · exact ⟨⟨contents, rfl⟩, fails⟩
    · rw [staged_staging, present] at content
      obtain rfl := Option.some.inj content
      cases decoded.symm.trans broken

theorem init_network_id_spec (absent : contents .networkId = none) (requested : NetworkId) :
    Holds (JoinStep mayFail) guard (loadOrInitNetworkId platform (.staging uuid) requested)
      (fun after _ => after = staged before uuid
        (Function.update contents .networkId (some (utf8 requested.display))))
      (fun after _ => (∃ left, after = staged before uuid left) ∧ mayFail)
      (staged before uuid contents) := by
  rw [loadOrInitNetworkId, holds_bind]
  refine holds_mono (load_absent_spec owed absent _ _) ?_ (fun _ _ failed => failed)
  rintro _ _ ⟨rfl, rfl⟩
  simp only [holds_bind, holds_pure]
  exact save_spec owed _ _ _

theorem install_descriptor_spec
    (absent : contents .networkJson = none) (authority : NetworkAuthority) :
    Holds (JoinStep mayFail) guard (installDescriptor platform (.staging uuid) authority)
      (fun after _ => after = staged before uuid
        (Function.update contents .networkJson (some (utf8 (authorityJson authority)))))
      (fun after _ => (∃ left, after = staged before uuid left) ∧ mayFail)
      (staged before uuid contents) := by
  rw [installDescriptor, holds_bind]
  refine holds_mono (load_absent_spec owed absent _ _) ?_ (fun _ _ failed => failed)
  rintro _ _ ⟨rfl, rfl⟩
  exact save_spec owed _ _ _

theorem stage_gateways_spec (absent : contents .gateways = none) (gateways : Option (List String))
    (names : List Artifact) :
    Holds (JoinStep mayFail) guard (stageGateways (.staging uuid) gateways names)
      (fun after longer => after = staged before uuid (Function.update contents .gateways
          (gateways.map fun gateways => utf8 (gatewaysJson gateways))) ∧
        longer = names ++ if gateways.isSome then [.gateways] else [])
      (fun after _ => (∃ left, after = staged before uuid left) ∧ mayFail)
      (staged before uuid contents) := by
  cases gateways with
  | none =>
    rw [stageGateways, Option.map_none, ← absent]
    simp
  | some gateways =>
    rw [stageGateways, holds_bind, holds_map_error]
    refine holds_mono (save_spec owed _ _ _) ?_ (fun _ _ failed => failed)
    intro after _ wrote
    rw [holds_pure]
    exact ⟨wrote, rfl⟩

theorem stage_spec (reads : ReadsBack platform input.bundle) :
    Holds (JoinStep mayFail) guard (stageAndValidate platform (.staging uuid) input)
      (fun after names => after = staged before uuid (artifact input) ∧
        names = artifactNames input ∧
        input.bundle.membership.verify platform.verifies input.bundle.authority = true)
      (fun after _ => (∃ left, after = staged before uuid left) ∧ (mayFail ∨
        input.bundle.membership.verify platform.verifies input.bundle.authority = false))
      (staged before uuid fun _ => none) := by
  have broke : ∀ {Error : Type} (after : Disk) (_ : Error),
      (∃ left, after = staged before uuid left) ∧ mayFail →
      (∃ left, after = staged before uuid left) ∧ (mayFail ∨
        input.bundle.membership.verify platform.verifies input.bundle.authority = false) :=
    fun _ _ failed => ⟨failed.1, .inl failed.2⟩
  rw [stageAndValidate]
  simp only [holds_bind, holds_map_error]
  refine holds_mono (init_network_id_spec owed rfl _) ?_ broke
  rintro _ _ rfl
  refine holds_mono (install_descriptor_spec owed rfl _) ?_ broke
  rintro _ _ rfl
  refine holds_mono (save_spec owed _ _ _) ?_ broke
  rintro _ _ rfl
  refine holds_mono (save_spec owed _ _ _) ?_ broke
  rintro _ _ rfl
  refine holds_mono (stage_gateways_spec owed rfl _ _) ?_ broke
  rintro _ _ ⟨rfl, rfl⟩
  rw [staged_artifacts]
  -- Everything is written; now it is read back.
  refine holds_mono (load_present_spec owed rfl _ (authority_reads input reads)) ?_ broke
  rintro _ _ ⟨rfl, rfl⟩
  rw [or_fail_some, holds_done]
  refine holds_mono (load_present_spec owed rfl _ (membership_reads input reads)) ?_ broke
  rintro _ _ ⟨rfl, rfl⟩
  rw [or_fail_some, holds_done, holds_ensure]
  constructor
  · intro verified
    rw [holds_pure]
    exact ⟨rfl, rfl, (of_decide_eq_true verified).2.1⟩
  · intro refused
    refine ⟨⟨_, rfl⟩, .inr ?_⟩
    by_contra verified
    exact of_decide_eq_false refused ⟨rfl, Bool.not_eq_false _ ▸ verified, rfl⟩

omit owed

/-! The commit. -/

/-- The staged files that are left are those of the installation. -/
def Ready (input : NetworkInstall) (uuid : Bytes 16)
    (names : List Artifact) (disk : Disk) : Prop :=
  ∀ name ∈ names, name ∈ artifactNames input ∧
    disk (.staging uuid) name = artifact input name

theorem renames_spec (committing : Committing platform input before)
    (owed : ∀ disk op, Partly platform input before disk → guard disk op) (names : List Artifact)
    (distinct : names.Nodup) (partly : Partly platform input before disk)
    (ready : Ready input uuid names disk) :
    Holds (JoinStep mayFail) guard
      (forEach names fun name => (perform (.rename (.staging uuid) .dataDir name) >>= orError id :
        JoinTask String Unit))
      (fun after _ => Partly platform input before after ∧ ∀ name, after .dataDir name =
        if name ∈ names then artifact input name else disk .dataDir name)
      (fun after _ => Partly platform input before after ∧ mayFail) disk := by
  induction names generalizing disk with
  | nil =>
    rw [forEach, holds_done]
    exact ⟨partly, fun name => rfl⟩
  | cons first rest ih =>
    obtain ⟨named, content⟩ := ready first List.mem_cons_self
    rw [forEach, holds_bind, holds_bind, holds_perform]
    refine ⟨owed disk _ partly, ?_⟩
    intro result after taken
    rw [holds_or_error]
    constructor
    · rintro _ rfl
      obtain ⟨bytes, moved, rfl⟩ := taken
      have new : artifact input first = some bytes := content.symm.trans moved
      have changed : ∀ name, put (put disk (.staging uuid) first none) .dataDir first
          (some bytes) .dataDir name =
            if name = first then artifact input name else disk .dataDir name := by
        intro name
        by_cases same : name = first
        · simp [put, same, new]
        · simp [put, same]
      refine holds_mono (ih (List.nodup_cons.mp distinct).2 ?_ ?_) ?_
        (fun _ _ failed => failed)
      · intro name
        rw [changed]
        by_cases same : name = first
        · rw [if_pos same]
          exact .inr ⟨committing, same ▸ named, rfl⟩
        · rw [if_neg same]
          exact partly name
      · intro name member
        obtain ⟨listed, staged_⟩ := ready name (List.mem_cons_of_mem first member)
        have different : name ≠ first := by
          rintro rfl
          exact (List.nodup_cons.mp distinct).1 member
        refine ⟨listed, ?_⟩
        rw [← staged_]
        simp [put, different]
      · rintro after _ ⟨partly, final⟩
        refine ⟨partly, ?_⟩
        intro name
        rw [final, changed]
        by_cases later : name ∈ rest
        · simp [later]
        · by_cases same : name = first <;> simp [later]
    · rintro error rfl
      obtain ⟨rfl, missing | fails⟩ := taken
      · have none : artifact input first = none := content.symm.trans missing
        exact absurd none ((artifact_named first).mp named)
      · exact ⟨partly, fails⟩

theorem commit_spec (committing : Committing platform input before)
    (owed : ∀ disk op, Partly platform input before disk → guard disk op) :
    Holds (JoinStep mayFail) guard (commitStaged (.staging uuid) (artifactNames input))
      (fun after _ => Partly platform input before after ∧ ∀ name, after .dataDir name =
        (artifact input name).or (before .dataDir name))
      (fun after _ => Partly platform input before after ∧ mayFail)
      (staged before uuid (artifact input)) := by
  have ready : Ready input uuid (artifactNames input)
      (staged before uuid (artifact input)) :=
    fun name member => ⟨member, staged_staging name⟩
  rw [commitStaged, holds_bind]
  refine holds_mono (renames_spec committing owed _ artifact_names_nodup partly_staged ready) ?_
    (fun _ _ failed => failed)
  rintro renamed _ ⟨partly, final⟩
  rw [holds_bind, holds_perform]
  refine ⟨owed renamed _ partly, ?_⟩
  intro result after removed
  have kept : ∀ name, after .dataDir name = renamed .dataDir name :=
    fun name => removed .dataDir name nofun
  rw [holds_pure]
  constructor
  · intro name
    rw [kept]
    exact partly name
  · intro name
    rw [kept, final]
    by_cases named : name ∈ artifactNames input
    · obtain ⟨bytes, brought⟩ := Option.ne_none_iff_exists'.mp
        ((artifact_named name).mp named)
      rw [if_pos named, brought, Option.some_or]
    · rw [if_neg named, not_not.mp (mt (artifact_named name).mpr named)]
      rfl

theorem partly_removed {after : Disk} (partly : Partly platform input before disk)
    (removed : ∀ other name, other ≠ .staging uuid → after other name = disk other name) :
    Partly platform input before after := by
  intro name
  rw [removed .dataDir name nofun]
  exact partly name

/-- The part after the guard ends with the installation, or with a reason to undo
the staging. -/
theorem stage_commit_spec (reads : ReadsBack platform input.bundle)
    (accepts : Accepts platform input before)
    (quiet : ∀ contents op, op.isRename = false → guard (staged before uuid contents) op)
    (owed : Committing platform input before →
      ∀ disk op, Partly platform input before disk → guard disk op) :
    Holds (JoinStep mayFail) guard
      (stageAndValidate platform (.staging uuid) input >>= fun names =>
        mapError JoinError.io (commitStaged (.staging uuid) names))
      (fun after _ => Partly platform input before after ∧ Committing platform input before ∧
        ∀ name, after .dataDir name =
          (artifact input name).or (before .dataDir name))
      (fun after _ => Partly platform input before after ∧
        (mayFail ∨ ¬ Committing platform input before))
      (staged before uuid fun _ => none) := by
  rw [holds_bind]
  refine holds_mono (stage_spec quiet reads) ?_ ?_
  · rintro _ _ ⟨rfl, rfl, verified⟩
    have committing : Committing platform input before := ⟨accepts, verified⟩
    rw [holds_map_error]
    refine holds_mono (commit_spec committing (owed committing)) ?_ ?_
    · exact fun after _ ⟨partly, final⟩ => ⟨partly, committing, final⟩
    · exact fun after _ ⟨partly, fails⟩ => ⟨partly, .inl fails⟩
  · rintro _ _ ⟨⟨left, rfl⟩, fails | refused⟩
    · exact ⟨partly_staged, .inl fails⟩
    · refine ⟨partly_staged, .inr fun committing => ?_⟩
      rw [committing.verified] at refused
      cases refused

/-- An installation that ends well has put every artifact in place. One that
fails or stops has left a directory in between, and without a failing disk it
fails only where the guard or the check of the certificate refuses. -/
theorem install_spec (reads : ReadsBack platform input.bundle) (free : Free before uuid)
    (owed : ∀ disk op, Partly platform input before disk →
      (op.isRename = true → Committing platform input before) → guard disk op) :
    Holds (JoinStep mayFail) guard (install platform input uuid)
      (fun after _ => Partly platform input before after ∧ Committing platform input before ∧
        ∀ name, after .dataDir name =
          (artifact input name).or (before .dataDir name))
      (fun after _ => Partly platform input before after ∧
        (mayFail ∨ ¬ Committing platform input before)) before := by
  have plainly : ∀ disk op, Partly platform input before disk → op.isRename = false →
      guard disk op := by
    intro disk op partly plain
    apply owed disk op partly
    intro renames
    rw [plain] at renames
    cases renames
  have quiet : ∀ contents op, op.isRename = false → guard (staged before uuid contents) op :=
    fun _ op plain => plainly _ op partly_staged plain
  suffices Holds (JoinStep mayFail) guard (install platform input uuid) _ _
      (staged before uuid fun _ => none) by
    rwa [staged_free free] at this
  rw [install, holds_bind, holds_perform]
  refine ⟨quiet _ _ rfl, ?_⟩
  intro made after taken
  rw [holds_bind, holds_or_error]
  constructor
  · rintro _ rfl
    obtain rfl : after = _ := taken
    rw [holds_bind]
    refine holds_mono (guard_spec quiet) ?_ ?_
    · rintro _ _ ⟨rfl, accepts⟩
      rw [holds_bind, holds_perform]
      refine ⟨quiet _ _ rfl, ?_⟩
      intro made after taken
      rw [holds_bind, holds_or_error]
      constructor
      · rintro _ rfl
        obtain rfl : after = _ := taken
        rw [holds_bind, holds_attempt]
        have committed := fun committing : Committing platform input before =>
          fun disk op partly => owed disk op partly fun _ => committing
        refine holds_mono (stage_commit_spec reads accepts quiet committed) ?_ ?_
        · intro after _ installed
          rw [holds_pure]
          exact installed
        · rintro after error ⟨partly, reason⟩
          rw [holds_bind, holds_perform]
          refine ⟨plainly _ _ partly rfl, ?_⟩
          intro result cleared removed
          rw [holds_fail]
          exact ⟨partly_removed partly removed, reason⟩
      · rintro error rfl
        obtain ⟨rfl, fails⟩ := taken
        exact ⟨partly_staged, .inl fails⟩
    · rintro _ _ ⟨rfl, fails | refused⟩
      · exact ⟨partly_staged, .inl fails⟩
      · exact ⟨partly_staged, .inr fun committing => refused committing.accepts⟩
  · rintro error rfl
    obtain ⟨rfl, fails⟩ := taken
    exact ⟨partly_staged, .inl fails⟩
end Specifications

/-! The transaction touches its own staging directory, and the directory itself
only by renames. -/
section Vocabulary

def Within (uuid : Bytes 16) : JoinOp → Prop
  | .writeFile place _ _ => place = .staging uuid
  | .removeDir place => place = .staging uuid
  | .rename source target _ => source = .staging uuid ∧ target = .dataDir
  | _ => True

theorem load_within (place : Place) (name : Artifact) (io : String → Err)
    (decode : List UInt8 → Except Err Value) : Only (Within uuid) (load place name io decode) := by
  apply only_bind (by simp [Within])
  intro present
  split
  · apply only_bind (by simp [Within])
    intro content
    apply only_bind (by simp)
    intro bytes
    exact only_bind (by simp) (by simp)
  · simp

theorem save_within (name : Artifact) (io : String → Err) (bytes : List UInt8) :
    Only (Within uuid) (save (.staging uuid) name io bytes) := by
  apply only_bind (by simp [Within])
  intro made
  apply only_bind (by simp)
  intro _
  apply only_bind (by simp [Within])
  simp

theorem refuse_within (existing : Option Value) (same : Value → Bool)
    (error : Value → JoinError) : Only (Within uuid) (refuse existing same error) := by
  cases existing <;> simp [refuse]

theorem guard_within (networkId : NetworkId) :
    Only (Within uuid) (guardExistingNetwork platform networkId) := by
  apply only_bind (only_map_error (load_within ..))
  intro existing
  apply only_bind (refuse_within ..)
  intro _
  apply only_bind (only_map_error (load_within ..))
  intro existing
  exact refuse_within ..

theorem init_network_id_within (requested : NetworkId) :
    Only (Within uuid) (loadOrInitNetworkId platform (.staging uuid) requested) := by
  apply only_bind (load_within ..)
  intro persisted
  cases persisted with
  | none => exact only_bind (save_within ..) (by simp)
  | some persisted =>
    dsimp only
    split <;> simp

theorem install_descriptor_within (authority : NetworkAuthority) :
    Only (Within uuid) (installDescriptor platform (.staging uuid) authority) := by
  apply only_bind (load_within ..)
  intro existing
  cases existing with
  | none => exact save_within ..
  | some existing => simp

theorem stage_within : Only (Within uuid) (stageAndValidate platform (.staging uuid) input) := by
  apply only_bind (only_map_error (init_network_id_within _))
  intro _
  apply only_bind (only_map_error (install_descriptor_within _))
  intro _
  apply only_bind (only_map_error (save_within ..))
  intro _
  apply only_bind (only_map_error (save_within ..))
  intro _
  apply only_bind
  · cases input.gateways with
    | none => simp [stageGateways]
    | some gateways => exact only_bind (only_map_error (save_within ..)) (by simp)
  intro staged
  apply only_bind (only_map_error (load_within ..))
  intro reloaded
  apply only_bind (by simp)
  intro authority
  apply only_bind (only_map_error (load_within ..))
  intro reloaded
  apply only_bind (by simp)
  intro membership
  exact only_bind (by simp) (by simp)

theorem install_within : Only (Within uuid) (install platform input uuid) := by
  apply only_bind (by simp [Within])
  intro made
  apply only_bind (by simp)
  intro _
  apply only_bind (guard_within _)
  intro _
  apply only_bind (by simp [Within])
  intro made
  apply only_bind (by simp)
  intro _
  apply only_bind
  · apply only_attempt
    apply only_bind stage_within
    intro staged
    apply only_map_error
    apply only_bind
    · apply only_for_each
      intro name _
      exact only_bind (by simp [Within]) (by simp)
    · intro _
      exact only_bind (by simp [Within]) (by simp)
  · intro outcome
    cases outcome with
    | ok _ => simp
    | error error => exact only_bind (by simp [Within]) (by simp)

/-- A step that is not a rename. -/
def BeforeCommit (disk : Disk) (op : JoinOp) (result : op.Result) (after : Disk) : Prop :=
  JoinStep True disk op result after ∧ ¬ op.isRename = true

theorem put_elsewhere {disk : Disk} {place other : Place} (different : other ≠ place)
    (file name : Artifact) (content : Option (List UInt8)) :
    put disk place file content other name = disk other name :=
  if_neg fun same => different same.1

theorem within_keeps {disk after : Disk} {op : JoinOp} {result : op.Result} {place : Place}
    (within : Within uuid op) (taken : JoinStep True disk op result after)
    (elsewhere : place ≠ .staging uuid)
    (unnamed : ∀ source target name, op = .rename source target name → place ≠ .dataDir) :
    after place = disk place := by
  funext name
  cases op with
  | createDir _ =>
    cases result with
    | ok _ => rw [show after = disk from taken]
    | error _ => rw [taken.1]
  | fileExists _ _ => rw [taken.1]
  | readFile _ _ =>
    cases result with
    | ok _ | error _ => rw [taken.1]
  | writeFile target file bytes =>
    obtain rfl : target = .staging uuid := within
    cases result with
    | ok _ =>
      rw [show after = put disk (.staging uuid) file (some bytes) from taken]
      exact put_elsewhere elsewhere file name _
    | error _ =>
      obtain ⟨⟨left, rfl⟩, _⟩ := taken
      exact put_elsewhere elsewhere file name _
  | rename source target file =>
    obtain ⟨rfl, rfl⟩ := within
    cases result with
    | ok _ =>
      obtain ⟨bytes, _, rfl⟩ := taken
      rw [put_elsewhere (unnamed _ _ _ rfl), put_elsewhere elsewhere]
    | error _ => rw [taken.1]
  | removeDir target =>
    obtain rfl : target = .staging uuid := within
    exact taken place name elsewhere

variable {after : Disk} {final : JoinTask JoinError Unit}

theorem data_kept (run : Reaches BeforeCommit (install platform input uuid) before final after) :
    after .dataDir = before .dataDir := by
  apply reaches_keeps (fun disk => disk .dataDir = before .dataDir) install_within _ run rfl
  intro disk op result next within taken kept
  have elsewhere : Place.dataDir ≠ .staging uuid := nofun
  rw [← kept]
  apply within_keeps within taken.1 elsewhere
  rintro source target name rfl
  exact absurd rfl taken.2

theorem others_free (run : Reaches (JoinStep True) (install platform input uuid) before final after)
    {other : Bytes 16} (different : other ≠ uuid) (free : Free before other) :
    Free after other := by
  apply reaches_keeps (fun disk => Free disk other) install_within _ run free
  intro disk op result next within taken free name
  have own : Place.staging other ≠ .staging uuid := fun same => different (Place.staging.inj same)
  rw [within_keeps within taken own fun _ _ _ _ => nofun]
  exact free name
end Vocabulary

/-! The two promises of the transaction. -/
section Results

variable (reads : ReadsBack platform input.bundle)
include reads

theorem install_runs (committing : Committing platform input before) (free : Free before uuid) :
    ((install platform input uuid).run answer before).1 = .ok () ∧
      ∀ name, ((install platform input uuid).run answer before).2 .dataDir name =
        (artifact input name).or (before .dataDir name) := by
  have spec : Holds (JoinStep False) (fun _ _ => True) (install platform input uuid) _ _ before :=
    install_spec reads free fun _ _ _ _ => trivial
  obtain ⟨_, succeeds, _, _, final⟩ := holds_run (answer_answers False)
    (holds_mono spec (fun _ _ done => done) (by
      rintro _ _ ⟨_, fails | refused⟩
      · exact fails
      · exact refused committing))
  exact ⟨succeeds, final⟩

/-- Wherever a run is, its directory is in between. -/
theorem install_partly (free : Free before uuid) {final : JoinTask JoinError Unit} {after : Disk}
    (run : Reaches (JoinStep True) (install platform input uuid) before final after) :
    Partly platform input before after := by
  have spec : Holds (JoinStep True) (fun disk _ => Partly platform input before disk)
      (install platform input uuid) _ _ before :=
    install_spec reads free fun _ _ partly _ => partly
  have weaker := holds_mono spec (fun _ _ done => done.1) (fun _ _ failed => failed.1)
  exact holds_now (holds_reaches weaker run)

theorem rename_committing (free : Free before uuid) {source target : Place} {name : Artifact}
    {next : Except String Unit → JoinTask JoinError Unit} {middle : Disk}
    (run : Reaches (JoinStep True) (install platform input uuid) before
      (.call (.rename source target name) next) middle) :
    Committing platform input before := by
  have spec : Holds (JoinStep True)
      (fun _ op => op.isRename = true → Committing platform input before)
      (install platform input uuid) _ _ before :=
    install_spec reads free fun _ _ _ committing => committing
  exact ((holds_call _ _).mp (holds_reaches spec run)).1 rfl

omit reads

/-- A run that stops before its first rename leaves the directory as it was. From
what a run leaves that got as far as a rename, the same installation succeeds and
gives the directory one uninterrupted installation gives. -/
theorem join_recovers (reads : ReadsBack platform input.bundle) (free : Free before uuid) :
    (∀ final after, Reaches BeforeCommit (install platform input uuid) before final after →
      ∀ name, after .dataDir name = before .dataDir name) ∧
    (∀ source target name next middle final after,
      Reaches (JoinStep True) (install platform input uuid) before
        (.call (.rename source target name) next) middle →
      Reaches (JoinStep True) (.call (.rename source target name) next) middle final after →
      ∀ once again, Free before once → Free after again →
        ((install platform input once).run answer before).1 = .ok () ∧
        ((install platform input again).run answer after).1 = .ok () ∧
        ∀ name, ((install platform input again).run answer after).2 .dataDir name =
          ((install platform input once).run answer before).2 .dataDir name) := by
  constructor
  · intro final after run name
    rw [data_kept run]
  · intro source target name next middle final after gets goes once again unused fresh
    have committing := rename_committing reads free gets
    have partly := install_partly reads free (reaches_trans gets goes)
    have still : Committing platform input after :=
      ⟨accepts_partly reads committing.accepts partly, committing.verified⟩
    obtain ⟨succeeds, first⟩ := install_runs reads committing unused
    obtain ⟨recovers, second⟩ := install_runs reads still fresh
    refine ⟨succeeds, recovers, ?_⟩
    intro file
    rw [first, second]
    rcases partly file with same | ⟨_, named, new⟩
    · rw [same]
    · obtain ⟨bytes, brought⟩ := Option.ne_none_iff_exists'.mp ((artifact_named file).mp named)
      rw [brought, Option.some_or, Option.some_or]

/-- The descriptor that is installed. -/
def Loads (platform : JoinPlatform) (disk : Disk) (authority : NetworkAuthority) : Prop :=
  ∃ bytes, disk .dataDir .networkJson = some bytes ∧ authorityOf platform bytes = .ok authority

def Kept (platform : JoinPlatform) (before : Disk) (existing : NetworkAuthority)
    (result : Except JoinError Unit) (after : Disk) : Prop :=
  (∃ error, result = .error error) ∧
      after .dataDir .networkJson = before .dataDir .networkJson ∧
      after .dataDir .membershipBin = before .dataDir .membershipBin ∨
    Loads platform after existing

theorem refused_keeps (reads : ReadsBack platform input.bundle) (free : Free before uuid)
    (refused : ¬ Accepts platform input before) {existing : NetworkAuthority}
    {result : Except JoinError Unit} {after : Disk}
    (run : Reaches (JoinStep True) (install platform input uuid) before
      (EffectTask.ofExcept result) after) : Kept platform before existing result after := by
  have uncommitted : ¬ Committing platform input before := fun committing =>
    refused committing.accepts
  have unchanged : ∀ name, after .dataDir name = before .dataDir name := by
    intro name
    rcases install_partly reads free run name with same | ⟨committing, _⟩
    · exact same
    · exact absurd committing uncommitted
  cases result with
  | ok value =>
    have spec : Holds (JoinStep True) (fun _ _ => True) (install platform input uuid) _ _ before :=
      install_spec reads free fun _ _ _ _ => trivial
    exact absurd (reaches_done spec run).2.1 uncommitted
  | error error => exact .inl ⟨⟨error, rfl⟩, unchanged _, unchanged _⟩

/-- An installed descriptor survives every run exactly if the bundle brings the
same one, or names another Network than the descriptor or the `network-id` file. -/
theorem authority_kept_iff (reads : ReadsBack platform input.bundle) (free : Free before uuid)
    {existing : NetworkAuthority} (installed : Loads platform before existing)
    {response : EnrollmentResponse} {invite : EnrollmentInvite} {expected : NetworkId}
    {sister : SisterId} {key : PublicKey} {now : UInt64}
    (validated : response.validateReceived platform.verifies invite expected sister key now =
      .ok input.bundle) :
    (∀ result after, Reaches (JoinStep True) (install platform input uuid) before
      (EffectTask.ofExcept result) after → Kept platform before existing result after) ↔
    input.bundle.authority = existing ∨ existing.networkId ≠ input.networkId ∨
      ∃ bytes, before .dataDir .networkId = some bytes ∧
        networkIdOf platform bytes ≠ .ok input.networkId := by
  obtain ⟨descriptor, present, decoded⟩ := installed
  constructor
  · intro kept
    by_contra neither
    simp only [not_or, not_exists, not_and, not_not] at neither
    obtain ⟨different, network, named⟩ := neither
    have accepts : Accepts platform input before := by
      refine ⟨named, ?_⟩
      intro bytes content
      obtain rfl := Option.some.inj (present.symm.trans content)
      exact ⟨existing, decoded, network⟩
    have committing : Committing platform input before :=
      ⟨accepts, validated_membership_verifies validated⟩
    obtain ⟨succeeds, final⟩ := install_runs reads committing free
    have run := run_reaches (answer_answers True) (install platform input uuid) before
    rcases kept _ _ run with ⟨⟨error, failed⟩, _⟩ | ⟨bytes, replaced, loads⟩
    · cases succeeds.symm.trans failed
    · have new := final .networkJson
      rw [replaced, artifact, Option.some_or, Option.some.injEq] at new
      rw [new] at loads
      exact different (Except.ok.inj ((authority_reads input reads).symm.trans loads))
  · rintro (same | other | ⟨bytes, content, other⟩) result after run
    · subst same
      apply Or.inr
      rcases install_partly reads free run .networkJson with unchanged | ⟨_, _, new⟩
      · exact ⟨descriptor, unchanged.trans present, decoded⟩
      · exact ⟨_, new, authority_reads input reads⟩
    · apply refused_keeps reads free _ run
      intro accepts
      obtain ⟨_, again, network⟩ := accepts.authority descriptor present
      obtain rfl := Except.ok.inj (decoded.symm.trans again)
      exact other network
    · apply refused_keeps reads free _ run
      intro accepts
      exact other (accepts.networkId bytes content)
end Results

/-! Two authorities of one NetworkId: the second one's bundle replaces the first
one's descriptor. -/

def sampleNetwork : NetworkId := ⟨Bytes.fill 16 1⟩

def firstAuthority : NetworkAuthority := ⟨sampleNetwork, Bytes.fill 32 2⟩

def secondAuthority : NetworkAuthority := ⟨sampleNetwork, Bytes.fill 32 3⟩

def sampleMembership : MembershipCertificate :=
  ⟨sampleNetwork, Bytes.fill 32 4, 7, 100, none, 5, Bytes.fill 64 9⟩

def sampleInput : NetworkInstall := ⟨⟨secondAuthority, sampleMembership, []⟩, none⟩

def samplePlatform : JoinPlatform where
  verifies key message signature :=
    key = secondAuthority.authorityPublicKey ∧ message = sampleMembership.signingBytes ∧
      signature = sampleMembership.authoritySignature
  parseNetworkId text :=
    if text = sampleNetwork.display.toList then .ok sampleNetwork else .error "invalid character"
  authority text :=
    if text = (authorityJson firstAuthority).toList then .ok firstAuthority
    else if text = (authorityJson secondAuthority).toList then .ok secondAuthority
    else .error "EOF while parsing a value"
  membership bytes :=
    if bytes = sampleMembership.encode then .ok sampleMembership
    else .error "unexpected end of file"

def sampleInvite : EnrollmentInvite where
  version := 1
  networkId := sampleNetwork
  authority := secondAuthority
  issuedAt := 90
  expiresAt := 200
  inviteNonce := Bytes.fill 32 5
  locator :=
    ⟨sampleNetwork, 1, Bytes.fill 32 6, "iroh://a",
      ⟨sampleNetwork, 1, Bytes.fill 32 6, Bytes.fill 32 7, 1, Bytes.fill 64 8⟩, 1, 100,
      Bytes.fill 64 8⟩
  authoritySignature := Bytes.fill 64 8

-- A directory that belongs to the Network of an authority.
def joinedDisk (authority : NetworkAuthority) : Disk
  | .dataDir, .networkId => some (utf8 sampleNetwork.display)
  | .dataDir, .networkJson => some (utf8 (authorityJson authority))
  | _, _ => none

theorem sample_texts_differ :
    (authorityJson secondAuthority).toList ≠ (authorityJson firstAuthority).toList := by
  have keys : byteArray (Bytes.fill 32 3).toList 1 ≠ byteArray (Bytes.fill 32 2).toList 1 := by
    decide +kernel
  intro same
  apply keys
  simpa [authorityJson, authorityDocument, object, bracketed, lines, field, firstAuthority,
    secondAuthority] using same

theorem sample_reads : ReadsBack samplePlatform sampleInput.bundle := by
  constructor
  · change samplePlatform.parseNetworkId sampleNetwork.display.toList = .ok sampleNetwork
    simp only [samplePlatform, if_true]
  · change samplePlatform.authority (authorityJson secondAuthority).toList = .ok secondAuthority
    simp only [samplePlatform, if_neg sample_texts_differ, if_true]
  · change samplePlatform.membership sampleMembership.encode = .ok sampleMembership
    simp only [samplePlatform, if_true]

theorem sample_validated :
    (EnrollmentResponse.accepted secondAuthority sampleMembership []).validateReceived
      samplePlatform.verifies sampleInvite sampleNetwork 7 (Bytes.fill 32 4) 110 =
        .ok sampleInput.bundle := by
  have verified : sampleMembership.verify samplePlatform.verifies secondAuthority = true := by
    simp [MembershipCertificate.verify, samplePlatform, sampleMembership, secondAuthority]
  have timely : sampleMembership.isValidAt 110 = true := by decide
  simp [EnrollmentResponse.validateReceived, EnrollmentResponse.accepted, verified, timely,
    sampleInvite, sampleInput]
  simp [sampleMembership, secondAuthority]

variable (authority : NetworkAuthority)

theorem joined_network_id :
    joinedDisk authority .dataDir .networkId = some (utf8 sampleNetwork.display) := rfl

theorem joined_descriptor :
    joinedDisk authority .dataDir .networkJson = some (utf8 (authorityJson authority)) := rfl

theorem first_reads : authorityOf samplePlatform (utf8 (authorityJson firstAuthority)) =
    .ok firstAuthority := by
  apply descriptor_reads
  simp only [samplePlatform, if_true]

theorem first_loads : Loads samplePlatform (joinedDisk firstAuthority) firstAuthority :=
  ⟨_, joined_descriptor firstAuthority, first_reads⟩

theorem second_loads (disk : Disk)
    (present : disk .dataDir .networkJson = some (utf8 (authorityJson secondAuthority))) :
    Loads samplePlatform disk secondAuthority :=
  ⟨_, present, authority_reads sampleInput sample_reads⟩

theorem joined_free (authority : NetworkAuthority) (uuid : Bytes 16) :
    Free (joinedDisk authority) uuid := fun _ => rfl

theorem first_committing : Committing samplePlatform sampleInput (joinedDisk firstAuthority) := by
  refine ⟨⟨?_, ?_⟩, validated_membership_verifies sample_validated⟩
  · intro bytes content
    rw [joined_network_id, Option.some.injEq] at content
    rw [← content]
    exact network_id_reads sampleInput sample_reads
  · intro bytes content
    rw [joined_descriptor, Option.some.injEq] at content
    rw [← content]
    exact ⟨firstAuthority, first_reads, rfl⟩

/-- A validated bundle for the installed NetworkId, from another authority key, is
installed over the descriptor that was there. -/
theorem authority_replaced :
    Loads samplePlatform (joinedDisk firstAuthority) firstAuthority ∧
    firstAuthority ≠ secondAuthority ∧
    (EnrollmentResponse.accepted secondAuthority sampleMembership []).validateReceived
      samplePlatform.verifies sampleInvite sampleNetwork 7 (Bytes.fill 32 4) 110 =
        .ok sampleInput.bundle ∧
    ((install samplePlatform sampleInput (Bytes.fill 16 8)).run answer
      (joinedDisk firstAuthority)).1 = .ok () ∧
    Loads samplePlatform ((install samplePlatform sampleInput (Bytes.fill 16 8)).run answer
      (joinedDisk firstAuthority)).2 secondAuthority := by
  obtain ⟨succeeds, final⟩ := install_runs sample_reads first_committing
    (joined_free firstAuthority (Bytes.fill 16 8))
  refine ⟨first_loads, by decide, sample_validated, succeeds, second_loads _ ?_⟩
  rw [final]
  rfl

theorem rejoined_authority_kept :
    Kept samplePlatform (joinedDisk secondAuthority) secondAuthority
      ((install samplePlatform sampleInput (Bytes.fill 16 8)).run answer
        (joinedDisk secondAuthority)).1
      ((install samplePlatform sampleInput (Bytes.fill 16 8)).run answer
        (joinedDisk secondAuthority)).2 :=
  (authority_kept_iff sample_reads (joined_free secondAuthority (Bytes.fill 16 8))
    (second_loads _ (joined_descriptor secondAuthority)) sample_validated).mpr (.inl rfl) _ _
    (run_reaches (answer_answers True) _ _)

/-- A run from an empty directory that stopped before one of its renames, and the
run after it. -/
theorem stopped_join_recovers :
    ∃ source target name next middle,
      Reaches (JoinStep True) (install samplePlatform sampleInput (Bytes.fill 16 8)) (fun _ _ => none)
        (.call (.rename source target name) next) middle ∧
      ((install samplePlatform sampleInput (Bytes.fill 16 9)).run answer middle).1 = .ok () := by
  have free : ∀ uuid, Free (fun _ _ => none) uuid := fun _ _ => rfl
  have committing : Committing samplePlatform sampleInput fun _ _ => none :=
    ⟨⟨nofun, nofun⟩, validated_membership_verifies sample_validated⟩
  obtain ⟨_, final⟩ := install_runs sample_reads committing (free (Bytes.fill 16 8))
  have run := run_reaches (answer_answers True)
    (install samplePlatform sampleInput (Bytes.fill 16 8)) fun _ _ => none
  rcases reaches_first (fun op => op.isRename = true) run with
    plain | ⟨op, next, middle, renames, reached, left⟩
  · have kept := congrFun (data_kept plain) .networkId
    rw [final] at kept
    cases kept
  · cases op with
    | rename source target name =>
      have unused := others_free reached (by decide) (free (Bytes.fill 16 9))
      exact ⟨source, target, name, next, middle, reached,
        ((join_recovers sample_reads (free _)).2 _ _ _ _ _ _ _ reached (.here _ _) _ _
          (free (Bytes.fill 16 8)) unused).2.1⟩
    | _ => cases renames
end Misaka.JoinRecovery
