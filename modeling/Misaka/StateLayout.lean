import Misaka.JsonReading
import Misaka.StateDirectory

/-!
The version of the state layout, kept in `state-layout.json`. Opening a directory
creates or adopts the layout and refuses one that is newer than the binary. A
migration checks the versions it is given against each other and not against the
stored one. The manifest is replaced by a rename, so that it is never half written.
-/

namespace Misaka.StateLayout
open Bincode EffectTask FileText JsonText JsonReading StateDirectory
variable {Question : Type} {Reply : Question → Type}

def LAYOUT_FILE : String := "state-layout.json"

-- `path.with_extension("json.tmp")`.
def tempFile : String := "state-layout.json.tmp"

def CURRENT_STATE_LAYOUT_VERSION : UInt32 := 1

def KNOWN_STATE_MARKERS : List String := [
  "identity.json", "sister-identity-key", "iroh-stream-key.bin", "network-id", "network.json",
  "network-authority-key", "membership.bin", "membership-serial", "human-identity.json",
  "human-identity-key", "human-membership.bin", "transport-binding.json", "revocations.json",
  "used-command-nonces.json", "gateways.json", "peer-records.json", "peers.json", "service.json",
  "local-control-token"]

structure StateLayoutManifest where
  layoutVersion : UInt32
  createdByVersion : Option String
  lastOpenedByVersion : Option String
deriving DecidableEq

inductive LayoutOpen where
  | created | adopted | existing
deriving DecidableEq

inductive StateLayoutError where
  | io (error : String)
  | malformed (error : String)
  | tooNew (found supported : UInt32)
  | unsupportedMigration (source target : UInt32)
deriving DecidableEq

def StateLayoutError.display : StateLayoutError → String
  | .io error => "state layout I/O error: " ++ error
  | .malformed error => "state-layout.json is malformed: " ++ error
  | .tooNew found supported =>
    "Misaka state layout v" ++ toString found ++ " is newer than this binary supports (max v" ++
      toString supported ++ "). Refusing to start."
  | .unsupportedMigration source target =>
    "unsupported migration from layout v" ++ toString source ++ " to v" ++ toString target

-- `skip_serializing_if = "Option::is_none"`.
def optionalField (name : String) (value : Option String) : List Document :=
  (value.map fun text => field name (string text)).toList

variable (manifest : StateLayoutManifest)

def manifestDocument : Document :=
  object (field "layout_version" (number manifest.layoutVersion.toNat) ::
    (optionalField "created_by_version" manifest.createdByVersion ++
      optionalField "last_opened_by_version" manifest.lastOpenedByVersion))

def manifestBytes : List UInt8 :=
  utf8 (jsonText manifestDocument manifest)

section Stores
variable (parse : List UInt8 → Except String StateLayoutManifest)

def manifestOf (bytes : List UInt8) : Except StateLayoutError StateLayoutManifest :=
  (parse bytes).mapError .malformed

def load : StateTask Reply StateLayoutError (Option StateLayoutManifest) :=
  loadFile LAYOUT_FILE .io (manifestOf parse)

def write (manifest : StateLayoutManifest) : StateTask Reply StateLayoutError Unit := do
  createDir .io
  writeFile tempFile (manifestBytes manifest) .io
  rename tempFile LAYOUT_FILE .io

-- The markers are looked for in their order, up to the first one that is there.
def anyExists : List String → StateTask Reply StateLayoutError Bool
  | [] => pure false
  | marker :: rest => do
      let present ← fileExists marker
      if present then pure true else anyExists rest

def openWithVersion (binaryVersion : String) : StateTask Reply StateLayoutError LayoutOpen := do
  let manifest ← load parse
  match manifest with
  | some manifest =>
    if manifest.layoutVersion > CURRENT_STATE_LAYOUT_VERSION then
      .fail (.tooNew manifest.layoutVersion CURRENT_STATE_LAYOUT_VERSION)
    else do
      if manifest.lastOpenedByVersion ≠ some binaryVersion then
        write { manifest with lastOpenedByVersion := some binaryVersion }
      pure .existing
  | none => do
      let hasExistingState ← anyExists KNOWN_STATE_MARKERS
      write ⟨CURRENT_STATE_LAYOUT_VERSION, some binaryVersion, some binaryVersion⟩
      pure (if hasExistingState then .adopted else .created)

-- The versions are checked against each other only.
def supportedMigration (source target : UInt32) : Bool :=
  !(source > CURRENT_STATE_LAYOUT_VERSION || target > CURRENT_STATE_LAYOUT_VERSION) &&
    !(target < source) && !(source != target && !(source == 0 && target == 1))

def migrate (source target : UInt32) : StateTask Reply StateLayoutError Unit := do
  ensure (supportedMigration source target) (.unsupportedMigration source target)
  let manifest ← load parse
  write { manifest.getD ⟨0, none, none⟩ with layoutVersion := target }
end Stores

/-! Calls on one directory. -/
section Calls

inductive LayoutCall where
  | open_ (binaryVersion : String)
  | migrate (source target : UInt32)

variable (parse : List UInt8 → Except String StateLayoutManifest)

-- Nothing outside the directory is asked for.
def silent (question : Empty) : Empty → Prop := nomatch question

def LayoutCall.Turn : LayoutCall → Directory → Directory → Prop
  | .open_ binaryVersion =>
    StateDirectory.Turn silent Faults.all (openWithVersion parse binaryVersion)
  | .migrate source target =>
    StateDirectory.Turn silent Faults.all (StateLayout.migrate parse source target)

def layoutVersion (directory : Directory) : Option UInt32 :=
  (directory LAYOUT_FILE).bind fun bytes =>
    match parse bytes with
    | .ok manifest => some manifest.layoutVersion
    | .error _ => none

/-- The version does not go down, and a directory of a newer layout stays as it is. -/
structure Advances (before after : Directory) : Prop where
  version : ∀ stored, layoutVersion parse before = some stored →
    ∃ later, layoutVersion parse after = some later ∧ stored ≤ later
  newer : ∀ stored, layoutVersion parse before = some stored →
    CURRENT_STATE_LAYOUT_VERSION < stored → after = before

/-- A migration that passes its checks is called where no later version is stored. -/
def Upward (directory : Directory) : LayoutCall → Prop
  | .open_ _ => True
  | .migrate source target => supportedMigration source target = true →
      ∀ stored, layoutVersion parse directory = some stored → stored ≤ target

-- serde_json reads back the manifests it prints.
def ReadsBack : Prop := ∀ manifest, parse (manifestBytes manifest) = .ok manifest
end Calls

section Steps
variable {replies : (question : Question) → Reply question → Prop}
variable {parse : List UInt8 → Except String StateLayoutManifest}
variable {before middle after : Directory} {manifest : StateLayoutManifest}

theorem advances_refl : Advances parse before before where
  version stored found := ⟨stored, found, UInt32.le_refl stored⟩
  newer _ _ _ := rfl

theorem advances_trans (first : Advances parse before middle)
    (second : Advances parse middle after) : Advances parse before after where
  version stored found := by
    obtain ⟨between, there, le⟩ := first.version stored found
    obtain ⟨later, here, le'⟩ := second.version between there
    exact ⟨later, here, UInt32.le_trans le le'⟩
  newer stored found above := by
    obtain rfl := first.newer stored found above
    exact second.newer stored found above

theorem layout_version_loaded
    (found : loaded (manifestOf parse) before LAYOUT_FILE = .ok (some manifest)) :
    layoutVersion parse before = some manifest.layoutVersion := by
  obtain ⟨bytes, held, decoded⟩ := loaded_some found
  cases parsed : parse bytes with
  | ok value =>
    simp only [manifestOf, parsed, Except.mapError] at decoded
    cases decoded
    simp only [layoutVersion, held, Option.bind_some, parsed]
  | error error =>
    simp only [manifestOf, parsed, Except.mapError] at decoded
    cases decoded

theorem layout_version_absent
    (found : loaded (manifestOf parse) before LAYOUT_FILE = .ok none) :
    layoutVersion parse before = none := by
  rw [layoutVersion, loaded_none found, Option.bind_none]

/-- The manifest may be written: no later version and no newer layout is stored. -/
def Admits (parse : List UInt8 → Except String StateLayoutManifest) (directory : Directory)
    (version : UInt32) : Prop :=
  ∀ stored, layoutVersion parse directory = some stored →
    stored ≤ version ∧ stored ≤ CURRENT_STATE_LAYOUT_VERSION

theorem advances_temp (admits : Admits parse before manifest.layoutVersion) (bytes : List UInt8) :
    Advances parse before (before.put tempFile bytes) where
  version stored found := by
    refine ⟨stored, ?_, UInt32.le_refl stored⟩
    exact found
  newer stored found above := absurd (admits stored found).2 (UInt32.not_le.mpr above)

theorem advances_written (reads : ReadsBack parse)
    (admits : Admits parse before manifest.layoutVersion)
    (holds : after LAYOUT_FILE = some (manifestBytes manifest)) : Advances parse before after where
  version stored found := by
    refine ⟨manifest.layoutVersion, ?_, (admits stored found).1⟩
    simp only [layoutVersion, holds, Option.bind_some, reads manifest]
  newer stored found above := absurd (admits stored found).2 (UInt32.not_le.mpr above)

/-- Every point of a write leaves the old manifest or the new one. -/
theorem write_advances (reads : ReadsBack parse)
    (admits : Admits parse before manifest.layoutVersion) :
    Holds (Acts replies Faults.all) (fun state _ => Advances parse before state) (write manifest)
      (fun after _ => Advances parse before after) (fun after _ => Advances parse before after)
      before := by
  rw [write, holds_bind]
  apply holds_create_dir
  case here => exact advances_refl
  case refused => exact fun _ _ => advances_refl
  rw [holds_bind]
  apply holds_write_file
  case here => exact advances_refl
  case cut =>
    rintro after error (rfl | ⟨kept, _, rfl⟩)
    · exact advances_refl
    · exact advances_temp admits _
  apply holds_rename
  case here => exact advances_temp admits _
  case refused => exact fun _ _ => advances_temp admits _
  intro bytes held
  obtain rfl : manifestBytes manifest = bytes :=
    Option.some.inj ((put_self before tempFile _).symm.trans held)
  exact advances_written reads admits (put_self _ _ _)

theorem any_exists_keeps (markers : List String) {known : Directory → Prop}
    {post : Directory → Bool → Prop} {failed : Directory → StateLayoutError → Prop}
    (here : known before) (ended : ∀ present, post before present) :
    Holds (Acts replies Faults.all) (fun state _ => known state) (anyExists markers) post failed
      before := by
  induction markers with
  | nil => exact (holds_pure false).mpr (ended false)
  | cons marker rest ih =>
    rw [anyExists, holds_bind]
    apply holds_file_exists here
    split
    · exact (holds_pure true).mpr (ended true)
    · exact ih

theorem open_advances (reads : ReadsBack parse) (binaryVersion : String) :
    Holds (Acts replies Faults.all) (fun state _ => Advances parse before state)
      (openWithVersion parse binaryVersion) (fun after _ => Advances parse before after)
      (fun after _ => Advances parse before after) before := by
  rw [openWithVersion, holds_bind]
  apply holds_load_file advances_refl
  · intro found held
    cases found with
    | some manifest =>
      have version := layout_version_loaded held
      dsimp only
      split
      · exact (holds_fail _).mpr advances_refl
      · rename_i supported
        have admits : Admits parse before manifest.layoutVersion := by
          intro stored known
          obtain rfl := Option.some.inj (version.symm.trans known)
          exact ⟨UInt32.le_refl _, UInt32.not_lt.mp supported⟩
        split
        · rw [holds_bind]
          refine holds_mono (write_advances reads admits) ?_ fun _ _ kept => kept
          exact fun _ _ kept => (holds_pure _).mpr kept
        · exact (holds_pure _).mpr advances_refl
    | none =>
      have absent := layout_version_absent held
      have admits : Admits parse before CURRENT_STATE_LAYOUT_VERSION := by
        intro stored known
        cases absent.symm.trans known
      rw [holds_bind]
      apply any_exists_keeps _ advances_refl
      intro present
      rw [holds_bind]
      refine holds_mono (write_advances reads admits) ?_ fun _ _ kept => kept
      exact fun _ _ kept => (holds_pure _).mpr kept
  · exact fun _ _ => advances_refl
  · exact fun _ _ => advances_refl

theorem supported_migration_target {source target : UInt32}
    (supported : supportedMigration source target = true) :
    target ≤ CURRENT_STATE_LAYOUT_VERSION := by
  simp only [supportedMigration, Bool.and_eq_true, Bool.not_eq_true', Bool.or_eq_false_iff,
    decide_eq_false_iff_not] at supported
  exact UInt32.not_lt.mp supported.1.1.2

theorem migrate_advances (reads : ReadsBack parse) {source target : UInt32}
    (upward : Upward parse before (.migrate source target)) :
    Holds (Acts replies Faults.all) (fun state _ => Advances parse before state)
      (migrate parse source target) (fun after _ => Advances parse before after)
      (fun after _ => Advances parse before after) before := by
  rw [migrate, holds_bind, holds_ensure]
  constructor
  · intro supported
    have admits : Admits parse before target := fun stored found =>
      ⟨upward supported stored found,
        UInt32.le_trans (upward supported stored found) (supported_migration_target supported)⟩
    rw [holds_bind]
    apply holds_load_file advances_refl
    · exact fun _ _ => write_advances reads admits
    · exact fun _ _ => advances_refl
    · exact fun _ _ => advances_refl
  · exact fun _ => advances_refl

theorem call_advances (reads : ReadsBack parse) (call : LayoutCall)
    (upward : Upward parse before call) (turn : call.Turn parse before after) :
    Advances parse before after := by
  cases call with
  | open_ binaryVersion => exact turn_keeps (open_advances reads binaryVersion) turn
  | migrate source target => exact turn_keeps (migrate_advances reads upward) turn

/-- A supported migration stores its target, whatever version was stored. -/
theorem migrate_stores_target (reads : ReadsBack parse) {source target : UInt32}
    (supported : supportedMigration source target = true) {found : Option StateLayoutManifest}
    (readable : loaded (manifestOf parse) before LAYOUT_FILE = .ok found)
    (draws : (question : Question) → Reply question) :
    layoutVersion parse
      ((migrate parse source target).run (answer draws) before).2 = some target := by
  have stored : Holds (Acts (fun question reply => reply = draws question) Faults.none)
      (fun _ _ => True) (migrate parse source target)
      (fun after _ => layoutVersion parse after = some target) (fun _ _ => False) before := by
    rw [migrate, supported, ensure_true, done_bind, holds_bind]
    apply holds_load_file trivial
    case malformed => exact fun error other => nomatch readable.symm.trans other
    case refused => exact fun never => never.elim
    intro manifest _
    rw [write, holds_bind]
    apply holds_create_dir trivial
    case refused => exact fun never => never.elim
    rw [holds_bind]
    apply holds_write_file trivial
    case cut => exact fun _ _ never => never.elim
    apply holds_rename trivial
    case refused =>
      rintro (missing | never)
      · cases (put_self before tempFile _).symm.trans missing
      · exact never.elim
    intro bytes held
    obtain rfl := Option.some.inj ((put_self before tempFile _).symm.trans held)
    simp only [layoutVersion, put_self, Option.bind_some, reads _]
  have answers : Answers (answer draws) (Acts (fun question reply => reply = draws question)
      Faults.none) := answer_acts Faults.none fun _ => rfl
  obtain ⟨_, _, version⟩ := holds_run answers stored
  exact version

theorem layout_version_never_lowered (reads : ReadsBack parse)
    (history : History (LayoutCall.Turn parse) (Upward parse) before after) :
    Advances parse before after := by
  refine history_keeps (Advances parse before) ?_ history advances_refl
  intro middle later call known upward turn
  exact advances_trans known (call_advances reads call upward turn)
end Steps

/-! A reader of manifests, and what migrations do to a directory they are not for. -/

theorem manifest_separates : Separates manifestDocument := by
  have last : SeparatesFields fun pair : Option String × Unit =>
      optionalField "last_opened_by_version" pair.1 ++ [] :=
    fields_optional _ string_separates fields_nil fun _ _ found => nomatch found
  have fields : SeparatesFields fun pair : Option String × Option String × Unit =>
      optionalField "created_by_version" pair.1 ++
        (optionalField "last_opened_by_version" pair.2.1 ++ []) := by
    refine fields_optional _ string_separates last ?_
    rintro ⟨version, _⟩ item found
    cases version with
    | none => cases found
    | some text => exact ⟨_, _, by decide, (Option.some.inj found).symm⟩
  have view : Function.Injective fun manifest : StateLayoutManifest =>
      (manifest.layoutVersion.toNat,
        manifest.createdByVersion, manifest.lastOpenedByVersion, ()) := by
    intro left right same
    cases left
    cases right
    simp_all [UInt32.toNat_inj]
  have whole := separates_map (object_separates "layout_version" number_separates fields) view
  simp only [List.append_nil] at whole
  exact whole

noncomputable def sampleParse (bytes : List UInt8) : Except String StateLayoutManifest :=
  match readText bytes with
  | .ok text => readJson manifestDocument text
  | .error error => .error error

theorem sample_reads_back : ReadsBack sampleParse := by
  intro manifest
  simp only [sampleParse, manifestBytes, read_text_utf8, read_json manifest_separates]

variable (version : UInt32)

-- A directory with a manifest of some version.
def layoutAt : Directory :=
  Directory.put (fun _ => none) LAYOUT_FILE (manifestBytes ⟨version, none, none⟩)

theorem layout_at_version :
    layoutVersion sampleParse (layoutAt version) = some version := by
  simp only [layoutVersion, layoutAt, put_self, Option.bind_some,
    sample_reads_back ⟨version, none, none⟩]

theorem layout_at_loaded :
    loaded (manifestOf sampleParse) (layoutAt version) LAYOUT_FILE =
      .ok (some ⟨version, none, none⟩) := by
  simp only [loaded, layoutAt, put_self, manifestOf,
    sample_reads_back ⟨version, none, none⟩, Except.mapError, Except.map]

variable (source target stored : UInt32)

noncomputable def migrated : Directory :=
  ((StateLayout.migrate sampleParse source target).run
    (answer fun question : Empty => (nomatch question : Empty)) (layoutAt stored)).2

theorem migrated_turn :
    LayoutCall.Turn sampleParse (.migrate source target) (layoutAt stored)
      (migrated source target stored) :=
  turn_run Faults.all (fun question => nomatch question) _ _

theorem migrated_version {source target : UInt32} (stored : UInt32)
    (supported : supportedMigration source target = true) :
    layoutVersion sampleParse (migrated source target stored) = some target :=
  migrate_stores_target sample_reads_back supported (layout_at_loaded stored) _

theorem sample_migration_advances :
    layoutVersion sampleParse (migrated 0 1 0) = some 1 ∧
      Advances sampleParse (layoutAt 0) (migrated 0 1 0) := by
  refine ⟨migrated_version 0 (by decide), layout_version_never_lowered sample_reads_back ?_⟩
  refine .single ⟨.migrate 0 1, ?_, migrated_turn 0 1 0⟩
  intro _ stored found
  obtain rfl := Option.some.inj ((layout_at_version 0).symm.trans found)
  decide

/-- A migration from 0 to 0 takes a directory of layout 1 back to 0, and one from 1 to 1
rewrites the manifest of layout 5. -/
theorem migration_lowers_version :
    (∃ after, History (LayoutCall.Turn sampleParse) (fun _ _ => True) (layoutAt 1) after ∧
      layoutVersion sampleParse (layoutAt 1) = some 1 ∧
      layoutVersion sampleParse after = some 0) ∧
    ∃ after, History (LayoutCall.Turn sampleParse) (fun _ _ => True) (layoutAt 5) after ∧
      layoutVersion sampleParse (layoutAt 5) = some 5 ∧
      layoutVersion sampleParse after = some 1 := by
  constructor
  · exact ⟨migrated 0 0 1, .single ⟨_, trivial, migrated_turn 0 0 1⟩, layout_at_version 1,
      migrated_version 1 (by decide)⟩
  · exact ⟨migrated 1 1 5, .single ⟨_, trivial, migrated_turn 1 1 5⟩, layout_at_version 5,
      migrated_version 5 (by decide)⟩
end Misaka.StateLayout
