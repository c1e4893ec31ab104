import Misaka.FilePairs
import Misaka.StateStores

/-!
The stores that keep a private key beside a public descriptor. The authority store
looks for the descriptor only, and so takes a key that a crash left alone for no key
at all and writes another one; the other two stores refuse whatever a crash left
between their writes. A call does its work exactly where both files are there or
both are missing.
-/

namespace Misaka.KeyMaterial
open Bincode EffectTask FileText Identity JsonText JsonReading StateDirectory StateStores FilePairs
open JoinTransaction (authorityDocument)

/-- Self-signed certificates: the names they can be made for, and the key of each. -/
structure Certificates where
  certifiable : String → Prop
  certifies : List UInt8 → List UInt8 → Prop
  generates : ∀ name, certifiable name → ∃ certificate key, certifies certificate key

inductive StoreCall where
  | authority (networkId : Option NetworkId)
  | human (displayName : Option String)
  | tls (serverName : String)

section Calls
variable (platform : StorePlatform) (certificates : Certificates)

def Drawn : (question : Question) → question.Reply → Prop
  | .uuid, _ => True
  | .hostname, _ => True
  | .secretKey, _ => True
  | .selfSigned serverName, reply =>
    (∀ certificate key, reply = .ok (certificate, key) →
      certificates.certifies certificate key) ∧
    (certificates.certifiable serverName → ∃ pair, reply = .ok pair)

def authorityPair : FilePair where
  first := AUTHORITY_KEY_FILE
  second := AUTHORITY_FILE
  fits secret descriptor := ∃ key authority, secret = key.toList ∧
    descriptor = authorityBytes authority ∧ platform.publicKey key = authority.authorityPublicKey

def humanPair : FilePair where
  first := HUMAN_KEY_FILE
  second := HUMAN_FILE
  fits secret descriptor := ∃ key human, secret = key.toList ∧
    descriptor = humanBytes human ∧ platform.publicKey key = human.publicKey

def tlsPair : FilePair where
  first := CERTIFICATE_FILE
  second := TLS_KEY_FILE
  fits := certificates.certifies

def storePairs : List FilePair := [authorityPair platform, humanPair platform, tlsPair certificates]

def keyFiles : List String := [AUTHORITY_KEY_FILE, HUMAN_KEY_FILE, TLS_KEY_FILE]

def StoreCall.pair : StoreCall → FilePair
  | .authority _ => authorityPair platform
  | .human _ => humanPair platform
  | .tls _ => tlsPair certificates

def StoreCall.Turn : StoreCall → Directory → Directory → Prop
  | .authority networkId =>
    StateDirectory.Turn (Drawn certificates) Faults.none (initAuthority platform networkId)
  | .human displayName =>
    StateDirectory.Turn (Drawn certificates) Faults.none (loadOrInitHuman platform displayName)
  | .tls serverName =>
    StateDirectory.Turn (Drawn certificates) Faults.none (loadOrInitTls serverName)

/-! What a call returns is in the files, with a private key that belongs to it. -/

variable (directory : Directory)

def AuthorityHeld (authority : NetworkAuthority) : Prop :=
  ∃ key, loaded (keyOf AuthorityStoreError.invalidKeyLength) directory AUTHORITY_KEY_FILE =
      .ok (some key) ∧
    loaded (authorityOf platform) directory AUTHORITY_FILE = .ok (some authority) ∧
    platform.publicKey key = authority.authorityPublicKey

def HumanHeld (held : HumanIdentity × Bytes 32) : Prop :=
  loaded (keyOf HumanStoreError.invalidKeyLength) directory HUMAN_KEY_FILE = .ok (some held.2) ∧
    loaded (humanOf platform) directory HUMAN_FILE = .ok (some held.1) ∧
    platform.publicKey held.2 = held.1.publicKey

def TlsHeld (held : List UInt8 × List UInt8) : Prop :=
  directory CERTIFICATE_FILE = some held.1 ∧ directory TLS_KEY_FILE = some held.2 ∧
    certificates.certifies held.1 held.2

def Ends {Err Value : Type} (outcome : Except Err Value × Directory)
    (held : Directory → Value → Prop) : Prop :=
  ∃ value, outcome.1 = .ok value ∧ held outcome.2 value

def StoreCall.Succeeds (draws : (question : Question) → question.Reply) (directory : Directory) :
    StoreCall → Prop
  | .authority networkId =>
    Ends ((initAuthority platform networkId).run (answer draws) directory)
      (AuthorityHeld platform)
  | .human displayName =>
    Ends ((loadOrInitHuman platform displayName).run (answer draws) directory)
      (HumanHeld platform)
  | .tls serverName =>
    Ends ((loadOrInitTls serverName).run (answer draws) directory) (TlsHeld certificates)

/-- No private key is replaced, wherever the call stops, and the call that runs to its end
succeeds with a key and a descriptor that match. -/
structure Sound (call : StoreCall) (directory : Directory) : Prop where
  keeps : ∀ after, call.Turn platform certificates directory after →
    ∀ file ∈ keyFiles, ∀ bytes, directory file = some bytes → after file = some bytes
  succeeds : ∀ draws, (∀ question, Drawn certificates question (draws question)) →
    call.Succeeds platform certificates draws directory

-- serde_json reads back the descriptors it prints.
structure ReadsBack : Prop where
  authority : ∀ authority,
    platform.authority (jsonText authorityDocument authority).toList = .ok authority
  human : ∀ human, platform.human (jsonText humanDocument human).toList = .ok human
end Calls

section Steps
variable {platform : StorePlatform} {certificates : Certificates}
variable {before : Directory}

theorem store_pairs_distinct {pair : FilePair} (member : pair ∈ storePairs platform certificates) :
    pair.second ≠ pair.first := by
  simp only [storePairs, List.mem_cons, List.not_mem_nil, or_false] at member
  rcases member with rfl | rfl | rfl
  · exact (by decide : AUTHORITY_FILE ≠ AUTHORITY_KEY_FILE)
  · exact (by decide : HUMAN_FILE ≠ HUMAN_KEY_FILE)
  · exact (by decide : TLS_KEY_FILE ≠ CERTIFICATE_FILE)

theorem store_pairs_apart {pair other : FilePair} (member : pair ∈ storePairs platform certificates)
    (member' : other ∈ storePairs platform certificates) :
    other = pair ∨ pair.first ∉ other.names ∧ pair.second ∉ other.names := by
  simp only [storePairs, List.mem_cons, List.not_mem_nil, or_false] at member member'
  rcases member with rfl | rfl | rfl <;> rcases member' with rfl | rfl | rfl <;>
    simp only [authorityPair, humanPair, tlsPair, FilePair.names, List.mem_cons, List.not_mem_nil,
      or_false, not_or, FilePair.mk.injEq] <;> tauto

variable {key : Bytes 32}

theorem authority_held (reads : ReadsBack platform) {authority : NetworkAuthority}
    (keyed : before AUTHORITY_KEY_FILE = some key.toList)
    (described : before AUTHORITY_FILE = some (authorityBytes authority))
    (matching : platform.publicKey key = authority.authorityPublicKey) :
    AuthorityHeld platform before authority := by
  refine ⟨key, ?_, ?_, matching⟩
  · rw [loaded_held keyed, key_of_bytes]
    rfl
  · have read : authorityOf platform (authorityBytes authority) = .ok authority :=
      text_of_json (reads.authority authority)
    rw [loaded_held described, read]
    rfl

theorem human_held (reads : ReadsBack platform) {human : HumanIdentity}
    (keyed : before HUMAN_KEY_FILE = some key.toList)
    (described : before HUMAN_FILE = some (humanBytes human))
    (matching : platform.publicKey key = human.publicKey) :
    HumanHeld platform before (human, key) := by
  refine ⟨?_, ?_, matching⟩
  · rw [loaded_held keyed, key_of_bytes]
    rfl
  · have read : humanOf platform (humanBytes human) = .ok human :=
      text_of_json (reads.human human)
    rw [loaded_held described, read]
    rfl

abbrev Consistent (platform : StorePlatform) (certificates : Certificates)
    (directory : Directory) : Prop :=
  ∀ pair ∈ storePairs platform certificates, Ordered directory pair

abbrev Working (platform : StorePlatform) (certificates : Certificates) (before : Directory)
    (call : StoreCall) (state : Directory) : Prop :=
  Progress (storePairs platform certificates) before (call.pair platform certificates) state

theorem pair_member (call : StoreCall) :
    call.pair platform certificates ∈ storePairs platform certificates := by
  cases call <;> simp [StoreCall.pair, storePairs]

theorem write_store_pair {Err Value : Type} {io : String → Err} (call : StoreCall)
    {earlier later : List UInt8} (consistent : Consistent platform certificates before)
    (absent : before (call.pair platform certificates).second = none)
    (fits : (call.pair platform certificates).fits earlier later) (value : Value) :
    Holds (Acts (Drawn certificates) Faults.none)
      (fun state _ => Working platform certificates before call state)
      (do
        writeFile (call.pair platform certificates).first earlier io
        writeFile (call.pair platform certificates).second later io
        pure value)
      (fun after returned => returned = value ∧ Working platform certificates before call after ∧
        after = (before.put (call.pair platform certificates).first earlier).put
          (call.pair platform certificates).second later)
      (fun _ _ => False) before :=
  write_pair_progress (store_pairs_distinct (pair_member call))
    (fun _ member => store_pairs_apart (pair_member call) member) consistent absent fits value

variable {bytes : List UInt8}

theorem authority_described (reads : ReadsBack platform)
    (consistent : Consistent platform certificates before)
    (described : before AUTHORITY_FILE = some bytes) :
    ∃ authority, loaded (authorityOf platform) before AUTHORITY_FILE = .ok (some authority) ∧
      AuthorityHeld platform before authority := by
  have ordered : Ordered before (authorityPair platform) := consistent _ List.mem_cons_self
  obtain ⟨secret, keyed, fits⟩ := ordered bytes described
  have ⟨key, authority, same, same', matching⟩ := fits
  rw [same] at keyed
  rw [same'] at described
  have held := authority_held reads keyed described matching
  have ⟨_, _, read, _⟩ := held
  exact ⟨authority, read, held⟩

variable {known : Directory → Prop}

theorem holds_draw_network_id {networkId : Option NetworkId} {post : Directory → NetworkId → Prop}
    {failed : Directory → AuthorityStoreError → Prop} (here : known before)
    (drawn : ∀ network, post before network) :
    Holds (Acts (Drawn certificates) Faults.none) (fun state _ => known state)
      (drawNetworkId networkId) post failed before := by
  cases networkId with
  | some network => exact (holds_pure network).mpr (drawn network)
  | none =>
    rw [drawNetworkId, holds_bind]
    apply holds_ask here
    exact fun uuid _ => (holds_pure _).mpr (drawn ⟨uuid⟩)

variable (reads : ReadsBack platform)
include reads

theorem init_authority_progress (networkId : Option NetworkId)
    (consistent : Consistent platform certificates before) :
    Holds (Acts (Drawn certificates) Faults.none)
      (fun state _ => Working platform certificates before (.authority networkId) state)
      (initAuthority platform networkId)
      (fun after authority => Working platform certificates before (.authority networkId) after ∧
        AuthorityHeld platform after authority)
      (fun _ _ => False) before := by
  have start : Working platform certificates before (.authority networkId) before :=
    progress_start consistent
  rw [initAuthority, loadAuthority, holds_bind]
  apply holds_load_file
  case here => exact start
  case refused => exact fun never => never.elim
  case malformed =>
    intro error failed
    cases described : before AUTHORITY_FILE with
    | none =>
      rw [loaded_missing described] at failed
      cases failed
    | some bytes =>
      obtain ⟨authority, read, _⟩ := authority_described reads consistent described
      cases read.symm.trans failed
  intro found read
  cases found with
  | some authority =>
    obtain ⟨bytes, described, _⟩ := loaded_some read
    obtain ⟨_, read', held⟩ := authority_described reads consistent described
    cases read.symm.trans read'
    exact (holds_pure authority).mpr ⟨start, held⟩
  | none =>
    have absent := loaded_none read
    rw [holds_bind]
    apply holds_create_dir
    case here => exact start
    case refused => exact fun never => never.elim
    rw [holds_bind]
    apply holds_draw_network_id start
    intro network
    rw [holds_bind]
    apply holds_ask
    case here => exact start
    intro key _
    refine holds_mono (write_store_pair (.authority networkId) consistent absent
      ⟨key, ⟨network, platform.publicKey key⟩, rfl, rfl, rfl⟩ _) ?_ fun _ _ never => never
    rintro after _ ⟨rfl, progress, rfl⟩
    have apart : AUTHORITY_KEY_FILE ≠ AUTHORITY_FILE := by decide
    refine ⟨progress, authority_held reads ?_ (put_self _ _ _) rfl⟩
    exact (put_other apart).trans (put_self _ _ _)

theorem human_described (consistent : Consistent platform certificates before)
    (described : before HUMAN_FILE = some bytes) : ∃ held, HumanHeld platform before held := by
  have ordered : Ordered before (humanPair platform) :=
    consistent _ (List.mem_cons_of_mem _ List.mem_cons_self)
  obtain ⟨secret, keyed, fits⟩ := ordered bytes described
  have ⟨key, human, same, same', matching⟩ := fits
  rw [same] at keyed
  rw [same'] at described
  exact ⟨(human, key), human_held reads keyed described matching⟩

theorem load_human_with_key_spec (consistent : Consistent platform certificates before)
    (start : known before) :
    Holds (Acts (Drawn certificates) Faults.none) (fun state _ => known state)
      (loadHumanWithKey platform)
      (fun after found => after = before ∧ (∀ held, found = some held → HumanHeld platform before
        held) ∧ (found = none → before HUMAN_FILE = none))
      (fun _ _ => False) before := by
  rw [loadHumanWithKey, loadHuman, holds_bind]
  apply holds_load_file
  case here => exact start
  case refused => exact fun never => never.elim
  case malformed =>
    intro error failed
    cases described : before HUMAN_FILE with
    | none =>
      rw [loaded_missing described] at failed
      cases failed
    | some bytes =>
      obtain ⟨held, _, read, _⟩ := human_described reads consistent described
      cases read.symm.trans failed
  intro found read
  cases found with
  | none => exact (holds_pure none).mpr ⟨rfl, fun _ => nofun, fun _ => loaded_none read⟩
  | some human =>
    obtain ⟨bytes, described, _⟩ := loaded_some read
    obtain ⟨⟨human', key⟩, keyed, read', matching⟩ := human_described reads consistent described
    obtain rfl : human' = human := by cases read.symm.trans read'; rfl
    rw [loadHumanKey, holds_bind]
    apply holds_load_file
    case here => exact start
    case refused => exact fun never => never.elim
    case malformed => exact fun error failed => nomatch keyed.symm.trans failed
    intro found again
    cases keyed.symm.trans again
    have same : decide (platform.publicKey key = human'.publicKey) = true :=
      decide_eq_true matching
    dsimp only
    rw [same, ensure_true, done_bind]
    refine (holds_pure _).mpr ⟨rfl, ?_, nofun⟩
    rintro _ ⟨rfl⟩
    exact ⟨keyed, read, matching⟩

theorem load_or_init_human_progress (displayName : Option String)
    (consistent : Consistent platform certificates before) :
    Holds (Acts (Drawn certificates) Faults.none)
      (fun state _ => Working platform certificates before (.human displayName) state)
      (loadOrInitHuman platform displayName)
      (fun after held => Working platform certificates before (.human displayName) after ∧
        HumanHeld platform after held ∧ Whole before (humanPair platform))
      (fun after _ => Working platform certificates before (.human displayName) after ∧
        ¬ Whole before (humanPair platform)) before := by
  have start : Working platform certificates before (.human displayName) before :=
    progress_start consistent
  rw [loadOrInitHuman, holds_bind]
  refine holds_mono (load_human_with_key_spec reads consistent start) ?_ fun _ _ never => never.elim
  rintro middle found ⟨same, present, missing⟩
  obtain rfl : before = middle := same.symm
  cases found with
  | some held =>
    have holds := present held rfl
    obtain ⟨secret, keyed, _⟩ := loaded_some holds.1
    obtain ⟨descriptor, described, _⟩ := loaded_some holds.2.1
    exact (holds_pure held).mpr ⟨start, holds, whole_both keyed described⟩
  | none =>
    have absent := missing rfl
    rw [holds_bind]
    apply holds_file_exists
    case here => exact start
    rw [holds_bind]
    apply holds_file_exists
    case here => exact start
    rw [absent, holds_bind]
    cases keyed : before HUMAN_KEY_FILE with
    | some secret =>
      exact (holds_fail _).mpr ⟨start, not_whole_alone keyed absent⟩
    | none =>
      apply (holds_done ()).mpr
      rw [holds_bind]
      apply holds_create_dir
      case here => exact start
      case refused => exact fun never => never.elim
      rw [holds_bind]
      apply holds_ask
      case here => exact start
      intro key _
      rw [holds_bind]
      apply holds_ask
      case here => exact start
      intro uuid _
      refine holds_mono (write_store_pair (.human displayName) consistent absent
        ⟨key, ⟨⟨uuid⟩, _, platform.publicKey key⟩, rfl, rfl, rfl⟩ _) ?_
        fun _ _ never => never.elim
      rintro after _ ⟨rfl, progress, rfl⟩
      have apart : HUMAN_KEY_FILE ≠ HUMAN_FILE := by decide
      refine ⟨progress, human_held reads ?_ (put_self _ _ _) rfl, whole_neither keyed absent⟩
      exact (put_other apart).trans (put_self _ _ _)

omit reads

theorem holds_load_tls {certificate key : List UInt8}
    {post : Directory → List UInt8 × List UInt8 → Prop} {failed : Directory → TlsStoreError → Prop}
    {disappeared : TlsStoreError} (here : known before)
    (certified : before CERTIFICATE_FILE = some certificate)
    (keyed : before TLS_KEY_FILE = some key) (ended : post before (certificate, key)) :
    Holds (Acts (Drawn certificates) Faults.none) (fun state _ => known state)
      (do
        let existing ← loadTls
        orFail existing disappeared) post failed before := by
  rw [loadTls, holds_bind, holds_bind]
  apply holds_file_exists here
  rw [holds_bind]
  apply holds_file_exists here
  rw [certified, keyed]
  dsimp only [Option.isSome]
  rw [holds_bind]
  apply holds_read_file here
  case refused =>
    rintro (missing | never)
    · cases certified.symm.trans missing
    · exact never.elim
  intro found same
  cases certified.symm.trans same
  rw [holds_bind]
  apply holds_read_file here
  case refused =>
    rintro (missing | never)
    · cases keyed.symm.trans missing
    · exact never.elim
  intro found same
  cases keyed.symm.trans same
  exact (holds_pure _).mpr ((holds_done _).mpr ended)

theorem load_or_init_tls_progress (serverName : String)
    (consistent : Consistent platform certificates before) :
    Holds (Acts (Drawn certificates) Faults.none)
      (fun state _ => Working platform certificates before (.tls serverName) state)
      (loadOrInitTls serverName)
      (fun after held => Working platform certificates before (.tls serverName) after ∧
        TlsHeld certificates after held ∧ Whole before (tlsPair certificates))
      (fun after _ => Working platform certificates before (.tls serverName) after ∧
        (certificates.certifiable serverName → ¬ Whole before (tlsPair certificates))) before := by
  have start : Working platform certificates before (.tls serverName) before :=
    progress_start consistent
  rw [loadOrInitTls, holds_bind]
  apply holds_file_exists
  case here => exact start
  rw [holds_bind]
  apply holds_file_exists
  case here => exact start
  have ordered : Ordered before (tlsPair certificates) := consistent _ (pair_member (.tls serverName))
  cases keyed : before TLS_KEY_FILE with
  | some key =>
    obtain ⟨certificate, certified, fits⟩ := ordered key keyed
    have held : before CERTIFICATE_FILE = some certificate := certified
    rw [held]
    apply holds_load_tls start held keyed
    exact ⟨start, ⟨held, keyed, fits⟩, whole_both certified keyed⟩
  | none =>
    cases certified : before CERTIFICATE_FILE with
    | some certificate =>
      exact (holds_fail _).mpr ⟨start, fun _ => not_whole_alone certified keyed⟩
    | none =>
      dsimp only [Option.isSome]
      rw [holds_bind]
      apply holds_create_dir
      case here => exact start
      case refused => exact fun never => never.elim
      rw [holds_bind]
      apply holds_ask
      case here => exact start
      intro generated drawn
      rw [holds_bind, holds_or_error]
      constructor
      · rintro ⟨certificate, key⟩ equal
        refine holds_mono (write_store_pair (.tls serverName) consistent keyed
          (drawn.1 certificate key equal) _) ?_ fun _ _ never => never.elim
        rintro after _ ⟨rfl, progress, rfl⟩
        have apart : CERTIFICATE_FILE ≠ TLS_KEY_FILE := by decide
        refine ⟨progress, ⟨?_, put_self _ _ _, drawn.1 certificate key equal⟩,
          whole_neither certified keyed⟩
        exact (put_other apart).trans (put_self _ _ _)
      · intro error equal
        refine ⟨start, fun certifiable => ?_⟩
        obtain ⟨pair, made⟩ := drawn.2 certifiable
        cases equal.symm.trans made

/-- Every point of every call. -/
theorem call_progress (reads : ReadsBack platform) (call : StoreCall) {after : Directory}
    (consistent : Consistent platform certificates before)
    (turn : call.Turn platform certificates before after) :
    Working platform certificates before call after := by
  cases call with
  | authority networkId =>
    refine turn_keeps (holds_mono (init_authority_progress reads networkId consistent) ?_ ?_) turn
    · exact fun _ _ ended => ended.1
    · exact fun _ _ never => never.elim
  | human displayName =>
    refine turn_keeps (holds_mono (load_or_init_human_progress reads displayName consistent)
      ?_ ?_) turn
    · exact fun _ _ ended => ended.1
    · exact fun _ _ ended => ended.1
  | tls serverName =>
    refine turn_keeps (holds_mono (load_or_init_tls_progress serverName consistent) ?_ ?_) turn
    · exact fun _ _ ended => ended.1
    · exact fun _ _ ended => ended.1

theorem history_consistent (reads : ReadsBack platform) {directory : Directory}
    (history : History (StoreCall.Turn platform certificates) (fun _ _ => True) (fun _ => none)
      directory) : Consistent platform certificates directory := by
  refine history_keeps (Consistent platform certificates) ?_ history ?_
  · intro middle later call consistent _ turn
    exact (call_progress reads call consistent turn).ordered
  · intro pair _ later held
    cases held

theorem sound_of_whole (reads : ReadsBack platform) (call : StoreCall)
    (named : ∀ serverName, call = .tls serverName → certificates.certifiable serverName)
    (consistent : Consistent platform certificates before)
    (whole : Whole before (call.pair platform certificates)) :
    Sound platform certificates call before where
  keeps after turn file _ bytes held :=
    (call_progress reads call consistent turn).kept whole file bytes held
  succeeds draws drawn := by
    have answers := answer_acts Faults.none drawn
    cases call with
    | authority networkId =>
      refine holds_run answers (holds_mono
        (init_authority_progress reads networkId consistent) ?_ ?_)
      · exact fun _ _ ended => ended.2
      · exact fun _ _ never => never
    | human displayName =>
      refine holds_run answers (holds_mono
        (load_or_init_human_progress reads displayName consistent) ?_ ?_)
      · exact fun _ _ ended => ended.2.1
      · exact fun _ _ ended => ended.2 whole
    | tls serverName =>
      refine holds_run answers (holds_mono
        (@load_or_init_tls_progress platform _ _ serverName consistent) ?_ ?_)
      · exact fun _ _ ended => ended.2.1
      · exact fun _ _ ended => ended.2 (named serverName rfl) whole

/-- Without a descriptor the authority store writes a new key, whatever key is there. -/
theorem authority_key_turn (networkId : Option NetworkId) (key : Bytes 32)
    (absent : before AUTHORITY_FILE = none) :
    (StoreCall.authority networkId).Turn platform certificates before
      (before.put AUTHORITY_KEY_FILE key.toList) := by
  have drawnNetwork : ∃ network, Reaches (Acts (Drawn certificates) Faults.none)
      (drawNetworkId networkId) before (.done network) before := by
    cases networkId with
    | some network => exact ⟨network, .here _ _⟩
    | none => exact ⟨⟨Bytes.fill 16 0⟩, reaches_bind (reaches_ask trivial) (.here _ _)⟩
  obtain ⟨network, drawn⟩ := drawnNetwork
  have drawnKey : Reaches (Acts (Drawn certificates) Faults.none)
      (ask Question.secretKey : StoreTask AuthorityStoreError (Bytes 32)) before (.done key)
      before := reaches_ask trivial
  exact ⟨_, reaches_bind (reaches_load_file (loaded_missing absent))
    (reaches_bind reaches_create_dir (reaches_bind drawn (reaches_bind drawnKey
      (reaches_within reaches_write_file))))⟩

theorem draws_exist (certificates : Certificates) :
    ∃ draws : (question : Question) → question.Reply,
      ∀ question, Drawn certificates question (draws question) := by
  apply Classical.skolem.mp
  intro question
  cases question with
  | uuid => exact ⟨Bytes.fill 16 0, trivial⟩
  | hostname => exact ⟨"", trivial⟩
  | secretKey => exact ⟨Bytes.fill 32 0, trivial⟩
  | selfSigned serverName =>
    by_cases certifiable : certificates.certifiable serverName
    · obtain ⟨certificate, key, certifies⟩ := certificates.generates serverName certifiable
      refine ⟨.ok (certificate, key), ?_, fun _ => ⟨_, rfl⟩⟩
      rintro _ _ ⟨rfl⟩
      exact certifies
    · refine ⟨.error "", ?_, fun able => absurd able certifiable⟩
      exact fun _ _ equal => nomatch equal

theorem whole_of_sound (reads : ReadsBack platform) (call : StoreCall)
    (consistent : Consistent platform certificates before)
    (sound : Sound platform certificates call before) :
    Whole before (call.pair platform certificates) := by
  obtain ⟨draws, drawn⟩ := draws_exist certificates
  have answers := answer_acts Faults.none drawn
  cases call with
  | authority networkId =>
    cases described : before AUTHORITY_FILE with
    | some descriptor =>
      have ordered : Ordered before (authorityPair platform) :=
        consistent _ (pair_member (.authority networkId))
      obtain ⟨secret, keyed, _⟩ := ordered descriptor described
      exact whole_both keyed described
    | none =>
      cases keyed : before AUTHORITY_KEY_FILE with
      | none => exact whole_neither keyed described
      | some secret =>
        have other : ∃ key : Bytes 32, key.toList ≠ secret := by
          by_cases zeros : (Bytes.fill 32 0).toList = secret
          · refine ⟨Bytes.fill 32 1, ?_⟩
            rw [← zeros]
            decide
          · exact ⟨Bytes.fill 32 0, zeros⟩
        obtain ⟨key, different⟩ := other
        have kept := sound.keeps _ (authority_key_turn networkId key described)
          AUTHORITY_KEY_FILE List.mem_cons_self secret keyed
        exact absurd (Option.some.inj kept) different
  | human displayName =>
    obtain ⟨held, succeeded, _⟩ := sound.succeeds draws drawn
    have run := run_reaches answers (loadOrInitHuman platform displayName) before
    rw [succeeded] at run
    exact (reaches_done (load_or_init_human_progress reads displayName consistent) run).2.2
  | tls serverName =>
    obtain ⟨held, succeeded, _⟩ := sound.succeeds draws drawn
    have run := run_reaches answers (loadOrInitTls serverName) before
    rw [succeeded] at run
    exact (reaches_done (load_or_init_tls_progress serverName consistent) run).2.2

theorem key_store_sound_iff (reads : ReadsBack platform) (call : StoreCall)
    (named : ∀ serverName, call = .tls serverName → certificates.certifiable serverName)
    {directory : Directory}
    (history : History (StoreCall.Turn platform certificates) (fun _ _ => True) (fun _ => none)
      directory) :
    Sound platform certificates call directory ↔
      Whole directory (call.pair platform certificates) := by
  have consistent := history_consistent reads history
  exact ⟨whole_of_sound reads call consistent, sound_of_whole reads call named consistent⟩
end Steps

/-! What a crash between the two writes leads to. -/

theorem authority_separates : Separates authorityDocument := by
  have fields := fields_cons "authority_public_key" byte_array_separates fields_nil
  have view : Function.Injective fun authority : NetworkAuthority =>
      (authority.networkId.display, authority.authorityPublicKey.toList, ()) := by
    rintro ⟨⟨uuid⟩, key⟩ ⟨⟨uuid'⟩, key'⟩ same
    simp only [Prod.mk.injEq, and_true] at same
    obtain rfl : uuid = uuid' := UniqueDecoding.uuid_text_injective same.1
    rw [Bytes.ext same.2]
  have whole := separates_map (object_separates "network_id" string_separates fields) view
  exact whole

theorem human_separates : Separates humanDocument := by
  have fields := fields_cons "display_name" string_separates
    (fields_cons "public_key" byte_array_separates fields_nil)
  have view : Function.Injective fun human : HumanIdentity =>
      (uuidText human.id.uuid, human.displayName, human.publicKey.toList, ()) := by
    rintro ⟨⟨uuid⟩, name, key⟩ ⟨⟨uuid'⟩, name', key'⟩ same
    simp only [Prod.mk.injEq, and_true] at same
    obtain rfl : uuid = uuid' := UniqueDecoding.uuid_text_injective same.1
    rw [same.2.1, Bytes.ext same.2.2]
  have whole := separates_map (object_separates "id" string_separates fields) view
  exact whole

noncomputable def samplePlatform : StorePlatform where
  hostPlatform := "linux x86_64"
  binaryVersion := "0.1.0"
  publicKey secret := secret
  identity _ := .error "not read here"
  authority := readJson authorityDocument
  human := readJson humanDocument

theorem sample_reads_back : ReadsBack samplePlatform where
  authority := read_json authority_separates
  human := read_json human_separates

-- A certificate that is a tag before its key, for names in ASCII.
def sampleCertificates : Certificates where
  certifiable serverName := ∀ char ∈ serverName.toList, char.toNat < 128
  certifies certificate key := certificate = 48 :: key
  generates _ _ := ⟨[48], [], rfl⟩

def emptyDirectory : Directory := fun _ => none

theorem sample_tls_sound :
    Sound samplePlatform sampleCertificates (.tls "sister-42") emptyDirectory := by
  refine (key_store_sound_iff sample_reads_back (.tls "sister-42") ?_ .refl).mpr rfl
  rintro _ ⟨rfl⟩
  exact (by decide : ∀ char ∈ "sister-42".toList, char.toNat < 128)

theorem human_key_turn (key : Bytes 32) :
    (StoreCall.human none).Turn samplePlatform sampleCertificates emptyDirectory
      (emptyDirectory.put HUMAN_KEY_FILE key.toList) := by
  have drawnKey : Reaches (Acts (Drawn sampleCertificates) Faults.none)
      (ask Question.secretKey : StoreTask HumanStoreError (Bytes 32)) emptyDirectory (.done key)
      emptyDirectory := reaches_ask trivial
  have drawnUuid : Reaches (Acts (Drawn sampleCertificates) Faults.none)
      (ask Question.uuid : StoreTask HumanStoreError (Bytes 16)) emptyDirectory
      (.done (Bytes.fill 16 0)) emptyDirectory := reaches_ask trivial
  exact ⟨_, reaches_bind (reaches_bind (reaches_load_file rfl) (.here _ _))
    (reaches_bind reaches_file_exists (reaches_bind reaches_file_exists
      (reaches_bind (.here (.done ()) _) (reaches_bind reaches_create_dir (reaches_bind drawnKey
        (reaches_bind drawnUuid (reaches_within reaches_write_file)))))))⟩

/-- A call stops after it has written its key. The next call of the authority store
writes another key over it, and every later call of the human store fails. -/
theorem half_written_keys :
    (∃ directory after,
      History (StoreCall.Turn samplePlatform sampleCertificates) (fun _ _ => True) (fun _ => none)
        directory ∧
      (StoreCall.authority none).Turn samplePlatform sampleCertificates directory after ∧
      directory AUTHORITY_KEY_FILE = some (Bytes.fill 32 1).toList ∧
      after AUTHORITY_KEY_FILE = some (Bytes.fill 32 2).toList) ∧
    ∃ directory,
      History (StoreCall.Turn samplePlatform sampleCertificates) (fun _ _ => True) (fun _ => none)
        directory ∧
      ∀ displayName, ¬ Sound samplePlatform sampleCertificates (.human displayName) directory := by
  constructor
  · refine ⟨emptyDirectory.put AUTHORITY_KEY_FILE (Bytes.fill 32 1).toList, _,
      .single ⟨_, trivial, authority_key_turn none _ rfl⟩, authority_key_turn none _ ?_,
      put_self _ _ _, put_self _ _ _⟩
    exact put_other (by decide)
  · refine ⟨emptyDirectory.put HUMAN_KEY_FILE (Bytes.fill 32 1).toList,
      .single ⟨_, trivial, human_key_turn _⟩, fun displayName sound => ?_⟩
    have consistent := history_consistent sample_reads_back
      (.single ⟨_, trivial, human_key_turn (Bytes.fill 32 1)⟩)
    have absent : emptyDirectory.put HUMAN_KEY_FILE (Bytes.fill 32 1).toList HUMAN_FILE = none :=
      put_other (by decide)
    exact not_whole_alone (put_self _ _ _) absent
      (whole_of_sound sample_reads_back (.human displayName) consistent sound)
end Misaka.KeyMaterial
