import Misaka.AuthorizationStores
import Misaka.JsonReading
import Misaka.UniqueDecoding

/-!
The file of spent nonces over its whole life. Calls of `record` follow each
other; one that is killed leaves the file as it was, or the first part of the
text it was writing. serde_json's reader is a parameter `decode`: it reads back
what was written, and accepts nothing that is not a whole JSON document.
-/

namespace Misaka.NonceCrash
open Bincode FileText Identity JsonText JsonReading AuthorizationStores

/-! The text. -/

def entryDocument (entry : NonceEntry) : Document :=
  object [
    field "network_id" (string entry.networkId.display),
    field "nonce" (byteArray entry.nonce.toList),
    field "expires_at" (number entry.expiresAt.toNat)]

def entriesDocument (entries : List NonceEntry) : Document := array (entries.map entryDocument)

theorem entries_enclose {entries : List NonceEntry} {item : Document}
    (member : item ∈ entries.map entryDocument) (indent : Nat) : Encloses (item indent) := by
  obtain ⟨entry, _, rfl⟩ := List.mem_map.mp member
  apply object_encloses
  intro item member
  simp only [List.mem_cons, List.not_mem_nil, or_false] at member
  rcases member with rfl | rfl | rfl
  · exact field_encloses _ (string_encloses _)
  · exact field_encloses _ (byte_array_encloses _)
  · exact field_encloses _ (number_encloses _)

theorem entry_separates : Separates entryDocument := by
  have number64 : Separates fun value : UInt64 => number value.toNat :=
    separates_map number_separates fun _ _ same => UInt64.toNat_inj.mp same
  have fields := fields_cons "nonce" byte_array_separates
    (fields_cons "expires_at" number64 fields_nil)
  have view : Function.Injective fun entry : NonceEntry =>
      (uuidText entry.networkId.uuid, entry.nonce.toList, entry.expiresAt, ()) := by
    rintro ⟨⟨uuid⟩, nonce, expiry⟩ ⟨⟨uuid'⟩, nonce', expiry'⟩ same
    simp only [Prod.mk.injEq, and_true] at same
    obtain rfl : uuid = uuid' := UniqueDecoding.uuid_text_injective same.1
    rw [Bytes.ext same.2.1, same.2.2]
  have whole := separates_map (object_separates "network_id" string_separates fields) view
  exact whole

/-! `AuthorizationNonceStore::record` on the bytes of its file. -/
section Store
variable (decode : List Char → Except String (List NonceEntry))

abbrev NonceFile := Option (List UInt8)

def loadNonces : NonceFile → Except NonceStoreError (List NonceEntry)
  | none => .ok []
  | some bytes =>
    match readText bytes with
    | .ok text => (decode text).mapError .json
    | .error error => .error (.io error)

def saveNonces (entries : List NonceEntry) : NonceFile :=
  some (utf8 (jsonText entriesDocument entries))

structure Call where
  authorization : CommandAuthorization
  now : UInt64

-- The entries that the call writes.
def Call.record (call : Call) (file : NonceFile) : Except NonceStoreError (List NonceEntry) :=
  if call.authorization.networkId ≠ call.authorization.membership.networkId then
    .error .networkMismatch
  else do
    let entries ← loadNonces decode file
    let live := retained entries call.now
    if live.any (·.matches call.authorization) then .error .replay
    else .ok (live ++ [nonceEntry call.authorization])

/-- A call with its answer, or with none if it was killed. -/
inductive Happens (before : NonceFile) (call : Call) :
    Option (Except NonceStoreError Unit) → NonceFile → Prop where
  | refused {error : NonceStoreError} (refusal : call.record decode before = .error error) :
      Happens before call (some (.error error)) before
  | recorded {entries : List NonceEntry} (admitted : call.record decode before = .ok entries) :
      Happens before call (some (.ok ())) (saveNonces entries)
  | stopped : Happens before call none before
  | crashed {entries : List NonceEntry} {bytes : List UInt8}
      (admitted : call.record decode before = .ok entries)
      (part : bytes <+: utf8 (jsonText entriesDocument entries))
      (short : bytes ≠ utf8 (jsonText entriesDocument entries)) :
      Happens before call none (some bytes)

inductive History (start : NonceFile) : List Call → NonceFile → Prop where
  | start : History start [] start
  | next {calls : List Call} {before after : NonceFile} {call : Call}
      {answer : Option (Except NonceStoreError Unit)} (earlier : History start calls before)
      (happens : Happens decode before call answer after) : History start (calls ++ [call]) after

/-- `from_str` accepts whole JSON documents only. -/
def AcceptsDocuments : Prop := ∀ text entries, decode text = .ok entries → Complete text

def ReadsBack : Prop :=
  ∀ entries, decode (jsonText entriesDocument entries).toList = .ok entries

-- No call was made at a time past the expiry.
def Unexpired (authorization : CommandAuthorization) (calls : List Call) : Prop :=
  ∀ call ∈ calls, call.now ≤ authorization.expiresAt

def SameNonce (left right : CommandAuthorization) : Prop :=
  left.networkId = right.networkId ∧ left.nonce = right.nonce
end Store

section Crashes
variable {decode : List Char → Except String (List NonceEntry)}
variable {before after : NonceFile} {call : Call} {entries : List NonceEntry}

theorem load_saved (reads : ReadsBack decode) :
    loadNonces decode (saveNonces entries) = .ok entries := by
  simp only [loadNonces, saveNonces, read_text_utf8, reads entries]
  rfl

/-- A text that was cut short cannot be read. -/
theorem load_cut (documents : AcceptsDocuments decode) {bytes : List UInt8}
    {found : List NonceEntry} (part : bytes <+: utf8 (jsonText entriesDocument entries))
    (short : bytes ≠ utf8 (jsonText entriesDocument entries)) :
    loadNonces decode (some bytes) ≠ .ok found := by
  intro loaded
  simp only [loadNonces] at loaded
  split at loaded
  · rename_i text read
    have unread := array_cut_unread documents (fun _ => entries_enclose) part short read
    cases outcome : decode text with
    | ok value => exact unread value outcome
    | error error =>
      rw [outcome] at loaded
      cases loaded
  · cases loaded

theorem record_ok (admitted : call.record decode before = .ok entries) :
    ∃ loaded, loadNonces decode before = .ok loaded ∧
      (retained loaded call.now).any (·.matches call.authorization) = false ∧
      entries = retained loaded call.now ++ [nonceEntry call.authorization] := by
  unfold Call.record at admitted
  split at admitted
  · cases admitted
  · cases loaded : loadNonces decode before with
    | error error =>
      rw [loaded] at admitted
      cases admitted
    | ok found =>
      rw [loaded] at admitted
      change (if _ then _ else _) = _ at admitted
      split at admitted
      · cases admitted
      · rename_i fresh
        exact ⟨found, rfl, Bool.not_eq_true _ ▸ fresh, (Except.ok.inj admitted).symm⟩

/-- If the file can be read at all, it has an entry for the nonce that lasts as long
as the authorization. -/
def Spent (decode : List Char → Except String (List NonceEntry))
    (authorization : CommandAuthorization) (file : NonceFile) : Prop :=
  ∀ entries, loadNonces decode file = .ok entries → Blocks authorization (.present entries)

variable {authorization : CommandAuthorization}

theorem recorded_spent (reads : ReadsBack decode)
    (admitted : call.record decode before = .ok entries) :
    Spent decode call.authorization (saveNonces entries) := by
  intro found loaded
  obtain rfl := Except.ok.inj ((load_saved reads).symm.trans loaded)
  obtain ⟨_, _, _, rfl⟩ := record_ok admitted
  refine ⟨nonceEntry call.authorization, List.mem_append_right _ (List.mem_singleton.mpr rfl), ?_,
    UInt64.le_refl _⟩
  simp [NonceEntry.matches, nonceEntry]

theorem happens_spent (documents : AcceptsDocuments decode) (reads : ReadsBack decode)
    {answer : Option (Except NonceStoreError Unit)} (valid : call.now ≤ authorization.expiresAt)
    (spent : Spent decode authorization before) (happens : Happens decode before call answer after) :
    Spent decode authorization after := by
  cases happens with
  | refused refusal | stopped => exact spent
  | recorded admitted =>
    intro found loaded
    obtain rfl := Except.ok.inj ((load_saved reads).symm.trans loaded)
    obtain ⟨earlier, held, _, rfl⟩ := record_ok admitted
    exact blocks_append (retained_blocks valid (spent earlier held))
  | crashed admitted part short =>
    intro found loaded
    exact absurd loaded (load_cut documents part short)

theorem history_spent (documents : AcceptsDocuments decode) (reads : ReadsBack decode)
    {calls : List Call} (history : History decode before calls after)
    (unexpired : Unexpired authorization calls) (spent : Spent decode authorization before) :
    Spent decode authorization after := by
  induction history with
  | start => exact spent
  | next earlier happens ih =>
    have soFar := ih fun call member => unexpired call (List.mem_append_left _ member)
    have now := unexpired _ (List.mem_append_right _ (List.mem_singleton.mpr rfl))
    exact happens_spent documents reads now soFar happens

theorem spent_refused (spent : Spent decode authorization before)
    (valid : call.now ≤ authorization.expiresAt) (same : SameNonce call.authorization authorization) :
    call.record decode before ≠ .ok entries := by
  intro admitted
  obtain ⟨loaded, held, fresh, _⟩ := record_ok admitted
  obtain ⟨entry, live, matching, _⟩ := retained_blocks valid (spent loaded held)
  have again : entry.matches call.authorization = true := by
    rw [NonceEntry.matches, same.1, same.2]
    exact matching
  exact absurd again (List.any_eq_false.mp fresh entry live)

/-- A nonce that a completed call recorded is not recorded again before it has
expired, whatever calls were made or killed in between. -/
theorem recorded_nonce_refused (documents : AcceptsDocuments decode) (reads : ReadsBack decode)
    {completed later : Call} {since : List Call} {middle final : NonceFile}
    (first : Happens decode before completed (some (.ok ())) after)
    (history : History decode after since middle)
    (same : SameNonce later.authorization completed.authorization)
    (unexpired : Unexpired completed.authorization (since ++ [later])) :
    ¬ Happens decode middle later (some (.ok ())) final := by
  intro accepted
  cases first with
  | recorded admitted =>
    have sinceThen : Unexpired completed.authorization since :=
      fun call member => unexpired call (List.mem_append_left _ member)
    have now := unexpired later (List.mem_append_right _ (List.mem_singleton.mpr rfl))
    have spent := history_spent documents reads history sinceThen
      (recorded_spent reads admitted)
    cases accepted with
    | recorded again => exact spent_refused spent now same again
end Crashes

/-! One nonce is recorded; the call for the next is killed when it has emptied the
file. -/

def sampleAuthorization (nonce : UInt8) : CommandAuthorization :=
  let network : NetworkId := ⟨Bytes.fill 16 1⟩
  let human : HumanIdentity := ⟨⟨Bytes.fill 16 3⟩, "operator", Bytes.fill 32 4⟩
  { networkId := network
    issuer := human
    membership := ⟨network, human, .operator, 0, none, 1, Bytes.fill 64 5⟩
    role := .operator
    permission := .jobSubmit
    target := none
    constraints := []
    issuedAt := 10
    expiresAt := 20
    nonce := Bytes.fill 16 nonce
    signature := Bytes.fill 64 6 }

theorem sample_reads_back : ReadsBack (readJson entriesDocument) :=
  read_json (array_separates entry_separates)

theorem sample_documents : AcceptsDocuments (readJson entriesDocument) := by
  intro text entries accepted
  rw [← read_json_text accepted]
  exact array_complete fun _ => entries_enclose

theorem first_recorded : Happens (readJson entriesDocument) none ⟨sampleAuthorization 1, 10⟩
    (some (.ok ())) (saveNonces [nonceEntry (sampleAuthorization 1)]) :=
  .recorded rfl

theorem second_crashed : History (readJson entriesDocument)
    (saveNonces [nonceEntry (sampleAuthorization 1)]) [⟨sampleAuthorization 2, 11⟩] (some []) := by
  have loaded := @load_saved _ [nonceEntry (sampleAuthorization 1)] sample_reads_back
  have admitted : (Call.mk (sampleAuthorization 2) 11).record (readJson entriesDocument)
      (saveNonces [nonceEntry (sampleAuthorization 1)]) =
      .ok [nonceEntry (sampleAuthorization 1), nonceEntry (sampleAuthorization 2)] := by
    rw [Call.record, if_neg (by decide), loaded]
    decide
  refine .next .start (.crashed admitted List.nil_prefix ?_)
  simp [utf8, jsonText, entriesDocument, array, bracketed]

theorem crash_keeps_first_refused : ¬ ∃ final,
    Happens (readJson entriesDocument) (some []) ⟨sampleAuthorization 1, 12⟩ (some (.ok ()))
      final := by
  rintro ⟨final, accepted⟩
  refine absurd accepted (recorded_nonce_refused sample_documents sample_reads_back first_recorded
    second_crashed ⟨rfl, rfl⟩ ?_)
  unfold Unexpired
  decide
end Misaka.NonceCrash
