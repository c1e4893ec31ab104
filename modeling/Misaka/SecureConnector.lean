import Misaka.ConnectionManager

/-!
`SecureSisterConnector`, which dials the TCP endpoints of a row of the peer table
over TLS. Every endpoint text that can be read becomes a TCP candidate; the
constructor for those panics on an Iroh endpoint.
-/

namespace Misaka.SecureConnector
open Identity PeerKnowledge NodeRuntime ConnectionManager

inductive Stop where
  | failed (error : ConnectionError)
  | noPeerCertificate (sister : SisterId)
  | panicked (message : String)

/-- What the TLS library makes of a certificate and of a server name, and which addresses
count as local. -/
structure SecureSisterConnector where
  clientConfig : List UInt8 → Except NetworkError Unit
  tlsClient : String → Except NetworkError Unit
  isLan : SocketAddr → Bool

section Code
variable (platform : Platform) (connector : SecureSisterConnector) (sister : SisterId)

-- `EndpointCandidate::tcp`.
def tcp : NetworkEndpoint → Except Stop EndpointCandidate
  | .tcp addr =>
    let kind : PathKind := if connector.isLan addr then .lan else .direct
    .ok ⟨.tcp addr, kind, kind.priority⟩
  | .iroh _ => .error (.panicked "EndpointCandidate::tcp requires a TCP endpoint")

def collectCandidates : List String → List EndpointCandidate → Option ConnectionError →
    Except Stop (List EndpointCandidate × Option ConnectionError)
  | [], candidates, lastError => .ok (candidates, lastError)
  | raw :: rest, candidates, lastError =>
    match parseEndpoint platform raw with
    | .error reason =>
      collectCandidates rest candidates (some (.invalidEndpoint sister raw reason))
    | .ok endpoint => do
        let candidate ← tcp connector endpoint
        collectCandidates rest (candidates ++ [candidate]) lastError

-- One candidate after the other; `answers` are the outcomes of the attempts.
def dialCandidates : List EndpointCandidate → (Nat → Except NetworkError NetworkStream) →
    Option ConnectionError → Except Stop NetworkStream
  | [], _, some error => .error (.failed error)
  | [], _, none => .error (.panicked "non-empty endpoint candidates produce an error")
  | _ :: rest, answers, _ =>
    match answers 0 with
    | .ok stream => .ok stream
    | .error source =>
      dialCandidates rest (fun attempt => answers (attempt + 1)) (some (.connect sister source))

def connectToSister (row : Option PeerState)
    (answers : Nat → Except NetworkError NetworkStream) : Except Stop NetworkStream :=
  match row with
  | none => .error (.failed (.unknownSister sister))
  | some peer =>
    match peer.streamCertificate with
    | none => .error (.noPeerCertificate sister)
    | some certificate =>
      if peer.streamEndpoints.isEmpty then .error (.failed (.noStreamEndpoint sister))
      else do
        (connector.clientConfig certificate).mapError (.failed <| .connect sister ·)
        (connector.tlsClient s!"sister-{sister}").mapError (.failed <| .connect sister ·)
        let (candidates, lastError) ← collectCandidates platform connector sister
          peer.streamEndpoints [] none
        dialCandidates sister (rankCandidates candidates) answers lastError
/-- Whatever the attempts end in, the connector returns. -/
def NeverPanics (row : Option PeerState) : Prop :=
  ∀ answers message, connectToSister platform connector sister row answers ≠
    .error (.panicked message)
end Code

section Panics
variable {platform : Platform} {connector : SecureSisterConnector} {sister : SisterId}
variable {texts : List String}

theorem collect_candidates_panics {raw : String} {addr : EndpointAddr} (listed : raw ∈ texts)
    (iroh : parseEndpoint platform raw = .ok (.iroh addr)) (candidates : List EndpointCandidate)
    (lastError : Option ConnectionError) :
    ∃ message, collectCandidates platform connector sister texts candidates lastError =
      .error (.panicked message) := by
  induction texts generalizing candidates lastError with
  | nil => cases listed
  | cons first rest ih =>
    rw [collectCandidates]
    rcases List.mem_cons.mp listed with rfl | later
    · rw [iroh]
      exact ⟨_, rfl⟩
    · cases parseEndpoint platform first with
      | error reason => exact ih later _ _
      | ok endpoint =>
        cases endpoint with
        | tcp addr => exact ih later _ _
        | iroh addr => exact ⟨_, rfl⟩

-- Something to dial or an error is left, so that the last `expect` holds.
theorem collect_candidates_returns
    (tcpOnly : ∀ raw ∈ texts, ∀ addr, parseEndpoint platform raw ≠ .ok (.iroh addr))
    (candidates : List EndpointCandidate) (lastError : Option ConnectionError)
    (some : texts ≠ [] ∨ candidates ≠ [] ∨ lastError ≠ none) :
    ∃ found error, collectCandidates platform connector sister texts candidates lastError =
      .ok (found, error) ∧ (found ≠ [] ∨ error ≠ none) := by
  induction texts generalizing candidates lastError with
  | nil => exact ⟨candidates, lastError, rfl, some.resolve_left (not_not.mpr rfl)⟩
  | cons first rest ih =>
    have later := ih fun raw listed => tcpOnly raw (List.mem_cons_of_mem _ listed)
    rw [collectCandidates]
    cases parsed : parseEndpoint platform first with
    | error reason => exact later _ _ (Or.inr (Or.inr nofun))
    | ok endpoint =>
      cases endpoint with
      | tcp addr => exact later _ _ (Or.inr (Or.inl (List.append_ne_nil_of_right_ne_nil _ nofun)))
      | iroh addr => exact absurd parsed (tcpOnly first List.mem_cons_self addr)

theorem dial_candidates_returns {candidates : List EndpointCandidate}
    {answers : Nat → Except NetworkError NetworkStream} {lastError : Option ConnectionError}
    (some : candidates ≠ [] ∨ lastError ≠ none) (message : String) :
    dialCandidates sister candidates answers lastError ≠ .error (.panicked message) := by
  induction candidates generalizing answers lastError with
  | nil =>
    cases lastError with
    | none => simp at some
    | some error => simp [dialCandidates]
  | cons candidate rest ih =>
    rw [dialCandidates]
    split
    · exact nofun
    · exact ih (Or.inr nofun)

/-- The connector panics for exactly the rows that get as far as an Iroh endpoint. -/
theorem connect_never_panics_iff (row : Option PeerState) :
    NeverPanics platform connector sister row ↔
      ∀ peer certificate, row = some peer → peer.streamCertificate = some certificate →
        connector.clientConfig certificate = .ok () →
        connector.tlsClient s!"sister-{sister}" = .ok () →
        ∀ raw ∈ peer.streamEndpoints, ∀ addr, parseEndpoint platform raw ≠ .ok (.iroh addr) := by
  constructor
  · rintro never peer certificate rfl certified configured client raw listed addr iroh
    obtain ⟨message, panics⟩ := @collect_candidates_panics platform connector sister
      peer.streamEndpoints raw addr listed iroh [] none
    apply never (fun _ => .error .closed) message
    have some : peer.streamEndpoints.isEmpty = false := by
      cases endpoints : peer.streamEndpoints with
      | nil => simp [endpoints] at listed
      | cons => rfl
    simp only [connectToSister, certified, some, configured, client, panics]
    rfl
  · intro tcpOnly answers message
    unfold connectToSister
    split
    · exact nofun
    rename_i peer
    split
    · exact nofun
    rename_i certificate certified
    split
    · exact nofun
    rename_i some
    cases configured : connector.clientConfig certificate with
    | error error => exact nofun
    | ok config =>
      cases client : connector.tlsClient s!"sister-{sister}" with
      | error error => exact nofun
      | ok client' =>
        obtain ⟨found, error, collected, left⟩ := collect_candidates_returns
          (tcpOnly peer certificate rfl certified configured client) [] none
          (Or.inl (mt List.isEmpty_iff.mpr some))
        have ranked : rankCandidates found ≠ [] ∨ error ≠ none :=
          left.imp_left fun nonempty empty => nonempty
            (List.length_eq_zero_iff.mp ((List.length_mergeSort _).symm.trans (by
              rw [← rankCandidates, empty, List.length_nil])))
        rw [collected]
        exact dial_candidates_returns ranked message
end Panics

/-- A Sister that announced an Iroh endpoint and a certificate. -/
def irohRow : PeerState :=
  ⟨sampleNetwork, 2, "last order", "lab", "linux", "0.1.0",
    ["iroh://" ++ endpointAddrJson sampleAddr], some [48], "127.0.0.1:1", 0, 0, 0, 0, 0, 0, []⟩

theorem iroh_endpoint_panics :
    ¬ NeverPanics samplePlatform ⟨fun _ => .ok (), fun _ => .ok (), fun _ => false⟩ 2
      (some irohRow) := by
  intro never
  apply never (fun _ => .error .closed) "EndpointCandidate::tcp requires a TCP endpoint"
  simp only [connectToSister, irohRow, collectCandidates, sample_endpoint_parses rfl]
  rfl
end Misaka.SecureConnector
