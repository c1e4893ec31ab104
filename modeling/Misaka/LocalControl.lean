import Misaka.FileText

/-!
`misaka run` through the loopback API of the running Sister: one HTTP exchange,
of which only the status and the body of a complete answer are kept. Every other
end of the exchange is taken for "no local Sister".
-/

namespace Misaka.LocalControl
open FileText

/-- How one exchange goes. The request is delivered when the Sister has all of it, which takes
a connection and a finished write; a step that runs out of time has not finished. -/
structure Exchange where
  connected : Bool
  written : Bool
  flushed : Bool
  response : Option (List UInt8)
  delivered : Bool
  possible : delivered = true → connected = true ∧ written = true

inductive RunAttempt (Result : Type) where
  | printed (result : Result)
  | failed (message : String)
  | noLocalSister

structure LocalControlClient where
  addr : String
  token : String

section Code

-- `split_once("\r\n\r\n")`.
def splitHead : List Char → Option (List Char × List Char)
  | '\r' :: '\n' :: '\r' :: '\n' :: body => some ([], body)
  | char :: rest => (splitHead rest).map fun parts => (char :: parts.1, parts.2)
  | [] => none

-- The second word of the head, as a `u16`, and the body.
def readResponse (bytes : List UInt8) : Option (Nat × List Char) := do
  let text ← (readText bytes).toOption
  let (head, body) ← splitHead text
  let word ← ((head.splitOnP isWhitespace).filter (· ≠ []))[1]?
  let status ← parseU64 word
  if status.toNat < 2 ^ 16 then some (status.toNat, body) else none

variable (client : LocalControlClient)

def postRequest (path body : String) : String :=
  s!"POST {path} HTTP/1.1\r\nHost: {client.addr}\r\nAuthorization: Bearer {client.token}\r\n" ++
    s!"Content-Type: application/json\r\nContent-Length: {body.utf8ByteSize}\r\n" ++
    s!"Connection: close\r\n\r\n{body}"

-- Each `ok()?` ends the exchange.
def httpPostJson (path body : String) (server : String → Exchange) :
    Option (Nat × List Char) :=
  let exchange := server (postRequest client path body)
  if exchange.connected && exchange.written && exchange.flushed then
    exchange.response.bind readResponse
  else none

def forConfigDir (addr : Option String) (token : Except String (Option String)) :
    Except String (Option LocalControlClient) :=
  match addr with
  | none => .ok none
  | some addr =>
    match token with
    | .error error => .error s!"local control token is unreadable: {error}"
    | .ok none => .error ("a Sister is running but its local control token is missing; " ++
        "restart the Sister (misaka service restart / misaka start)")
    | .ok (some token) => .ok (some ⟨addr, token⟩)

variable {Result : Type} (jobResult : List Char → Except String Result)
variable (errorText : List Char → Option String)

-- What the running Sister recorded, the JSON body of the job, and the Sister's side.
def tryRunViaRunningSister (addr : Option String) (token : Except String (Option String))
    (body : String) (server : String → Exchange) : RunAttempt Result :=
  match forConfigDir addr token with
  | .error message => .failed message
  | .ok none => .noLocalSister
  | .ok (some client) =>
    match httpPostJson client "/api/v1/jobs" body server with
    | none => .noLocalSister
    | some (status, response) =>
      if 200 ≤ status ∧ status < 300 then
        match jobResult response with
        | .ok result => .printed result
        | .error error => .failed s!"malformed job response: {error}"
      else if status = 401 then
        .failed (s!"local control authentication failed for the Sister API at {client.addr}; " ++
          "check MISAKA_CONFIG_DIR and restart the Sister")
      else
        let message := (errorText response).getD (String.ofList response)
        .failed s!"job via running Sister failed: {message}"

/-- The command asks a recorded Sister, and the request reaches it. -/
def Delivered (addr : Option String) (token : Except String (Option String)) (body : String)
    (server : String → Exchange) : Prop :=
  ∃ client, forConfigDir addr token = .ok (some client) ∧
    (server (postRequest client "/api/v1/jobs" body)).delivered = true
end Code

section Reports
variable {Result : Type} {jobResult : List Char → Except String Result}
variable {errorText : List Char → Option String} {client : LocalControlClient} {body : String}
variable {server : String → Exchange}

theorem post_answered_iff {path : String} {exchange : Exchange}
    (same : server (postRequest client path body) = exchange) :
    (httpPostJson client path body server).isSome ↔
      (exchange.connected = true ∧ exchange.written = true) ∧ exchange.flushed = true ∧
        ∃ bytes, exchange.response = some bytes ∧ (readResponse bytes).isSome := by
  simp only [httpPostJson, same]
  split
  · rename_i sent
    simp only [Bool.and_eq_true] at sent
    cases exchange.response with
    | none => simp
    | some bytes => simp [sent]
  · rename_i unsent
    simp_all

theorem missing_iff_unanswered {addr : Option String} {token : Except String (Option String)}
    (found : forConfigDir addr token = .ok (some client)) :
    tryRunViaRunningSister jobResult errorText addr token body server = .noLocalSister ↔
      httpPostJson client "/api/v1/jobs" body server = none := by
  simp only [tryRunViaRunningSister, found]
  cases httpPostJson client "/api/v1/jobs" body server with
  | none => exact iff_of_true rfl rfl
  | some answer =>
    refine iff_of_false ?_ nofun
    dsimp only
    split
    · split <;> exact nofun
    · split <;> exact nofun

/-- A delivered job is never reported as one that no Sister got, exactly if the Sister's answer
to a delivered job is received whole, in time, and is read. -/
theorem delivered_never_missing_iff (addr : Option String)
    (token : Except String (Option String)) (body : String) (server : String → Exchange) :
    (tryRunViaRunningSister jobResult errorText addr token body server = .noLocalSister →
      ¬ Delivered addr token body server) ↔
    ∀ client, forConfigDir addr token = .ok (some client) →
      (server (postRequest client "/api/v1/jobs" body)).delivered = true →
      (server (postRequest client "/api/v1/jobs" body)).flushed = true ∧
        ∃ bytes, (server (postRequest client "/api/v1/jobs" body)).response = some bytes ∧
          (readResponse bytes).isSome := by
  constructor
  · intro never client found delivered
    by_contra unanswered
    refine never ((missing_iff_unanswered found).mpr ?_) ⟨client, found, delivered⟩
    rw [← Option.not_isSome_iff_eq_none, post_answered_iff rfl]
    exact fun answered => unanswered answered.2
  · rintro answered missing ⟨client, found, delivered⟩
    have silent := (missing_iff_unanswered found).mp missing
    rw [← Option.not_isSome_iff_eq_none, post_answered_iff rfl] at silent
    exact silent ⟨(server _).possible delivered, answered client found delivered⟩

/-- The Sister got the job and does not answer within the bound. -/
def slowServer : String → Exchange := fun _ => ⟨true, true, true, none, true, fun _ => ⟨rfl, rfl⟩⟩

theorem slow_sister_reported_missing :
    tryRunViaRunningSister (fun _ => .ok ()) (fun _ => none) (some "127.0.0.1:7777")
        (.ok (some "token")) "\x7b\x7d" slowServer = .noLocalSister ∧
      Delivered (some "127.0.0.1:7777") (.ok (some "token")) "\x7b\x7d" slowServer :=
  ⟨rfl, ⟨"127.0.0.1:7777", "token"⟩, rfl, rfl⟩
end Reports
end Misaka.LocalControl
