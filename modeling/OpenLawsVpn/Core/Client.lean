import OpenLawsVpn.Text

/-!
# The core client

`CoreClient` receives the events of the OpenVPN 3 core on the core's thread and
keeps, in a handful of latches, what the threads waiting for it want to know:

* a well-formed `DYNAMIC_CHALLENGE` sets `done`, with the state id and the URL
  it carried, and asks the core to stop (the end of Phase 1);
* `CONNECTED` sets `connected`; before it, `AUTH_FAILED` and `FATAL_ERROR` set
  `error`; after it, `NEED_CREDS` and `AUTH_FAILED` set `needReauth`, and
  `DISCONNECTED` sets `finalDisconnect`.

An event changes the state and has *actions*: lines of log, and requests to
stop the core (`CoreClient.event`). The waiters (`waitForSaml`,
`waitForConnected`, `waitForFinalDisconnect`) are read as functions of the state
in which the wait ends.

The state id, the URL and the address are overwritten by later ones; the flags are never cleared.
What this means for a waiter that gets to run late is the matter of the modules that follow.
-/

namespace OpenLawsVpn

/-- An event of the core, with the fields the client reads. -/
structure Event where
  name : Bytes
  info : Bytes
  deriving DecidableEq, Repr

/-- What the client does besides changing its state. -/
inductive CoreAction
  /-- A line handed to `emit_log_public`. -/
  | log (line : Bytes)
  /-- A line written to the standard output. -/
  | stdout (line : Bytes)
  /-- The core is asked to stop. -/
  | stop
  deriving DecidableEq, Repr

/-- The state of a `CoreClient`. -/
structure CoreClient where
  samlUrl : Bytes := []
  stateId : Bytes := []
  remoteIp : Bytes := []
  done : Bool := false
  connected : Bool := false
  error : Bool := false
  errorMsg : Bytes := []
  needReauth : Bool := false
  finalDisconnect : Bool := false
  deriving DecidableEq, Repr

/-- `CoreClient::Challenge`: what Phase 1 is after. -/
structure Challenge where
  samlUrl : Bytes
  stateId : Bytes
  remoteIp : Bytes
  deriving DecidableEq, Repr

namespace CoreClient

/-! ## The challenge -/

/-- The loop cutting off the next `n` fields of `info`, from the position `last`
    on: each field goes up to the next colon, and the loop breaks when there is
    none. It ends with the fields cut off and the position after them. -/
def splitFields (info : Bytes) : ℕ → List Bytes → ℕ → List Bytes × ℕ
  | 0, parts, last => (parts, last)
  | n + 1, parts, last =>
    match Search.findFrom (lit ":") info last with
    | none => (parts, last)
    | some next => splitFields info n (parts ++ [substr info last (next - last)]) (next + 1)

/-- The parts of a challenge: the first three fields after `CRV1:`, and the
    rest, pushed after the loop whether or not it broke. -/
def challengeParts (info : Bytes) : List Bytes :=
  let (parts, last) := splitFields info 3 [] 5
  parts ++ [info.drop last]

/-- The state id and the URL of a challenge, if it is accepted. -/
def parseChallenge (info : Bytes) : Option (Bytes × Bytes) :=
  if substr info 0 5 = lit "CRV1:" then
    match challengeParts info with
    | _ :: stateId :: _ :: samlUrl :: _ => some (stateId, samlUrl)
    | _ => none
  else none

/-! ## Events -/

/-- The line an event leaves in the log. -/
def eventLine (now : Stamp) (ev : Event) : Bytes :=
  getLogPrefix now ++ lit " EVENT: " ++ ev.name ++ lit ": " ++ stripNewlines ev.info ++ lit "\n"

/-- `CoreClient::event`, at the log level `level`. -/
def event (level : ℤ) (now : Stamp) (ev : Event) (c : CoreClient) : CoreClient × List CoreAction :=
  let log := if 0 < level then [.log (eventLine now ev)] else []
  if ev.name = lit "DYNAMIC_CHALLENGE" then
    match parseChallenge ev.info with
    | some (stateId, samlUrl) =>
      ({ c with stateId := stateId, samlUrl := samlUrl, done := true }, log ++ [.stop])
    | none => (c, log)
  else if ev.name = lit "CONNECTED" then
    ({ c with connected := true }, log)
  else if ev.name = lit "NEED_CREDS" then
    (if c.connected then { c with needReauth := true } else c, log)
  else if ev.name = lit "DISCONNECTED" then
    (if c.connected then { c with finalDisconnect := true } else c, log)
  else if ev.name = lit "AUTH_FAILED" then
    -- After an established session, the server rejected the stored session id.
    (if c.connected then { c with needReauth := true }
      else { c with error := true, errorMsg := ev.name ++ lit ": " ++ ev.info }, log)
  else if ev.name = lit "FATAL_ERROR" then
    (if c.connected then c
      else { c with error := true, errorMsg := ev.name ++ lit ": " ++ ev.info }, log)
  else (c, log)

/-- `CoreClient::socket_protect`, with the callback registered by the platform,
    if any: the address is recorded, and the connection allowed or not. -/
def socketProtect (level : ℤ) (now : Stamp) (protect : Option (Bytes → Bool → Bool))
    (remote : Bytes) (ipv6 : Bool) (c : CoreClient) : CoreClient × List CoreAction × Bool :=
  let c := if remote ≠ [] then { c with remoteIp := remote } else c
  match protect with
  | some fn => (c, [], fn remote ipv6)
  | none =>
    (c, if 1 < level then [.stdout (getLogPrefix now ++ lit " Socket protect: " ++ remote ++ lit "\n")]
      else [], true)

/-- A byte that does not belong into a readable line. -/
def isNonPrintable (b : UInt8) : Bool := (b < 32 && b ≠ 10 && b ≠ 13 && b ≠ 9) || 126 < b

/-- `CoreClient::log`: transport chatter, and lines that look binary (more than
    five unprintable bytes among the first hundred), are dropped. -/
def log (level : ℤ) (now : Stamp) (text : Bytes) : List CoreAction :=
  if ¬0 < level then []
  else if level = 1 ∧ (lit "Transport SEND" <:+: text ∨ lit "Transport RECV" <:+: text) then []
  else if 5 < (text.take 100).countP isNonPrintable then []
  else [.log (getLogPrefix now ++ lit " LOG: " ++ stripNewlines text ++ lit "\n")]

/-! ## Waiting -/

/-- The condition `wait_for_saml` waits for. -/
def samlReady (c : CoreClient) : Bool := c.done || c.error

/-- `wait_for_saml`, when the wait (at most 30 s) ends in the state `c`. -/
def waitForSaml (c : CoreClient) : Except Bytes Challenge :=
  if ¬c.samlReady then .error (lit "Timeout waiting for SAML challenge")
  else if c.error then .error c.errorMsg
  else .ok ⟨c.samlUrl, c.stateId, c.remoteIp⟩

/-- The condition `wait_for_connected` waits for. -/
def connectedReady (c : CoreClient) : Bool := c.connected || c.error

/-- `wait_for_connected`, when the wait (at most 30 s) ends in the state `c`. -/
def waitForConnected (c : CoreClient) : Except Bytes Unit :=
  if ¬c.connectedReady then .error (lit "Timeout waiting for connection")
  else if c.error then .error c.errorMsg
  else .ok ()

/-- `wait_for_final_disconnect`, in the state `c`: still blocked (`none`), or
    the answer whether a SAML login is needed to reconnect. -/
def waitForFinalDisconnect (c : CoreClient) : Option Bool :=
  if c.finalDisconnect then some c.needReauth else none

end CoreClient

end OpenLawsVpn
