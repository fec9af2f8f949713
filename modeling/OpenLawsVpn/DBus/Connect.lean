import OpenLawsVpn.Config
import OpenLawsVpn.DBus.Client
import OpenLawsVpn.Lib.Wp

/-!
# Connecting over D-Bus

`DBusClient::connect` is a program on the state of the client, which may throw.
It is cut here along its own steps:

1. `importConfig` hands the profile over, with up to five attempts;
2. `newTunnel` creates the session, with up to five attempts;
3. `awaitSession` waits for the object of the session, with up to twenty;
4. `awaitReady` provides the credentials until the session is ready, up to
   twenty times;
5. `startConnect` subscribes to the signals and has the session connect, and
   `waitLoop` waits for a signal, or a polled property, that decides.

What the services answer, and when signals arrive, is the `Environment`. Signals
are handled by the main loop: `connect` runs it while it waits, and next to a
GUI it runs on another thread, so that signals are also handled during calls.

An attempt may also end without an exception of its own: `Stop.undefined` stands for a path that
is extracted from no reply, and `Stop.waiting` for an environment that has no more to offer while
the loop waits.
-/

namespace OpenLawsVpn

/-- Why a program of the client ends without returning. -/
inductive Stop
  /-- An exception, with its text. -/
  | threw (what : Bytes)
  /-- Undefined behaviour. -/
  | undefined
  /-- The run so far ends in the wait loop. -/
  | waiting
  deriving DecidableEq, Repr

/-- What happens in one iteration of the wait loop: the signals handled until the
    wait ends, the answers to the two polls, with the signals handled during the
    calls, and whether 90 s have passed. -/
structure WaitIteration where
  signals : List Signal := []
  status : Option Status := none
  statusSignals : List Signal := []
  connectedTo : Option CString := none
  connectedToSignals : List Signal := []
  timedOut : Bool := false
  deriving DecidableEq, Repr

/-- The content of the profile, the readings of the clock, the answers to the
    calls, by attempt, and the signals handled after the subscription: during the
    calls, after the wait loop, and after its result is looked at. -/
structure Environment where
  clock : ℕ → Stamp
  file : Option Bytes
  importConfig : ℕ → Except GError ObjectPath
  newTunnel : ℕ → Except GError ObjectPath
  introspect : ℕ → Bool
  userInputProvide : ℕ → UInt32 → Except GError Unit
  ready : ℕ → Except GError Unit
  logForward : Except GError Unit := .ok ()
  logForwardSignals : List Signal := []
  connect : Except GError Unit := .ok ()
  connectSignals : List Signal := []
  waits : List WaitIteration := []
  decidedSignals : List Signal := []
  returnSignals : List Signal := []
  disconnectSignals : List Signal := []

/-- The signals handled in an iteration. -/
def WaitIteration.handled (w : WaitIteration) : List Signal :=
  w.signals ++ w.statusSignals ++ w.connectedToSignals

/-- The signals that may be handled. -/
def Environment.signals (env : Environment) : List Signal :=
  env.logForwardSignals ++ env.connectSignals ++ env.waits.flatMap (·.handled) ++
    env.decidedSignals ++ env.returnSignals ++ env.disconnectSignals

/-- The programs of the client. -/
abbrev DBusM := EStateM Stop DBusClient

/-- `throw std::runtime_error(what)`. -/
def throwWhat {α : Type} (what : Bytes) : DBusM α := throw (.threw what)

/-- An error with one of the names. -/
def GError.isOneOf (e : GError) (names : List Bytes) : Bool := e.remote.any names.contains

namespace DBusClient

variable (env : Environment)

/-! ## Setting up the session -/

/-- The errors after which `Import` is tried again. -/
def importRetried (e : GError) : Bool :=
  e.isOneOf [lit "org.freedesktop.DBus.Error.ServiceUnknown",
    lit "org.freedesktop.DBus.Error.UnknownMethod", lit "org.freedesktop.DBus.Error.FileNotFound"]

/-- The errors after which `NewTunnel` is tried again. -/
def newTunnelRetried (e : GError) : Bool :=
  e.isOneOf [lit "org.freedesktop.DBus.Error.ServiceUnknown",
    lit "org.freedesktop.DBus.Error.UnknownMethod"]

/-- The profile as it is imported: with the sticky server first. -/
def importText (config remoteIp : Bytes) : Bytes :=
  if remoteIp ≠ [] then lit "remote " ++ remoteIp ++ lit " 443\n" ++ config else config

/-- The sticky server is noted. -/
def noteRemoteIp (remoteIp : Bytes) : DBusM Unit :=
  if remoteIp ≠ [] then
    modify (cout 1 env.clock (lit " Using sticky IP for D-Bus: " ++ remoteIp))
  else pure ()

/-- 1. The profile is imported. -/
def importConfig (content : Bytes) : DBusM Unit := do
  let res ← Wp.attempts (β := GError) (α := Except GError ObjectPath) (fun retry => do
    modify (push (.call (.importConfig (cStr content) (env.importConfig retry))))
    match env.importConfig retry with
    | .ok path => pure (.inr (.ok path))
    | .error e =>
      if importRetried e then
        modify (cout 1 env.clock (lit " Config manager not ready, retrying... (" ++
          decimal (retry + 1) ++ lit "/5)"))
        pure (.inl e)
      else pure (.inr (.error e))) 5 0 none
  match res with
  | .inr (.ok path) =>
    modify ({ · with configPath := path.bytes })
    modify (cout 1 env.clock (lit " Config imported: " ++ path.bytes))
  | .inr (.error e) | .inl (some e) =>
    throwWhat (lit "Failed to import configuration: " ++ e.message.bytes)
  | .inl none => throw .undefined

/-- 2. The session is created. When every attempt failed with an error after which
    to try again, the path is extracted from no reply. -/
def newTunnel : DBusM Unit := do
  let res ← Wp.attempts (β := GError) (fun retry => do
    let c ← get
    modify (push (.call (.newTunnel c.configPath (env.newTunnel retry))))
    match env.newTunnel retry with
    | .ok path => pure (.inr path)
    | .error e =>
      if newTunnelRetried e then pure (.inl e)
      else throwWhat (lit "Failed to create new tunnel: " ++ e.message.bytes)) 5 0 none
  match res with
  | .inr path =>
    modify ({ · with sessionPath := path.bytes })
    modify (cout 1 env.clock (lit " Session path received: " ++ path.bytes))
  | .inl _ => throw .undefined

/-- 3. The object of the session appears. -/
def awaitSession : DBusM Unit := do
  let ready ← Wp.attempts (β := Unit) (fun i => do
    let c ← get
    modify (push (.call (.introspect c.sessionPath (env.introspect i))))
    pure (if env.introspect i then .inr () else .inl ())) 20 0 none
  match ready with
  | .inr () => pure ()
  | .inl _ =>
    throwWhat (lit "Timeout waiting for session object to become available on D-Bus")

/-- `provide_credential`, in the attempt number `loop`. The value is a C string, of which
    `g_variant_new` makes the string of the call. -/
def provideCredential (loop : ℕ) (type group id : UInt32) (value : Bytes) : DBusM Unit := do
  modify (cout 2 env.clock (lit " Providing credential: type=" ++ decimal type.toNat ++
    lit ", group=" ++ decimal group.toNat ++ lit ", id=" ++ decimal id.toNat))
  let c ← get
  modify (push (.call (.userInputProvide c.sessionPath type group id value
    (env.userInputProvide loop id))))
  match env.userInputProvide loop id with
  | .ok () => pure ()
  | .error e =>
    modify (cout 2 env.clock (lit " Note: Failed to provide credential (" ++ decimal id.toNat ++
      lit "): " ++ e.message.bytes))

/-- The error of `Ready` while credentials are missing. -/
def missingCreds (e : GError) : Bool :=
  e.remote.any fun remote => lit "MissingCredentials" <:+ remote ∨ lit "ready.Code36" <:+ remote ∨
    lit "Missing user credentials" <:+: e.message.bytes

/-- 4. Credentials are provided until the session is ready. -/
def awaitReady (password : Bytes) : DBusM Unit := do
  let ready ← Wp.attempts (β := GError) (fun loop => do
    provideCredential env loop 1 1 0 (lit "N/A")
    provideCredential env loop 1 1 1 (cStr password)
    let c ← get
    modify (push (.call (.ready c.sessionPath (env.ready loop))))
    match env.ready loop with
    | .ok () =>
      modify (cout 1 env.clock (lit " Session is ready after " ++ decimal loop ++
        lit " retries."))
      pure (.inr ())
    | .error e =>
      -- While credentials are missing, only every fifth attempt leaves a line.
      if ¬missingCreds e ∨ loop % 5 = 0 then
        modify (cout 1 env.clock (lit " Ready() attempt " ++ decimal loop ++ lit " failed: " ++
          e.message.bytes))
      pure (.inl e)) 20 0 none
  match ready with
  | .inr () => pure ()
  | .inl _ => throwWhat (lit "Session not ready for connection")

/-! ## Connecting -/

/-- The services are asked to forward their signals. -/
def logForward : DBusM Unit := do
  modify (dispatch env.clock env.logForwardSignals)
  let c ← get
  modify (push (.call (.logForward c.sessionPath env.logForward)))
  match env.logForward with
  | .ok () => pure ()
  | .error e =>
    modify (cout 2 env.clock (lit " Note: LogForward(true) failed: " ++ e.message.bytes))

/-- `Connect`. A refusal ends the attempt. -/
def callConnect : DBusM Unit := do
  modify (dispatch env.clock env.connectSignals)
  let c ← get
  modify (push (.call (.connect c.sessionPath env.connect)))
  match env.connect with
  | .ok () => pure ()
  | .error e => throwWhat (lit "Failed to initiate connect via D-Bus: " ++ e.message.bytes)

/-- 5. The session connects. From here on, signals are handled. -/
def startConnect : DBusM Unit := do
  modify (logAt 1 env.clock (lit " Calling Connect() via D-Bus...\n"))
  logForward env
  callConnect env
  modify (logAt 1 env.clock (lit " Waiting for connection to be established...\n"))

/-- `DBusClient::disconnect`. -/
def disconnect : DBusM Unit := do
  let c ← get
  if c.sessionPath = [] then pure ()
  else
    modify (dispatch env.clock env.disconnectSignals)
    modify (push (.call (.disconnect c.sessionPath)))

/-- The cleanup before an exception. -/
def cleanUp : DBusM Unit := do
  let c ← get
  if c.sessionPath ≠ [] then disconnect env

/-- Polling the status: whether the loop ends. -/
def pollStatus (w : WaitIteration) : DBusM Bool := do
  modify (dispatch env.clock w.statusSignals)
  let c ← get
  modify (push (.call (.getStatus c.sessionPath w.status)))
  modifyGet (onPolledStatus env.clock w.status)

/-- Polling the server connected to: whether the loop ends. -/
def pollConnectedTo (w : WaitIteration) : DBusM Bool := do
  modify (dispatch env.clock w.connectedToSignals)
  let c ← get
  modify (push (.call (.getConnectedTo c.sessionPath w.connectedTo)))
  modifyGet (onPolledConnectedTo env.clock w.connectedTo)

/-- The loop waiting for a decision. -/
def waitLoop : List WaitIteration → DBusM Unit
  | [] => throw .waiting
  | w :: waits => do
    modify (dispatch env.clock w.signals)
    let c ← get
    -- A signal has decided.
    if c.decided then pure ()
    else if ← pollStatus env w then pure ()
    else if ← pollConnectedTo env w then pure ()
    else if w.timedOut then
      modify (push .timedOut)
      cleanUp env
      throwWhat (lit "Timeout waiting for D-Bus connection status")
    else waitLoop waits

/-- The result, after the loop. -/
def finish : DBusM Unit := do
  -- The thread of the main loop may handle signals meanwhile.
  modify (dispatch env.clock env.decidedSignals)
  let c ← get
  -- A failure counts, even after a connection.
  if c.failed then
    cleanUp env
    -- The text is read after the call.
    let c ← get
    throwWhat (lit "VPN connection failed: " ++ c.errorMsg)
  else
    modify (dispatch env.clock env.returnSignals)
    modify (cout 1 env.clock (lit " Tunnel is up."))

/-- `DBusClient::connect`. -/
def connect (configFile stateId token remoteIp : Bytes) : DBusM Unit := do
  match readAndFilterConfig configFile env.file with
  | .error what => throwWhat what
  | .ok config =>
    noteRemoteIp env remoteIp
    importConfig env (importText config remoteIp)
    newTunnel env
    awaitSession env
    awaitReady env (lit "CRV1::" ++ stateId ++ lit "::" ++ token)
    startConnect env
    waitLoop env env.waits
    finish env

/-- The services set a session up at the first attempts, and the client waits. -/
def setsUp : Environment where
  clock _ := ⟨2024, 1, 1, 0, 0, 0⟩
  file := some (lit "client\n")
  importConfig _ := .ok ⟨⟨lit "/net/openvpn/v3/configuration/c", by decide⟩, by decide⟩
  newTunnel _ := .ok ⟨⟨lit "/net/openvpn/v3/sessions/s", by decide⟩, by decide⟩
  introspect _ := true
  userInputProvide _ _ := .ok ()
  ready _ := .ok ()

end DBusClient

end OpenLawsVpn
