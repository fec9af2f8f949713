import OpenLawsVpn.Core.Client
import OpenLawsVpn.DBus.Connect

/-!
# The client library

`OpenVPNClient` connects in two phases. Phase 1 always makes a core client of its
own, to receive the challenge (`connectPhase1`). Phase 2 sets the tunnel up
(`connectPhase2`): in direct mode with a second core client, which takes the
place of the first one, in D-Bus mode with a `DBusClient` next to it.

A core client that was replaced lives on with its thread (`replaced`). What the
core and the session send after the phases is delivered by `receive`.

* `OpenVPNClient`: the state of a client, with the trace of what it had its core and its session
  do; a call of it is a program on this state (`ClientM`), which may throw or go on waiting;
* `connectPhase1`, `connectDirect`, `connectDBus`, `connectPhase2`: the phases, statement by
  statement, with what the core and the services do given by an environment;
* `receive`, `disconnect`, `waitForDisconnect`: what happens to a client between and after them;
* `wp_await_keeps`, `filterMap_trace_deliver`: a wait changes nothing, and a core that delivers
  leaves no action but its own, which is what later modules use of the phases.
-/

namespace OpenLawsVpn

/-- Whether Phase 2 is run by a core client, or by the services over D-Bus. -/
inductive ConnectMode
  | direct
  | dbus
  deriving DecidableEq, Repr

/-- What the core delivers to a client. -/
inductive CoreInput
  | event (ev : Event)
  | log (text : Bytes)
  | socketProtect (remote : Bytes) (ipv6 : Bool)
  deriving DecidableEq, Repr

/-- What the client does. -/
inductive ClientAction
  /-- A line handed to `emit_log`. -/
  | log (line : Bytes)
  /-- A line written to the standard output. -/
  | stdout (line : Bytes)
  | evalConfig (content serverOverride : Bytes)
  | provideCreds (username password : Bytes)
  /-- The thread of the core client is started. -/
  | connect
  /-- The core client is asked to stop. -/
  | stop
  deriving DecidableEq, Repr

/-- The global settings, and the readings of the clock, numbered by the length of
    the trace. -/
structure Settings where
  clock : ℕ → Stamp
  logLevel : ℤ := 1
  socketProtect : Option (Bytes → Bool → Bool) := none

/-- The state of an `OpenVPNClient`: the core client and the D-Bus client that it
    points to, the core clients replaced, and the trace. -/
structure OpenVPNClient where
  configPath : Bytes
  mode : ConnectMode := .dbus
  core : Option CoreClient := none
  replaced : List CoreClient := []
  dbus : Option DBusClient := none
  trace : List ClientAction := []

/-- What Phase 1 meets: the content of the profile, an error of the evaluation of
    the profile, and what the core delivers until the wait ends. -/
structure Phase1Environment where
  file : Option Bytes
  evalError : Option Bytes := none
  inputs : List CoreInput

/-- What Phase 2 meets: in direct mode, the content of the profile and what the
    core delivers until the wait ends; in D-Bus mode, whether there is a bus, and
    what the D-Bus client meets. -/
structure Phase2Environment where
  file : Option Bytes
  inputs : List CoreInput
  bus : Except CString Unit := .ok ()
  dbus : Environment

/-- The programs of the client. -/
abbrev ClientM := EStateM Stop OpenVPNClient

/-- An action of the core client, as one of the client. -/
def CoreAction.toClient : CoreAction → ClientAction
  | .log line => .log line
  | .stdout line => .stdout line
  | .stop => .stop

/-- A core client handles what is delivered to it. -/
def CoreClient.handle (settings : Settings) (now : Stamp) (input : CoreInput) (core : CoreClient) :
    CoreClient × List CoreAction :=
  match input with
  | .event ev => core.event settings.logLevel now ev
  | .log text => (core, CoreClient.log settings.logLevel now text)
  | .socketProtect remote ipv6 =>
    let (core, actions, _) :=
      core.socketProtect settings.logLevel now settings.socketProtect remote ipv6
    (core, actions)

namespace OpenVPNClient

variable (settings : Settings)

/-- An action is appended to the trace. -/
def push (a : ClientAction) (c : OpenVPNClient) : OpenVPNClient := { c with trace := c.trace ++ [a] }

/-- A line to `std::cout`, with the log prefix. -/
def cout (text : Bytes) (c : OpenVPNClient) : OpenVPNClient :=
  c.push (.stdout (getLogPrefix (settings.clock c.trace.length) ++ text ++ lit "\n"))

/-! ## The core client -/

/-- A new core client takes the place of the one before. -/
def makeCore (c : OpenVPNClient) : OpenVPNClient :=
  { c with core := some {}, replaced := c.core.toList ++ c.replaced }

/-- The core client handles what is delivered to it. -/
def deliver (input : CoreInput) (c : OpenVPNClient) : OpenVPNClient :=
  match c.core with
  | none => c
  | some core =>
    let (core, actions) := core.handle settings (settings.clock c.trace.length) input
    { c with core := some core, trace := c.trace ++ actions.map CoreAction.toClient }

/-- What is delivered, one after another. -/
def deliverAll (inputs : List CoreInput) (c : OpenVPNClient) : OpenVPNClient :=
  inputs.foldl (fun c input => c.deliver settings input) c

/-- The waiter of a core client ends. -/
def await {α : Type} (wait : CoreClient → Except Bytes α) : ClientM α := do
  let c ← get
  match c.core with
  | none => throw .undefined
  | some core =>
    match wait core with
    | .error what => throw (.threw what)
    | .ok a => pure a

/-! ## The phases -/

/-- `connect_phase1`. -/
def connectPhase1 (env : Phase1Environment) : ClientM Challenge := do
  modify makeCore
  let c ← get
  match readAndFilterConfig c.configPath env.file with
  | .error what => throw (.threw what)
  | .ok config =>
    modify (push (.evalConfig config []))
    match env.evalError with
    | some message => throw (.threw (lit "Config evaluation failed: " ++ message))
    | none =>
      modify (push (.provideCreds (lit "N/A") (lit "ACS::35001")))
      modify (cout settings (lit " Starting Phase 1 connect..."))
      modify (push .connect)
      modify (deliverAll settings env.inputs)
      await CoreClient.waitForSaml

/-- The sticky server is noted, and handed to the core. -/
def noteRemoteIp (remoteIp : Bytes) (c : OpenVPNClient) : OpenVPNClient :=
  if remoteIp ≠ [] then c.cout settings (lit " Forcing remote IP: " ++ remoteIp) else c

/-- Phase 2 with a core client. The result of the evaluation is ignored. -/
def connectDirect (stateId token remoteIp : Bytes) (env : Phase2Environment) : ClientM Unit := do
  modify makeCore
  let c ← get
  match readAndFilterConfig c.configPath env.file with
  | .error what => throw (.threw what)
  | .ok config =>
    modify (noteRemoteIp settings remoteIp)
    modify (push (.evalConfig config remoteIp))
    let password := lit "CRV1::" ++ stateId ++ lit "::" ++ token
    modify (cout settings (lit " Total password length: " ++ decimal password.length))
    modify (cout settings (lit " SAML token length: " ++ decimal token.length))
    modify (push (.provideCreds (lit "N/A") password))
    modify (push .connect)
    modify (cout settings (lit " connect_phase2 thread started"))
    modify (deliverAll settings env.inputs)
    await CoreClient.waitForConnected

/-- Phase 2 with a D-Bus client. -/
def connectDBus (stateId token remoteIp : Bytes) (env : Phase2Environment) : ClientM Unit := do
  match env.bus with
  | .error e => throw (.threw (lit "Failed to connect to system bus: " ++ e.bytes))
  | .ok () =>
    let c ← get
    match DBusClient.connect env.dbus c.configPath stateId token remoteIp
        { logLevel := settings.logLevel } with
    | .ok () d => modify ({ · with dbus := some d })
    | .error e d =>
      modify ({ · with dbus := some d })
      throw e

/-- `connect_phase2`. -/
def connectPhase2 (stateId token remoteIp : Bytes) (env : Phase2Environment) : ClientM Unit := do
  let c ← get
  match c.mode with
  | .direct => connectDirect settings stateId token remoteIp env
  | .dbus => connectDBus settings stateId token remoteIp env

/-! ## After the phases -/

/-- `wait_for_disconnect`, in the state `c`: still blocked (`none`), or its answer. -/
def waitForDisconnect (c : OpenVPNClient) : Option Bool :=
  match c.core with
  | some core => core.waitForFinalDisconnect
  | none => some false

/-- `disconnect`: the core client is asked to stop. The D-Bus client has the
    session disconnected, with the signals handled during the call. -/
def disconnect (dbusEnv : Environment) (c : OpenVPNClient) : OpenVPNClient :=
  let c := if c.core.isSome then c.push .stop else c
  match c.dbus with
  | none => c
  | some d => { c with dbus := some (Wp.endState (DBusClient.disconnect dbusEnv d)) }

/-- What arrives after the phases: for the core client, for one that was replaced,
    or from the session. -/
inductive Input
  | core (input : CoreInput)
  | replaced (i : ℕ) (input : CoreInput)
  | signal (s : Signal)

/-- An input is delivered. -/
def receive (input : Input) (c : OpenVPNClient) : OpenVPNClient :=
  match input with
  | .core input => c.deliver settings input
  | .replaced i input =>
    let now := settings.clock c.trace.length
    { c with
      replaced := c.replaced.modify i fun core => (core.handle settings now input).1
      trace := c.trace ++ (c.replaced[i]?.toList.flatMap fun core =>
        (core.handle settings now input).2.map CoreAction.toClient) }
  | .signal s =>
    { c with dbus := c.dbus.map fun d =>
        DBusClient.onStatusChange settings.clock s (d.push (.signal s)) }

/-- What arrives, one after another. -/
def receiveAll (inputs : List Input) (c : OpenVPNClient) : OpenVPNClient :=
  inputs.foldl (fun c input => c.receive settings input) c

/-! ## What stays -/

variable {settings} {α : Type} {f : ClientAction → Option α}

/-- What the core delivers leaves no action but those of the core client. -/
theorem filterMap_trace_deliver (hf : ∀ a : CoreAction, f a.toClient = none) (input : CoreInput)
    (c : OpenVPNClient) :
    (c.deliver settings input).trace.filterMap f = c.trace.filterMap f := by
  rw [deliver]
  cases c.core with
  | none => rfl
  | some core =>
    have hnone : ((core.handle settings (settings.clock c.trace.length) input).2.map
        CoreAction.toClient).filterMap f = [] := by
      rw [List.filterMap_eq_nil_iff]
      intro a ha
      obtain ⟨b, -, rfl⟩ := List.mem_map.1 ha
      exact hf b
    dsimp only
    rw [List.filterMap_append, hnone, List.append_nil]

theorem filterMap_trace_deliverAll (hf : ∀ a : CoreAction, f a.toClient = none)
    (inputs : List CoreInput) (c : OpenVPNClient) :
    (c.deliverAll settings inputs).trace.filterMap f = c.trace.filterMap f := by
  rw [deliverAll]
  induction inputs generalizing c with
  | nil => rfl
  | cons input inputs ih => rw [List.foldl_cons, ih, filterMap_trace_deliver hf]

/-- The note of the address is a line of output. -/
theorem filterMap_trace_noteRemoteIp (hf : ∀ a : CoreAction, f a.toClient = none) (remoteIp : Bytes)
    (c : OpenVPNClient) :
    (noteRemoteIp settings remoteIp c).trace.filterMap f = c.trace.filterMap f := by
  rw [noteRemoteIp]
  split_ifs
  · have hstdout : ∀ line, f (.stdout line) = none := fun line => hf (.stdout line)
    rw [cout, push, List.filterMap_append, List.filterMap_cons_none (hstdout _)]
    exact List.append_nil _
  · rfl

/-- The waiter of the core client leaves the state as it is. -/
theorem wp_await_keeps {wait : CoreClient → Except Bytes α} {P : OpenVPNClient → Prop}
    {c : OpenVPNClient} (h : P c) :
    Wp.wp (await wait) (fun _ c => P c) (fun _ c => P c) c := by
  rw [await, Wp.wp_bind, Wp.wp_get]
  cases c.core with
  | none => exact h
  | some core =>
    dsimp only
    cases wait core <;> exact h

/-- What becomes of the D-Bus client. -/
theorem dbus_connectPhase2 {c : OpenVPNClient} (hmode : c.mode = .dbus) {env : Phase2Environment}
    (hbus : env.bus = .ok ()) (stateId token remoteIp : Bytes) :
    (Wp.endState (connectPhase2 settings stateId token remoteIp env c)).dbus =
      some (Wp.endState (DBusClient.connect env.dbus c.configPath stateId token remoteIp
        { logLevel := settings.logLevel })) := by
  refine Wp.endState_of_wp (P := fun c' : OpenVPNClient => c'.dbus = _) ?_
  rw [connectPhase2, Wp.wp_bind, Wp.wp_get, hmode]
  dsimp only
  rw [connectDBus, hbus]
  simp only [Wp.wp_bind, Wp.wp_get]
  split <;> rename_i hresult <;> rw [hresult] <;> rfl

end OpenVPNClient

end OpenLawsVpn
