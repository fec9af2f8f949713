import OpenLawsVpn.Text

/-!
# The D-Bus client

`DBusClient` has the tunnel set up by the `openvpn3-linux` services: it calls
their methods over D-Bus and listens to the signals of the session.

* The state (`DBusClient`) has the paths the services answered with, the flags
  the thread in `connect` waits for, and the *trace*: what the client did and
  received so far, in order.
* A signal is handled (`onStatusChange`) on the thread of the main loop. It
  leaves a line in the log and may set `connected` or `failed`, by its numbers
  and by words in its message.

The clock is read for each line of log; its readings are numbered by the length
of the trace.

What later modules prove of a handler is by induction rules for it: a property that is kept by
lines of log and by the flags is kept by `onStatusChange`, by what is polled, and by any number of
signals (`onStatusChange_induction`, `onPolledStatus_induction`, `dispatch_induction`).
-/

namespace OpenLawsVpn

/-- The path of a D-Bus object. -/
structure ObjectPath extends CString where
  slash : bytes.head? = some 47
  deriving DecidableEq, Repr

/-- A path is not empty. -/
theorem ObjectPath.bytes_ne (p : ObjectPath) : p.bytes ≠ [] := by
  intro h
  have hslash := p.slash
  rw [h] at hslash
  cases hslash

/-- A `GError`: when it is the answer of the other side, it has a name. -/
structure GError where
  remote : Option Bytes
  message : CString
  deriving DecidableEq, Repr

/-- The status of a session: two numbers and a message. -/
structure Status where
  major : UInt32
  minor : UInt32
  message : CString
  deriving DecidableEq, Repr

/-- The parameters of a signal, of the types the client looks for. -/
inductive Parameters
  | uus (status : Status)
  | uuss (type group : UInt32) (tag message : CString)
  | other
  deriving DecidableEq, Repr

/-- A signal of the session, or of its log. -/
structure Signal where
  name : CString
  parameters : Parameters
  deriving DecidableEq, Repr

/-- The signal of a status. -/
def Signal.ofStatus (st : Status) : Signal := ⟨⟨lit "StatusChange", by decide⟩, .uus st⟩

/-- A method call of the client, with the arguments that it gives to `g_variant_new`, as C
    strings and numbers, and the answer, when it is answered. -/
inductive Call
  | importConfig (content : Bytes) (reply : Except GError ObjectPath)
  | newTunnel (config : Bytes) (reply : Except GError ObjectPath)
  | introspect (session : Bytes) (reply : Bool)
  | userInputProvide (session : Bytes) (type group id : UInt32) (value : Bytes)
      (reply : Except GError Unit)
  | ready (session : Bytes) (reply : Except GError Unit)
  | logForward (session : Bytes) (reply : Except GError Unit)
  | connect (session : Bytes) (reply : Except GError Unit)
  /-- Reading the property `status`; `none` when it fails or has another type. -/
  | getStatus (session : Bytes) (reply : Option Status)
  /-- Reading the property `connected_to`, of which the client uses the first
      text; `none` when it fails or has another type. -/
  | getConnectedTo (session : Bytes) (reply : Option CString)
  | disconnect (session : Bytes)

/-- What the client does and receives. -/
inductive DBusAction
  /-- A line handed to `emit_log`. -/
  | log (line : Bytes)
  /-- A line written to the standard output. -/
  | stdout (line : Bytes)
  | call (c : Call)
  /-- A signal, at the start of its handler. -/
  | signal (s : Signal)
  /-- The clock shows that the time for the connection is over. -/
  | timedOut

/-- The state of a `DBusClient`, with its trace. -/
structure DBusClient where
  configPath : Bytes := []
  sessionPath : Bytes := []
  logLevel : ℤ := 1
  connected : Bool := false
  failed : Bool := false
  errorMsg : Bytes := []
  trace : List DBusAction := []

namespace DBusClient

/-! ## The trace -/

/-- An action is appended to the trace. -/
def push (a : DBusAction) (c : DBusClient) : DBusClient := { c with trace := c.trace ++ [a] }

/-- `emit_log`, with the log prefix. -/
def emitLog (clock : ℕ → Stamp) (text : Bytes) (c : DBusClient) : DBusClient :=
  c.push (.log (getLogPrefix (clock c.trace.length) ++ text))

/-- `emit_log`, if the log level is high enough. -/
def logAt (level : ℤ) (clock : ℕ → Stamp) (text : Bytes) (c : DBusClient) : DBusClient :=
  if level ≤ c.logLevel then c.emitLog clock text else c

/-- A line to `std::cout`, if the log level is high enough. -/
def cout (level : ℤ) (clock : ℕ → Stamp) (text : Bytes) (c : DBusClient) : DBusClient :=
  if level ≤ c.logLevel then
    c.push (.stdout (getLogPrefix (clock c.trace.length) ++ text ++ lit "\n"))
  else c

/-- The condition `connect` waits for. -/
def decided (c : DBusClient) : Bool := c.connected || c.failed

/-! ## Signals -/

/-- The words by which a message is taken for a connection. -/
def SaysConnected (message : CString) : Prop :=
  lit "Connected" <:+: message.bytes ∨ lit "CONNECTED" <:+: message.bytes

instance (message : CString) : Decidable (SaysConnected message) :=
  inferInstanceAs (Decidable (_ ∨ _))

/-- The words by which a message is taken for a failure. -/
def SaysFailed (message : CString) : Prop :=
  lit "failed" <:+: message.bytes ∨ lit "FAILED" <:+: message.bytes

instance (message : CString) : Decidable (SaysFailed message) :=
  inferInstanceAs (Decidable (_ ∨ _))

/-- The failure is noted, with its text. -/
def fail (message : Bytes) (c : DBusClient) : DBusClient :=
  { c with failed := true, errorMsg := message }

/-- The numbers and the message of a status, as they are written into the log. -/
def statusText (st : Status) : Bytes :=
  lit "(" ++ decimal st.major.toNat ++ lit ", " ++ decimal st.minor.toNat ++ lit ") " ++
    st.message.bytes ++ lit "\n"

/-- What a new status does to the flags. -/
def onStatus (clock : ℕ → Stamp) (st : Status) (c : DBusClient) : DBusClient :=
  if st.major = 2 then
    -- A word for a connection counts whatever the number says.
    if st.minor = 101 ∨ SaysConnected st.message then { c with connected := true }
    else if st.minor = 103 ∨ st.minor = 110 then
      if ¬c.connected then c.fail st.message.bytes
      else c.emitLog clock (lit " VPN Disconnected (D-Bus StatusChange)\n")
    else if st.minor = 104 ∨ st.minor = 105 ∨ SaysFailed st.message then c.fail st.message.bytes
    else c
  else if st.major = 3 then
    -- A session that ends before it is connected.
    if st.minor = 113 then if ¬c.connected then c.fail st.message.bytes else c else c
  else c

/-- What a line of the backend's log does to the flags. -/
def onLog (message : CString) (c : DBusClient) : DBusClient :=
  if SaysConnected message then { c with connected := true } else c

/-- `Impl::on_status_change`: the handler of the signals of the session. -/
def onStatusChange (clock : ℕ → Stamp) (s : Signal) (c : DBusClient) : DBusClient :=
  if s.name.bytes = lit "StatusChange" ∨ s.name.bytes = lit "Status" then
    match s.parameters with
    | .uus st => (c.logAt 1 clock (lit " D-Bus StatusChange: " ++ statusText st)).onStatus clock st
    | _ => c
  else if s.name.bytes = lit "Log" then
    match s.parameters with
    | .uuss _ _ _ message =>
      (c.logAt 1 clock (lit " D-Bus LOG: " ++ message.bytes ++ lit "\n")).onLog message
    | _ => c
  else c

/-- The main loop handles signals, in order. -/
def dispatch (clock : ℕ → Stamp) (signals : List Signal) (c : DBusClient) : DBusClient :=
  signals.foldl (fun c s => onStatusChange clock s (c.push (.signal s))) c

/-! ## Polled properties -/

/-- What a polled status does, and whether the loop ends with it. -/
def onPolledStatus (clock : ℕ → Stamp) (reply : Option Status) (c : DBusClient) :
    Bool × DBusClient :=
  match reply with
  | none => (false, c)
  | some st =>
    let c := c.logAt 2 clock (lit " Polled Status: " ++ statusText st)
    if st.major = 2 ∧ (st.minor = 101 ∨ SaysConnected st.message) then
      (true, { c with connected := true })
    else if st.major = 2 ∧ (st.minor = 104 ∨ st.minor = 105) then (true, c.fail st.message.bytes)
    else (false, c)

/-- What the polled server does, and whether the loop ends with it. -/
def onPolledConnectedTo (clock : ℕ → Stamp) (reply : Option CString) (c : DBusClient) :
    Bool × DBusClient :=
  match reply with
  | none => (false, c)
  | some host =>
    if host.bytes = [] then (false, c)
    else
      let c := c.logAt 1 clock (lit " Connected to " ++ host.bytes ++
        lit " (polled connected_to)\n")
      (true, { c with connected := true })

/-! ## What stays -/

@[simp] theorem push_trace (a : DBusAction) (c : DBusClient) :
    (c.push a).trace = c.trace ++ [a] := rfl

variable {P : DBusClient → Prop} {clock : ℕ → Stamp} {c : DBusClient}

/-- A line of output, if the level allows it. -/
theorem cout_induction (hlog : ∀ line, P (c.push (.stdout line))) (h : P c) (level : ℤ)
    (text : Bytes) : P (c.cout level clock text) := by
  rw [cout]
  split_ifs
  · exact hlog _
  · exact h

/-- A line of log, if the level allows it. -/
theorem logAt_induction (hlog : ∀ line, P (c.push (.log line))) (h : P c) (level : ℤ)
    (text : Bytes) : P (c.logAt level clock text) := by
  rw [logAt]
  split_ifs
  · exact hlog _
  · exact h

/-- A property of the client is kept by the handler of a signal if it is kept by
    lines of log and by changes of the flags. -/
theorem onStatusChange_induction (hlog : ∀ c line, P c → P (c.push (.log line)))
    (hconnected : ∀ c, P c → P { c with connected := true })
    (hfail : ∀ c what, P c → P (c.fail what)) (s : Signal) (h : P c) :
    P (onStatusChange clock s c) := by
  have hstatus : ∀ st c, P c → P (onStatus clock st c) := fun st c hc => by
    rw [onStatus]
    split_ifs <;> first | exact hc | exact hconnected c hc | exact hfail c _ hc | exact hlog c _ hc
  have honLog : ∀ message c, P c → P (onLog message c) := fun message c hc => by
    rw [onLog]
    split_ifs <;> first | exact hc | exact hconnected c hc
  have hlogAt : ∀ text, P (c.logAt 1 clock text) := logAt_induction (hlog c · h) h 1
  -- A signal of another type of parameters is not looked into.
  rw [onStatusChange]
  by_cases hname : s.name.bytes = lit "StatusChange" ∨ s.name.bytes = lit "Status"
  · rw [if_pos hname]
    cases s.parameters with
    | uus st => exact hstatus st _ (hlogAt _)
    | uuss => exact h
    | other => exact h
  · rw [if_neg hname]
    by_cases hname' : s.name.bytes = lit "Log"
    · rw [if_pos hname']
      cases s.parameters with
      | uus => exact h
      | uuss type group tag message => exact honLog message _ (hlogAt _)
      | other => exact h
    · rwa [if_neg hname']

/-- A status that is polled is logged, and may set the flags. -/
theorem onPolledStatus_induction (hlog : ∀ c line, P c → P (c.push (.log line)))
    (hconnected : ∀ c, P c → P { c with connected := true })
    (hfail : ∀ c what, P c → P (c.fail what)) (reply : Option Status) (h : P c) :
    P (onPolledStatus clock reply c).2 := by
  cases reply with
  | none => exact h
  | some st =>
    have hlogAt : P (c.logAt 2 clock (lit " Polled Status: " ++ statusText st)) :=
      logAt_induction (hlog c · h) h 2 _
    unfold onPolledStatus
    dsimp only
    split_ifs
    · exact hconnected _ hlogAt
    · exact hfail _ _ hlogAt
    · exact hlogAt

/-- An address that is polled leaves lines, and may set the flag. -/
theorem onPolledConnectedTo_induction (hlog : ∀ c line, P c → P (c.push (.log line)))
    (hconnected : ∀ c, P c → P { c with connected := true }) (reply : Option CString) (h : P c) :
    P (onPolledConnectedTo clock reply c).2 := by
  cases reply with
  | none => exact h
  | some host =>
    rw [onPolledConnectedTo]
    dsimp only
    split_ifs
    · exact h
    · exact hconnected _ (logAt_induction (hlog c · h) h 1 _)

/-- What every signal keeps, all of them keep. -/
theorem dispatch_induction {signals : List Signal}
    (hsignal : ∀ c, ∀ s ∈ signals, P c → P (onStatusChange clock s (c.push (.signal s))))
    (h : P c) : P (c.dispatch clock signals) := by
  rw [dispatch]
  induction signals generalizing c with
  | nil => exact h
  | cons s signals ih =>
    exact ih (fun c s hs => hsignal c s (List.mem_cons_of_mem _ hs))
      (hsignal c s List.mem_cons_self h)

/-- A property is kept by the handlers of signals if it is kept by the actions they
    leave and by changes of the flags. -/
theorem dispatch_induction_of_push (hlog : ∀ c line, P c → P (c.push (.log line)))
    (hsignal : ∀ c s, P c → P (c.push (.signal s)))
    (hconnected : ∀ c, P c → P { c with connected := true })
    (hfail : ∀ c what, P c → P (c.fail what)) (signals : List Signal) (h : P c) :
    P (c.dispatch clock signals) :=
  dispatch_induction (fun c s _ h =>
    onStatusChange_induction hlog hconnected hfail s (hsignal c s h)) h

end DBusClient

end OpenLawsVpn
