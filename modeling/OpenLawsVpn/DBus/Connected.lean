import OpenLawsVpn.DBus.Phases

/-!
# What is taken for a connection

The flag `connected` is set exactly if something the client received is taken
for a connection (`connected_iff`): a status with the numbers of a connection or
with a word for it, a line of the backend's log with such a word, or a server.

The word is looked for as a part of the message, so `DISCONNECTED` is taken for
`CONNECTED`. When nothing received reports a connection, an attempt stays
unconnected, and does not return, exactly if no message says `DISCONNECTED`
(`not_connected_iff`).

* `SetsConnected`: an action is taken for a connection, and `Told`: one of the trace is;
* `onStatusChange_eq`: the handler of signals, by what a signal brings;
* `connected_onStatusChange`, `connected_onPolledStatus`, `connected_onPolledConnectedTo`: the flag
  after each kind of action;
* `not_connected_iff`: the criterion, for all signals and polls;
* `drops_returns`: an attempt that returns for `DISCONNECTED`.
-/

namespace OpenLawsVpn

open Wp

/-! ## What is received -/

/-- The status that a signal brings. -/
def Signal.status (s : Signal) : Option Status :=
  if s.name.bytes = lit "StatusChange" ∨ s.name.bytes = lit "Status" then
    match s.parameters with
    | .uus st => some st
    | _ => none
  else none

/-- The line of the backend's log that a signal brings. -/
def Signal.logMessage (s : Signal) : Option CString :=
  if s.name.bytes = lit "Log" then
    match s.parameters with
    | .uuss _ _ _ message => some message
    | _ => none
  else none

/-- A signal of a status has no line of log. -/
theorem Signal.logMessage_of_status (s : Signal) {st : Status} (h : s.status = some st) :
    s.logMessage = none := by
  have hname : s.name.bytes ≠ lit "Log" := by
    intro hlog
    rw [Signal.status, if_neg (by rw [hlog]; decide)] at h
    cases h
  rw [Signal.logMessage, if_neg hname]

namespace DBusAction

/-- A status received, by a signal or a poll. -/
def status : DBusAction → Option Status
  | .signal s => s.status
  | .call (.getStatus _ reply) => reply
  | _ => none

/-- A line of the backend's log received. -/
def logMessage : DBusAction → Option CString
  | .signal s => s.logMessage
  | _ => none

/-- A server received. -/
def server : DBusAction → Option CString
  | .call (.getConnectedTo _ reply) => reply
  | _ => none

/-- What is taken for a connection. -/
def SetsConnected (a : DBusAction) : Prop :=
  (∃ st, a.status = some st ∧ st.major = 2 ∧ (st.minor = 101 ∨ DBusClient.SaysConnected st.message)) ∨
    (∃ m, a.logMessage = some m ∧ DBusClient.SaysConnected m) ∨
    ∃ host, a.server = some host ∧ host.bytes ≠ []

end DBusAction

namespace DBusClient

variable {clock : ℕ → Stamp} {c : DBusClient}

/-- The handler of the signals, by what the signal brings. -/
theorem onStatusChange_eq (s : Signal) :
    onStatusChange clock s c =
      match s.status, s.logMessage with
      | some st, _ => (c.logAt 1 clock (lit " D-Bus StatusChange: " ++ statusText st)).onStatus clock st
      | none, some m => (c.logAt 1 clock (lit " D-Bus LOG: " ++ m.bytes ++ lit "\n")).onLog m
      | none, none => c := by
  rw [onStatusChange, Signal.status, Signal.logMessage]
  by_cases hname : s.name.bytes = lit "StatusChange" ∨ s.name.bytes = lit "Status"
  · have hlog : s.name.bytes ≠ lit "Log" := by
      rcases hname with h | h <;> rw [h] <;> decide
    simp only [if_pos hname, if_neg hlog]
    cases s.parameters <;> rfl
  · simp only [if_neg hname]
    by_cases hlog : s.name.bytes = lit "Log"
    · simp only [if_pos hlog]
      cases s.parameters <;> rfl
    · simp only [if_neg hlog]

/-- A line of log does not set the flag. -/
theorem connected_logAt (level : ℤ) (text : Bytes) :
    (c.logAt level clock text).connected = c.connected :=
  logAt_induction (P := (·.connected = c.connected)) (fun _ => rfl) rfl level text

/-- A status of the session sets the flag if it says that it is connected. -/
theorem connected_onStatus (st : Status) :
    (onStatus clock st c).connected = true ↔
      c.connected = true ∨ st.major = 2 ∧ (st.minor = 101 ∨ SaysConnected st.message) := by
  rw [onStatus]
  split_ifs <;> simp_all [fail, emitLog, push]

/-- A line of the session sets it if it has one of the phrases. -/
theorem connected_onLog (m : CString) :
    (onLog m c).connected = true ↔ c.connected = true ∨ SaysConnected m := by
  rw [onLog]
  split_ifs with h <;> simp [h]

/-- Something received was taken for a connection. -/
def Told (c : DBusClient) : Prop := ∃ a ∈ c.trace, a.SetsConnected

/-- What tells of a connection is an action of the trace. -/
theorem told_push {a : DBusAction} : Told (c.push a) ↔ Told c ∨ a.SetsConnected := by
  simp only [Told, push_trace, List.mem_append, List.mem_singleton]
  constructor
  · rintro ⟨b, hb | rfl, h⟩
    · exact .inl ⟨b, hb, h⟩
    · exact .inr h
  · rintro (⟨b, hb, h⟩ | h)
    · exact ⟨b, .inl hb, h⟩
    · exact ⟨a, .inr rfl, h⟩

/-- What has no status, no line and no server tells of none. -/
theorem told_push_of_none {a : DBusAction} (hstatus : a.status = none)
    (hlog : a.logMessage = none) (hserver : a.server = none) : Told (c.push a) ↔ Told c := by
  simp [told_push, DBusAction.SetsConnected, hstatus, hlog, hserver]

theorem told_onStatusChange (s : Signal) : Told (onStatusChange clock s c) ↔ Told c :=
  onStatusChange_induction (P := fun c' => Told c' ↔ Told c)
    (fun _ _ h => (told_push_of_none rfl rfl rfl).trans h) (fun _ h => h) (fun _ _ h => h) s Iff.rfl

/-- A signal sets the flag exactly if it tells of a connection. -/
theorem connected_onStatusChange (s : Signal) :
    (onStatusChange clock s c).connected = true ↔
      c.connected = true ∨ (DBusAction.signal s).SetsConnected := by
  rw [onStatusChange_eq]
  simp only [DBusAction.SetsConnected, DBusAction.status, DBusAction.logMessage,
    DBusAction.server, reduceCtorEq, false_and, exists_false, or_false]
  cases hst : s.status with
  | some st => simp [connected_onStatus, connected_logAt, s.logMessage_of_status hst]
  | none =>
    cases hlog : s.logMessage with
    | some m => simp [connected_onLog, connected_logAt]
    | none => simp

/-- A status that is polled sets the flag exactly if it tells of a connection. -/
theorem connected_onPolledStatus (session : Bytes) (reply : Option Status) :
    (onPolledStatus clock reply c).2.connected = true ↔
      c.connected = true ∨ (DBusAction.call (.getStatus session reply)).SetsConnected := by
  simp only [DBusAction.SetsConnected, DBusAction.status, DBusAction.logMessage,
    DBusAction.server, reduceCtorEq, false_and, exists_false, or_false]
  cases reply with
  | none => simp [onPolledStatus]
  | some st =>
    unfold onPolledStatus
    dsimp only
    split_ifs with h <;> simp_all [fail, connected_logAt]

theorem told_onPolledStatus (reply : Option Status) :
    Told (onPolledStatus clock reply c).2 ↔ Told c :=
  onPolledStatus_induction (P := fun c' => Told c' ↔ Told c)
    (fun _ _ h => (told_push_of_none rfl rfl rfl).trans h) (fun _ h => h) (fun _ _ h => h) reply
    Iff.rfl

/-- An address that is polled sets the flag exactly if there is one. -/
theorem connected_onPolledConnectedTo (session : Bytes) (reply : Option CString) :
    (onPolledConnectedTo clock reply c).2.connected = true ↔
      c.connected = true ∨ (DBusAction.call (.getConnectedTo session reply)).SetsConnected := by
  simp only [DBusAction.SetsConnected, DBusAction.status, DBusAction.logMessage,
    DBusAction.server, reduceCtorEq, false_and, exists_false, false_or]
  cases reply with
  | none => simp [onPolledConnectedTo]
  | some host =>
    rw [onPolledConnectedTo]
    dsimp only
    split_ifs with h <;> simp [h]

theorem told_onPolledConnectedTo (reply : Option CString) :
    Told (onPolledConnectedTo clock reply c).2 ↔ Told c :=
  onPolledConnectedTo_induction (P := fun c' => Told c' ↔ Told c)
    (fun _ _ h => (told_push_of_none rfl rfl rfl).trans h) (fun _ h => h) reply Iff.rfl

/-- The flag is set exactly if something received was taken for a connection. -/
theorem invariant_connected (env : Environment) :
    Invariant env (fun c => c.connected = true ↔ Told c) where
  stdout c line h := h.trans (told_push_of_none rfl rfl rfl).symm
  call c k hk h := by
    refine h.trans (told_push_of_none ?_ rfl ?_).symm <;> cases k <;> first | rfl | exact hk.elim
  timedOut c h := h.trans (told_push_of_none rfl rfl rfl).symm
  configPath _ _ h := h
  sessionPath _ _ h := h
  announcement c text _ h := h.trans (told_push_of_none rfl rfl rfl).symm
  signal c s _ h := by
    rw [connected_onStatusChange, told_onStatusChange, told_push]
    exact or_congr_left h
  polledStatus c session w _ h := by
    rw [connected_onPolledStatus session, told_onPolledStatus, told_push]
    exact or_congr_left h
  polledConnectedTo c session w _ h := by
    rw [connected_onPolledConnectedTo session, told_onPolledConnectedTo, told_push]
    exact or_congr_left h

/-! ## Without a connection -/

/-- The words for a connection are only found in those for a disconnection. -/
def OnlyDisconnected (m : CString) : Prop :=
  Search.OnlyWithin [lit "Connected", lit "CONNECTED"] [lit "Disconnected", lit "DISCONNECTED"]
    m.bytes

instance (m : CString) : Decidable (OnlyDisconnected m) :=
  inferInstanceAs (Decidable (Search.OnlyWithin _ _ _))

/-- A message without a word for a connection is taken for one exactly if it says
    `DISCONNECTED`: `Disconnected` has no capital in it. -/
theorem saysConnected_iff {m : CString} (h : OnlyDisconnected m) :
    SaysConnected m ↔ lit "DISCONNECTED" <:+: m.bytes := by
  have hword : ∀ word ∈ [lit "Connected", lit "CONNECTED"], word <:+: m.bytes →
      lit "DISCONNECTED" <:+: m.bytes := by
    intro word hword hm
    obtain ⟨w, hw, hsub, hinf⟩ := Search.OnlyWithin.exists_infix h hword hm
    simp only [List.mem_cons, List.not_mem_nil, or_false] at hw hword
    rcases hw with rfl | rfl
    · rcases hword with rfl | rfl <;> exact absurd hsub (by decide)
    · exact hinf
  constructor
  · rintro (h' | h')
    · exact hword _ List.mem_cons_self h'
    · exact hword _ (List.mem_cons_of_mem _ List.mem_cons_self) h'
  · exact fun h' => .inr (List.IsInfix.trans (by decide) h')

end DBusClient

namespace DBusAction

/-- What is received does not report a connection. -/
structure NoConnection (a : DBusAction) : Prop where
  status : ∀ st, a.status = some st →
    ¬(st.major = 2 ∧ st.minor = 101) ∧ DBusClient.OnlyDisconnected st.message
  logMessage : ∀ m, a.logMessage = some m → DBusClient.OnlyDisconnected m
  server : ∀ host, a.server = some host → host.bytes = []

/-- A message in which the client looks for a connection says `DISCONNECTED`. -/
def SaysDisconnected (a : DBusAction) : Prop :=
  (∃ st, a.status = some st ∧ st.major = 2 ∧ lit "DISCONNECTED" <:+: st.message.bytes) ∨
    ∃ m, a.logMessage = some m ∧ lit "DISCONNECTED" <:+: m.bytes

/-- What reports no connection sets the flag only by its words on a disconnection. -/
theorem NoConnection.setsConnected_iff {a : DBusAction} (h : a.NoConnection) :
    a.SetsConnected ↔ a.SaysDisconnected := by
  constructor
  · rintro (⟨st, hst, hmajor, hminor | hsays⟩ | ⟨m, hm, hsays⟩ | ⟨host, hhost, hne⟩)
    · exact ((h.status st hst).1 ⟨hmajor, hminor⟩).elim
    · exact .inl ⟨st, hst, hmajor, (DBusClient.saysConnected_iff (h.status st hst).2).1 hsays⟩
    · exact .inr ⟨m, hm, (DBusClient.saysConnected_iff (h.logMessage m hm)).1 hsays⟩
    · exact (hne (h.server host hhost)).elim
  · rintro (⟨st, hst, hmajor, hsays⟩ | ⟨m, hm, hsays⟩)
    · exact .inl ⟨st, hst, hmajor, .inr ((DBusClient.saysConnected_iff (h.status st hst).2).2 hsays)⟩
    · exact .inr (.inl ⟨m, hm, (DBusClient.saysConnected_iff (h.logMessage m hm)).2 hsays⟩)

end DBusAction

namespace DBusClient

variable {env : Environment} {configFile stateId token remoteIp : Bytes} {level : ℤ}

/-- Nothing that may be received reports a connection. -/
structure ReportsNothing (env : Environment) : Prop where
  signals : ∀ s ∈ env.signals, (DBusAction.signal s).NoConnection
  status : ∀ w ∈ env.waits, (DBusAction.call (.getStatus [] w.status)).NoConnection
  server : ∀ w ∈ env.waits, (DBusAction.call (.getConnectedTo [] w.connectedTo)).NoConnection

/-- Where nothing reports a connection, nothing in the trace does. -/
theorem invariant_noConnection (h : ReportsNothing env) :
    Invariant env (fun c => ∀ a ∈ c.trace, a.NoConnection) := by
  have hpush : ∀ (c : DBusClient) (a : DBusAction), a.NoConnection →
      (∀ a ∈ c.trace, a.NoConnection) → ∀ b ∈ (c.push a).trace, b.NoConnection := by
    intro c a ha hc b hb
    rw [push_trace, List.mem_append, List.mem_singleton] at hb
    rcases hb with hb | rfl
    · exact hc b hb
    · exact ha
  -- A line of log is none of the three actions that could tell of a connection.
  have hlog : ∀ (c : DBusClient) line, (∀ a ∈ c.trace, a.NoConnection) →
      ∀ a ∈ (c.push (.log line)).trace, a.NoConnection := fun c line =>
    hpush c _ ⟨by rintro _ ⟨⟩, by rintro _ ⟨⟩, by rintro _ ⟨⟩⟩
  refine {
    stdout := fun c line => hpush c _ ⟨by rintro _ ⟨⟩, by rintro _ ⟨⟩, by rintro _ ⟨⟩⟩
    call := fun c k hk => hpush c _ ?_
    timedOut := fun c => hpush c _ ⟨by rintro _ ⟨⟩, by rintro _ ⟨⟩, by rintro _ ⟨⟩⟩
    configPath := fun _ _ hc => hc
    sessionPath := fun _ _ hc => hc
    announcement := fun c _ _ => hlog c _
    signal := fun c s hs hc => onStatusChange_induction hlog (fun _ hc => hc) (fun _ _ hc => hc) s
      (hpush c _ (h.signals s hs) hc)
    polledStatus := fun c session w hw hc => onPolledStatus_induction hlog (fun _ hc => hc)
      (fun _ _ hc => hc) w.status (hpush c _ ?_ hc)
    polledConnectedTo := fun c session w hw hc => onPolledConnectedTo_induction hlog
      (fun _ hc => hc) w.connectedTo (hpush c _ ?_ hc) }
  · cases k <;> first | exact hk.elim | exact ⟨by rintro _ ⟨⟩, by rintro _ ⟨⟩, by rintro _ ⟨⟩⟩
  · exact ⟨(h.status w hw).1, (h.status w hw).2, (h.status w hw).3⟩
  · exact ⟨(h.server w hw).1, (h.server w hw).2, (h.server w hw).3⟩

/-- When nothing reports a connection, an attempt does not return, and the flag
    stays unset, exactly if no message that the client looks into says
    `DISCONNECTED`. -/
theorem not_connected_iff (h : ReportsNothing env) :
    ((∀ c, connect env configFile stateId token remoteIp { logLevel := level } ≠ .ok () c) ∧
      (endState (connect env configFile stateId token remoteIp { logLevel := level })).connected =
        false) ↔
      ∀ a ∈ (endState (connect env configFile stateId token remoteIp { logLevel := level })).trace,
        ¬a.SaysDisconnected := by
  have hinit : ({ logLevel := level } : DBusClient).connected = true ↔
      Told { logLevel := level } := by simp [Told]
  have hconn := (invariant_connected env).wp_connect hinit configFile stateId token remoteIp
  have hnone := (invariant_noConnection h).wp_connect (c := { logLevel := level }) (by simp)
    configFile stateId token remoteIp
  -- Two invariants hold at the end: what sets the flag, and what the trace does not tell.
  set r := connect env configFile stateId token remoteIp { logLevel := level } with hr
  have hend := endState_of_wp (wp_mono hconn (fun _ _ h => h.1) fun _ _ h => h)
  have hend' := endState_of_wp (wp_mono hnone (fun _ _ h => h.1) fun _ _ h => h)
  rw [← hr] at hend hend'
  have hiff : (endState r).connected = true ↔ ∃ a ∈ (endState r).trace, a.SaysDisconnected := by
    rw [hend, Told]
    exact exists_congr fun a => and_congr_right fun ha => (hend' a ha).setsConnected_iff
  constructor
  · rintro ⟨-, hfalse⟩ a ha hsays
    rw [hiff.2 ⟨a, ha, hsays⟩] at hfalse
    cases hfalse
  · intro hall
    have hfalse : (endState r).connected = false := by
      rw [← Bool.not_eq_true, hiff]
      rintro ⟨a, ha, hsays⟩
      exact hall a ha hsays
    refine ⟨fun c hc => ?_, hfalse⟩
    have hconnected := (post_of_wp hconn (hr ▸ hc)).2
    rw [hc] at hfalse
    exact Bool.false_ne_true (hfalse.symm.trans hconnected)

/-! ## A disconnection taken for a connection -/

/-- The status of a session that ends. -/
def droppedStatus : Status := ⟨2, 103, ⟨lit "DISCONNECTED", by decide⟩⟩

/-- The services set a session up, which reports that it is disconnected. -/
def drops : Environment := { setsUp with waits := [{ signals := [.ofStatus droppedStatus] }] }

theorem drops_reportsNothing : ReportsNothing drops where
  signals s hs := by
    have hs : s = .ofStatus droppedStatus := by
      simpa [drops, setsUp, Environment.signals, WaitIteration.handled] using hs
    rw [hs]
    refine ⟨fun st hst => ?_, by rintro _ ⟨⟩, by rintro _ ⟨⟩⟩
    obtain rfl : droppedStatus = st := Option.some.inj hst
    decide
  status w hw := by
    rw [List.mem_singleton.1 hw]
    exact ⟨by rintro _ ⟨⟩, by rintro _ ⟨⟩, by rintro _ ⟨⟩⟩
  server w hw := by
    rw [List.mem_singleton.1 hw]
    exact ⟨by rintro _ ⟨⟩, by rintro _ ⟨⟩, by rintro _ ⟨⟩⟩

theorem not_connected_iff_drops :
    ((∀ c, connect drops (lit "vpn.ovpn") (lit "state") (lit "token") [] { logLevel := 1 } ≠
        .ok () c) ∧
      (endState (connect drops (lit "vpn.ovpn") (lit "state") (lit "token") []
        { logLevel := 1 })).connected = false) ↔
      ∀ a ∈ (endState (connect drops (lit "vpn.ovpn") (lit "state") (lit "token") []
        { logLevel := 1 })).trace, ¬a.SaysDisconnected :=
  not_connected_iff drops_reportsNothing

/-- The attempt returns, connected. -/
theorem drops_returns :
    ReportsNothing drops ∧
      ∃ c, connect drops (lit "vpn.ovpn") (lit "state") (lit "token") [] { logLevel := 1 } =
        .ok () c ∧ c.connected = true :=
  ⟨drops_reportsNothing, _, rfl, rfl⟩

end DBusClient

end OpenLawsVpn
