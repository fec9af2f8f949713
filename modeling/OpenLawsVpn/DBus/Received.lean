import OpenLawsVpn.DBus.Connected

/-!
# Reading what was received

Some values of the client are read off the trace: each is the last thing that the
actions say, given whether the client is connected (`Reading`, `lastRead`). That
a value is one of these all along an attempt follows from looking at each kind of
action once (`Tells.invariant`).

The message of the failure noted is such a value (`tells_failure`). So the text of
the exception that an attempt ends with is known from what was received
(`wp_connect_exception`): fixed words, and a message quoted from outside
(`quoted`).

* `connected_signal`: whether the client is connected is itself read off the trace;
* `Tells.invariant`: the rule for a value that is last told;
* `failure_onStatusChange`, `failure_onPolledStatus`: which actions tell a failure;
* `wp_connect_exception`: the text of the exception of an attempt.
-/

namespace OpenLawsVpn

open Wp

/-- A status that counts as a failure, when the client is `connected` or not. -/
def Status.Fails (connected : Bool) (st : Status) : Prop :=
  st.major = 2 ∧ ¬(st.minor = 101 ∨ DBusClient.SaysConnected st.message) ∧
      (if st.minor = 103 ∨ st.minor = 110 then connected = false
        else st.minor = 104 ∨ st.minor = 105 ∨ DBusClient.SaysFailed st.message) ∨
    st.major = 3 ∧ st.minor = 113 ∧ connected = false

instance (connected : Bool) (st : Status) : Decidable (st.Fails connected) :=
  inferInstanceAs (Decidable (_ ∧ _ ∧ _ ∨ _ ∧ _ ∧ _))

/-- A status that counts as a failure when it is polled. -/
def Status.FailsPolled (st : Status) : Prop :=
  st.major = 2 ∧ ¬(st.minor = 101 ∨ DBusClient.SaysConnected st.message) ∧
    (st.minor = 104 ∨ st.minor = 105)

instance (st : Status) : Decidable st.FailsPolled :=
  inferInstanceAs (Decidable (_ ∧ _ ∧ _))

/-- The message of a failure that is received. -/
def DBusAction.failure (connected : Bool) : DBusAction → Option Bytes
  | .signal s => s.status.bind fun st => if st.Fails connected then some st.message.bytes else none
  | .call (.getStatus _ reply) =>
    reply.bind fun st => if st.FailsPolled then some st.message.bytes else none
  | _ => none

instance (a : DBusAction) : Decidable a.SetsConnected :=
  inferInstanceAs (Decidable ((∃ st ∈ a.status, _) ∨ (∃ m ∈ a.logMessage, _) ∨ ∃ host ∈ a.server, _))

namespace DBusClient

/-! ## Readings -/

/-- What an action says, when the client is `connected` or not. -/
abbrev Reading (α : Type) := Bool → DBusAction → Option α

variable {α : Type} {read : Reading α} {clock : ℕ → Stamp} {c : DBusClient}

/-- Following the actions: whether one was taken for a connection, and what was
    last said. -/
def follow (read : Reading α) : Bool × Option α → DBusAction → Bool × Option α
  | (connected, last), a => (connected || decide a.SetsConnected, (read connected a).or last)

/-- What a reading makes of a trace. -/
def lastRead (read : Reading α) (trace : List DBusAction) : Bool × Option α :=
  trace.foldl (follow read) (false, none)

theorem lastRead_append (trace : List DBusAction) (a : DBusAction) :
    lastRead read (trace ++ [a]) = follow read (lastRead read trace) a := by
  rw [lastRead, List.foldl_append]
  rfl

/-- The flag, after what a signal or a poll brings. -/
theorem connected_signal (s : Signal) :
    (onStatusChange clock s (c.push (.signal s))).connected =
      (c.connected || decide (DBusAction.signal s).SetsConnected) := by
  rw [Bool.eq_iff_iff, connected_onStatusChange, Bool.or_eq_true, decide_eq_true_iff]
  rfl

/-- A status that is polled sets the flag if it tells of a connection. -/
theorem connected_polledStatus (session : Bytes) (reply : Option Status) :
    (onPolledStatus clock reply (c.push (.call (.getStatus session reply)))).2.connected =
      (c.connected || decide (DBusAction.call (.getStatus session reply)).SetsConnected) := by
  rw [Bool.eq_iff_iff, connected_onPolledStatus session, Bool.or_eq_true, decide_eq_true_iff]
  rfl

theorem connected_polledConnectedTo (session : Bytes) (reply : Option CString) :
    (onPolledConnectedTo clock reply (c.push (.call (.getConnectedTo session reply)))).2.connected =
      (c.connected || decide (DBusAction.call (.getConnectedTo session reply)).SetsConnected) := by
  rw [Bool.eq_iff_iff, connected_onPolledConnectedTo session, Bool.or_eq_true, decide_eq_true_iff]
  rfl

/-- An action in which nothing is received that matters. -/
def IsSilent : DBusAction → Prop
  | .signal _ => False
  | .call k => IsQuiet k
  | _ => True

/-- What is silent does not. -/
theorem not_setsConnected_of_isSilent {a : DBusAction} (h : IsSilent a) : ¬a.SetsConnected := by
  have hnone : a.status = none ∧ a.logMessage = none ∧ a.server = none := by
    cases a with
    | signal s => exact h.elim
    | call k => cases k <;> first | exact h.elim | exact ⟨rfl, rfl, rfl⟩
    | _ => exact ⟨rfl, rfl, rfl⟩
  simp [DBusAction.SetsConnected, hnone]

/-- A value of the client is what was last read, as far as single actions go, in
    the states of the invariant `R`. -/
structure Tells (env : Environment) (R : DBusClient → Prop) (read : Reading α)
    (value : DBusClient → Option α) : Prop where
  kept : Invariant env R
  silent : ∀ connected a, IsSilent a → read connected a = none
  stdout : ∀ c line, value (c.push (.stdout line)) = value c
  call : ∀ c k, IsQuiet k → value (c.push (.call k)) = value c
  timedOut : ∀ c, value (c.push .timedOut) = value c
  configPath : ∀ c path, value { c with configPath := path } = value c
  sessionPath : ∀ c path, value { c with sessionPath := path } = value c
  announcement : ∀ c, ∀ text ∈ announcements, R c → value (c.emitLog env.clock text) = value c
  signal : ∀ c s, R c → value (onStatusChange env.clock s (c.push (.signal s))) =
    (read c.connected (.signal s)).or (value c)
  polledStatus : ∀ c session reply, R c →
    value (onPolledStatus env.clock reply (c.push (.call (.getStatus session reply)))).2 =
      (read c.connected (.call (.getStatus session reply))).or (value c)
  polledConnectedTo : ∀ c session reply, R c →
    value (onPolledConnectedTo env.clock reply (c.push (.call (.getConnectedTo session reply)))).2 =
      (read c.connected (.call (.getConnectedTo session reply))).or (value c)

namespace Tells

variable {env : Environment} {R : DBusClient → Prop} {value : DBusClient → Option α}

variable (h : Tells env R read value)
include h

/-- A reading skips what is silent. -/
theorem lastRead_push {a : DBusAction} (ha : IsSilent a) :
    lastRead read (c.push a).trace = lastRead read c.trace := by
  rw [push_trace, lastRead_append, follow, h.silent _ a ha,
    decide_eq_false (not_setsConnected_of_isSilent ha), Bool.or_false]
  rfl

theorem follows_push {a : DBusAction} (ha : IsSilent a) (hvalue : value (c.push a) = value c)
    (hc : lastRead read c.trace = (c.connected, value c)) :
    lastRead read (c.push a).trace = ((c.push a).connected, value (c.push a)) := by
  rw [h.lastRead_push ha, hc, hvalue]
  rfl

/-- The value is what was last read, all along. -/
theorem invariant :
    Invariant env fun c => R c ∧ lastRead read c.trace = (c.connected, value c) where
  stdout c line hc :=
    ⟨h.kept.stdout c line hc.1, h.follows_push (by trivial) (h.stdout c line) hc.2⟩
  call c k hk hc := ⟨h.kept.call c k hk hc.1, h.follows_push (a := .call k) hk (h.call c k hk) hc.2⟩
  timedOut c hc := ⟨h.kept.timedOut c hc.1, h.follows_push (by trivial) (h.timedOut c) hc.2⟩
  configPath c path hc := ⟨h.kept.configPath c path hc.1, by rw [h.configPath]; exact hc.2⟩
  sessionPath c path hc := ⟨h.kept.sessionPath c path hc.1, by rw [h.sessionPath]; exact hc.2⟩
  announcement c text htext hc := by
    refine ⟨h.kept.announcement c text htext hc.1, ?_⟩
    rw [h.announcement c text htext hc.1, emitLog, h.lastRead_push (by trivial), hc.2]
    rfl
  -- What the handler does after it noted the signal reads nothing.
  signal c s hs hc := by
    refine ⟨h.kept.signal c s hs hc.1, ?_⟩
    have hread : lastRead read (onStatusChange env.clock s (c.push (.signal s))).trace =
        lastRead read (c.push (.signal s)).trace :=
      onStatusChange_induction (P := fun c' => lastRead read c'.trace = lastRead read _)
        (fun _ _ h' => (h.lastRead_push (by trivial)).trans h') (fun _ h' => h') (fun _ _ h' => h')
        s rfl
    rw [hread, push_trace, lastRead_append, hc.2, follow, ← h.signal c s hc.1, connected_signal]
  polledStatus c session w hw hc := by
    refine ⟨h.kept.polledStatus c session w hw hc.1, ?_⟩
    have hread : lastRead read (onPolledStatus env.clock w.status
        (c.push (.call (.getStatus session w.status)))).2.trace =
          lastRead read (c.push (.call (.getStatus session w.status))).trace :=
      onPolledStatus_induction (P := fun c' => lastRead read c'.trace = lastRead read _)
        (fun _ _ h' => (h.lastRead_push (by trivial)).trans h') (fun _ h' => h') (fun _ _ h' => h')
        w.status rfl
    rw [hread, push_trace, lastRead_append, hc.2, follow, ← h.polledStatus c session w.status hc.1,
      connected_polledStatus]
  polledConnectedTo c session w hw hc := by
    refine ⟨h.kept.polledConnectedTo c session w hw hc.1, ?_⟩
    have hread : lastRead read (onPolledConnectedTo env.clock w.connectedTo
        (c.push (.call (.getConnectedTo session w.connectedTo)))).2.trace =
          lastRead read (c.push (.call (.getConnectedTo session w.connectedTo))).trace :=
      onPolledConnectedTo_induction (P := fun c' => lastRead read c'.trace = lastRead read _)
        (fun _ _ h' => (h.lastRead_push (by trivial)).trans h') (fun _ h' => h') w.connectedTo rfl
    rw [hread, push_trace, lastRead_append, hc.2, follow,
      ← h.polledConnectedTo c session w.connectedTo hc.1, connected_polledConnectedTo]

end Tells

/-! ## Failures -/

/-- The message of the failure noted. -/
def failure (c : DBusClient) : Option Bytes := if c.failed then some c.errorMsg else none

theorem failure_logAt (level : ℤ) (text : Bytes) : (c.logAt level clock text).failure = c.failure :=
  logAt_induction (P := (·.failure = c.failure)) (fun _ => rfl) rfl level text

/-- A status that fails is the failure from then on. -/
theorem failure_onStatus (st : Status) :
    (onStatus clock st c).failure =
      if st.Fails c.connected then some st.message.bytes else c.failure := by
  unfold onStatus Status.Fails
  split_ifs <;> simp_all [failure, fail, emitLog, push]

/-- A line of the session is no failure. -/
theorem failure_onLog (m : CString) : (onLog m c).failure = c.failure := by
  rw [onLog]
  split_ifs <;> rfl

/-- A signal is a failure if its status is. -/
theorem failure_onStatusChange (s : Signal) :
    (onStatusChange clock s c).failure =
      ((DBusAction.signal s).failure c.connected).or c.failure := by
  rw [onStatusChange_eq, DBusAction.failure]
  cases hst : s.status with
  | some st =>
    dsimp only [Option.bind_some]
    rw [failure_onStatus, connected_logAt, failure_logAt]
    split_ifs <;> rfl
  | none =>
    cases hlog : s.logMessage with
    | some m =>
      dsimp only
      rw [failure_onLog, failure_logAt]
      rfl
    | none => rfl

/-- A status that is polled is kept as a failure exactly if it is one to a poll. -/
theorem failure_onPolledStatus (session : Bytes) (reply : Option Status) :
    (onPolledStatus clock reply c).2.failure =
      ((DBusAction.call (.getStatus session reply)).failure c.connected).or c.failure := by
  cases reply with
  | none => rfl
  | some st =>
    have hlog : (c.logAt 2 clock (lit " Polled Status: " ++ statusText st)).failure = c.failure :=
      failure_logAt 2 _
    rw [DBusAction.failure, Option.bind_some]
    unfold onPolledStatus
    dsimp only
    by_cases hconnected : st.major = 2 ∧ (st.minor = 101 ∨ SaysConnected st.message)
    · rw [if_pos hconnected, if_neg fun h : st.FailsPolled => h.2.1 hconnected.2]
      exact hlog
    · rw [if_neg hconnected]
      by_cases hfailed : st.major = 2 ∧ (st.minor = 104 ∨ st.minor = 105)
      · rw [if_pos hfailed, if_pos ⟨hfailed.1, fun h => hconnected ⟨hfailed.1, h⟩, hfailed.2⟩]
        rfl
      · rw [if_neg hfailed, if_neg fun h : st.FailsPolled => hfailed ⟨h.1, h.2.2⟩]
        exact hlog

theorem failure_onPolledConnectedTo (reply : Option CString) :
    (onPolledConnectedTo clock reply c).2.failure = c.failure := by
  exact onPolledConnectedTo_induction (P := (·.failure = c.failure)) (fun _ _ h => h)
    (fun _ h => h) reply rfl

/-- The failure noted is the last one received, and without one there is no message. -/
theorem tells_failure (env : Environment) :
    Tells env (fun c => c.errorMsg = c.failure.getD []) DBusAction.failure failure where
  kept := .of_push (fun _ _ h => h) (fun _ _ h => h) (fun _ _ h => h) (fun _ h => h) fun _ _ _ => rfl
  silent connected a ha := by
    cases a with
    | signal s => exact ha.elim
    | call k => cases k <;> first | exact ha.elim | rfl
    | _ => rfl
  stdout _ _ := rfl
  call _ _ _ := rfl
  timedOut _ := rfl
  configPath _ _ := rfl
  sessionPath _ _ := rfl
  announcement _ _ _ _ := rfl
  signal c s _ := failure_onStatusChange s
  polledStatus c session reply _ := failure_onPolledStatus session reply
  polledConnectedTo c session reply _ := failure_onPolledConnectedTo reply

/-! ## Exceptions -/

/-- The message that an exception quotes, by what was received: that of the last
    setback, or else of the last failure. -/
def quoted (trace : List DBusAction) : Bytes :=
  match lastSetback trace with
  | some x => x.message
  | none => (lastRead DBusAction.failure trace).2.getD []

/-- The text of an exception, by what was received. -/
theorem wp_connect_exception (env : Environment) (configFile stateId token remoteIp : Bytes)
    (level : ℤ) :
    wp (connect env configFile stateId token remoteIp) (fun _ _ => True)
      (fun e c => ∀ what, e = .threw what →
        env.file = none ∧ what = lit "Cannot open config file: " ++ configFile ∨
        env.file.isSome ∧ what = (exception c).what ∧ (exception c).message = quoted c.trace)
      { logLevel := level } := by
  have hphases := (tells_failure env).invariant.phases
  refine wp_mono (hphases.wp_connect ⟨rfl, rfl⟩ configFile stateId token remoteIp)
    (fun _ _ _ => trivial) fun e c h what he => ?_
  -- The message of the client is the failure read last, if it has one.
  have hquoted : ∀ c : DBusClient, c.errorMsg = c.failure.getD [] ∧
      lastRead DBusAction.failure c.trace = (c.connected, c.failure) →
        (exception c).message = quoted c.trace := by
    rintro c ⟨hmessage, hlast⟩
    rw [exception, quoted]
    cases lastSetback c.trace with
    | some x => rfl
    | none => exact hmessage.trans (by rw [hlast])
  cases h with
  | noProfile he' _ hfile => exact .inl ⟨hfile, Stop.threw.inj (he.symm.trans he')⟩
  | noSession he' h hfile =>
    rcases he' with he' | he'
    · cases he.symm.trans he'
    · exact .inr ⟨hfile, Stop.threw.inj (he.symm.trans he'), hquoted c h⟩
  | live he' h hcreates =>
    exact .inr ⟨hcreates.1, Stop.threw.inj (he.symm.trans he'), hquoted c h⟩
  | waiting he' => cases he.symm.trans he'
  | clean he' h hcreates =>
    exact .inr ⟨hcreates.1, Stop.threw.inj (he.symm.trans he'), hquoted c h⟩

end DBusClient

end OpenLawsVpn
