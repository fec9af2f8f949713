import OpenLawsVpn.DBus.Exception

/-!
# The phases of a connection attempt

An attempt first has no session, then one that lives, and then, if it cleans up,
one that is disconnected. What is proved about attempts has a property of the
client for each of these phases (`Phases`): the other actions keep it (`Kept`),
and the calls that create and disconnect a session lead from one to the next.

Each step of `connect` has one rule, with what its end says about the answers of
the services. Together they tell how an attempt ends (`Phases.wp_connect`): it
returns connected, in the phase with a session, or it throws in one of the ways
of `Ending`. The text of the exception is that of the last setback, or else of
the failure noted in the state (`DBusClient.exception`).

* `Phases`, `Kept`: the three properties, and what has to be shown of the actions;
* `Ending`: the ways in which an attempt throws, each with what the services answered;
* `wp_awaitSession`, `wp_awaitReady`, `wp_startConnect`, `wp_waitLoop`, `wp_finish`: the steps;
* `Phases.wp_connect`: the attempt.
-/

namespace OpenLawsVpn.DBusClient

open Wp

/-! ## What the services answer -/

/-- The first answer (of five) which is not one of the errors to try again is the
    path `p`. -/
def Answers (retried : GError → Bool) (replies : ℕ → Except GError ObjectPath)
    (p : ObjectPath) : Prop :=
  ∃ i < 5, (∀ j < i, ∃ e, replies j = .error e ∧ retried e) ∧ replies i = .ok p

/-- A session is created: the profile can be read, and the two services answer
    with paths. -/
def CreatesSession (env : Environment) : Prop :=
  env.file.isSome ∧ (∃ p, Answers importRetried env.importConfig p) ∧
    ∃ p, Answers newTunnelRetried env.newTunnel p

/-- The session gets to the wait loop: its object appears, it gets ready, and it
    connects. -/
def Starts (env : Environment) : Prop :=
  (∃ i < 20, env.introspect i = true) ∧ (∃ i < 20, env.ready i = .ok ()) ∧ env.connect = .ok ()

theorem setsUp_creates : CreatesSession setsUp :=
  ⟨rfl, ⟨_, 0, by decide, by simp, rfl⟩, _, 0, by decide, by simp, rfl⟩

theorem setsUp_starts : Starts setsUp := ⟨⟨0, by decide, rfl⟩, ⟨0, by decide, rfl⟩, rfl⟩

section Answers

variable {retried : GError → Bool} {replies : ℕ → Except GError ObjectPath} {i : ℕ}

/-- An error that is not retried leaves no answer. -/
theorem not_answers_of_error (hprev : ∀ j < i, ∃ e, replies j = .error e ∧ retried e) {e : GError}
    (he : replies i = .error e) (hretried : ¬retried e) : ¬∃ p, Answers retried replies p := by
  rintro ⟨p, k, -, hk, hp⟩
  rcases lt_trichotomy k i with hki | rfl | hik
  · obtain ⟨e', he', -⟩ := hprev k hki
    rw [he'] at hp
    cases hp
  · rw [he] at hp
    cases hp
  · obtain ⟨e', he', hr⟩ := hk i hik
    rw [he, Except.error.injEq] at he'
    exact hretried (he' ▸ hr)

theorem not_answers_of_exhausted (hprev : ∀ j < 5, ∃ e, replies j = .error e ∧ retried e) :
    ¬∃ p, Answers retried replies p := by
  rintro ⟨p, k, hk5, -, hp⟩
  obtain ⟨e, he, -⟩ := hprev k hk5
  rw [he] at hp
  cases hp

end Answers

/-! ## Properties of a phase -/

/-- A call that neither creates or disconnects a session nor reads a property. -/
def IsOrdinary : Call → Prop
  | .newTunnel _ (.ok _) => False
  | .disconnect _ => False
  | .getStatus .. => False
  | .getConnectedTo .. => False
  | _ => True

/-- The lines of log which `connect` writes whatever happens. -/
def announcements : List Bytes :=
  [lit " Calling Connect() via D-Bus...\n", lit " Waiting for connection to be established...\n"]

/-- A property that every action keeps, but for creating and disconnecting a
    session, with the signals and the answers of the environment. -/
structure Kept (env : Environment) (P : DBusClient → Prop) : Prop where
  stdout : ∀ c line, P c → P (c.push (.stdout line))
  call : ∀ c k, IsOrdinary k → P c → P (c.push (.call k))
  timedOut : ∀ c, P c → P (c.push .timedOut)
  configPath : ∀ c path, P c → P { c with configPath := path }
  announcement : ∀ c, ∀ text ∈ announcements, P c → P (c.emitLog env.clock text)
  signal : ∀ c, ∀ s ∈ env.signals, P c → P (onStatusChange env.clock s (c.push (.signal s)))
  polledStatus : ∀ c session, ∀ w ∈ env.waits, P c →
    P (onPolledStatus env.clock w.status (c.push (.call (.getStatus session w.status)))).2
  polledConnectedTo : ∀ c session, ∀ w ∈ env.waits, P c →
    P (onPolledConnectedTo env.clock w.connectedTo
      (c.push (.call (.getConnectedTo session w.connectedTo)))).2

/-- The signals of an iteration are among those that may be handled. -/
theorem mem_signals {env : Environment} {w : WaitIteration} (hw : w ∈ env.waits) {s : Signal}
    (hs : s ∈ w.handled) : s ∈ env.signals := by
  simp only [Environment.signals, List.mem_append, List.mem_flatMap]
  exact .inl (.inl (.inl (.inr ⟨w, hw, hs⟩)))

/-- A poll that ends the loop has decided. -/
theorem decided_of_onPolledStatus {clock : ℕ → Stamp} {reply : Option Status} {c : DBusClient}
    (h : (onPolledStatus clock reply c).1 = true) :
    (onPolledStatus clock reply c).2.decided = true := by
  cases reply with
  | none => cases h
  | some st =>
    unfold onPolledStatus at h ⊢
    dsimp only at h ⊢
    split_ifs at h ⊢
    · rfl
    · simp [decided, fail]

/-- An address that ends the wait decides it. -/
theorem decided_of_onPolledConnectedTo {clock : ℕ → Stamp} {reply : Option CString}
    {c : DBusClient} (h : (onPolledConnectedTo clock reply c).1 = true) :
    (onPolledConnectedTo clock reply c).2.decided = true := by
  cases reply with
  | none => cases h
  | some host =>
    rw [onPolledConnectedTo] at h ⊢
    dsimp only at h ⊢
    split_ifs at h ⊢
    rfl

theorem connected_dispatch (clock : ℕ → Stamp) {c : DBusClient} (h : c.connected = true)
    (signals : List Signal) : (c.dispatch clock signals).connected = true :=
  dispatch_induction_of_push (P := (·.connected = true)) (fun _ _ h => h) (fun _ _ h => h)
    (fun _ _ => rfl) (fun _ _ h => h) signals h

theorem decided_dispatch (clock : ℕ → Stamp) {c : DBusClient} (h : c.decided = true)
    (signals : List Signal) : (c.dispatch clock signals).decided = true :=
  dispatch_induction_of_push (P := (·.decided = true)) (fun _ _ h => h) (fun _ _ h => h)
    (fun _ _ => Bool.true_or _) (fun _ _ _ => Bool.or_true _) signals h

theorem sessionPath_dispatch {clock : ℕ → Stamp} {c : DBusClient} (signals : List Signal) :
    (c.dispatch clock signals).sessionPath = c.sessionPath :=
  dispatch_induction_of_push (P := (·.sessionPath = c.sessionPath)) (fun _ _ h => h)
    (fun _ _ h => h) (fun _ h => h) (fun _ _ h => h) signals rfl

namespace Kept

variable {env : Environment} {P : DBusClient → Prop} {c : DBusClient}

variable (hP : Kept env P)
include hP

theorem cout (h : P c) (level : ℤ) (text : Bytes) : P (c.cout level env.clock text) :=
  cout_induction (fun _ => hP.stdout c _ h) h level text

theorem announce (text : Bytes) (htext : text ∈ announcements) (h : P c) :
    P (c.logAt 1 env.clock text) := by
  rw [logAt]
  split_ifs
  · exact hP.announcement c text htext h
  · exact h

theorem dispatch (signals : List Signal) (hsub : ∀ s ∈ signals, s ∈ env.signals) (h : P c) :
    P (c.dispatch env.clock signals) :=
  dispatch_induction (fun c s hs => hP.signal c s (hsub s hs)) h

/-! ### Setting up the session -/

/-- The note of the address keeps it. -/
theorem wp_noteRemoteIp (h : P c) (remoteIp : Bytes) :
    wp (noteRemoteIp env remoteIp) (fun _ c => P c) (fun _ _ => False) c := by
  simp only [noteRemoteIp, wp_ite, wp_modify, wp_pure]
  split_ifs
  · exact hP.cout h 1 _
  · exact h

/-- The import keeps it, and returns exactly if an attempt is answered. -/
theorem wp_importConfig (h : P c) (content : Bytes) :
    wp (importConfig env content)
      (fun _ c => P c ∧ ∃ q, Answers importRetried env.importConfig q)
      (fun e c => e = .threw (exception c).what ∧ P c ∧
        ¬∃ q, Answers importRetried env.importConfig q) c := by
  rw [importConfig, wp_bind]
  -- All attempts before were retried, and the last of them is the setback.
  refine wp_attempts (fun i last c => P c ∧
    (∀ j < i, ∃ e, env.importConfig j = .error e ∧ importRetried e) ∧
    (i = 0 ∨ ∃ e, last = some e ∧ lastSetback c.trace =
      some ⟨lit "Failed to import configuration: ", e.message.bytes⟩))
    (fun i _ c hi ⟨h, hprev, _⟩ => ?_) (fun last c ⟨h, hprev, hlast⟩ => ?_) ⟨h, by simp⟩
  · rw [wp_bind, wp_modify]
    have h' := hP.call c (.importConfig (cStr content) (env.importConfig i)) trivial h
    cases hreply : env.importConfig i with
    | ok path =>
      rw [hreply] at h'
      simp only [wp_pure, Sum.elim_inr, wp_bind, wp_modify]
      exact ⟨hP.cout (hP.configPath _ _ h') 1 _, path, i, by omega, hprev, hreply⟩
    | error e =>
      rw [hreply] at h'
      have hsetback : lastSetback (c.push (.call (.importConfig (cStr content) (.error e)))).trace =
          some ⟨lit "Failed to import configuration: ", e.message.bytes⟩ :=
        lastSetback_append_of_step rfl
      simp only [wp_ite, wp_bind, wp_modify, wp_pure]
      split_ifs with hretried
      · exact ⟨hP.cout h' 1 _, Nat.forall_lt_succ_right.2 ⟨hprev, e, hreply, hretried⟩,
          .inr ⟨e, rfl, (lastSetback_cout 1 _).trans hsetback⟩⟩
      · exact ⟨threw_exception hsetback, h', not_answers_of_error hprev hreply hretried⟩
  · obtain ⟨e, rfl, hsetback⟩ := hlast.resolve_left (by decide)
    exact ⟨threw_exception hsetback, h, not_answers_of_exhausted hprev⟩

/-- `NewTunnel` leads to what holds of a session, exactly if an attempt is answered. -/
theorem wp_newTunnel {Q : DBusClient → Prop} (hQ : Kept env Q)
    (hcreated : ∀ c path, P c → Q { c.push (.call (.newTunnel c.configPath (.ok path))) with
      sessionPath := path.bytes }) (h : P c) :
    wp (newTunnel env)
      (fun _ c => Q c ∧ ∃ q, Answers newTunnelRetried env.newTunnel q)
      (fun e c => (e = .undefined ∨ e = .threw (exception c).what) ∧ P c ∧
        ¬∃ q, Answers newTunnelRetried env.newTunnel q) c := by
  rw [newTunnel, wp_bind]
  refine wp_attempts (fun i _ c => P c ∧
    ∀ j < i, ∃ e, env.newTunnel j = .error e ∧ newTunnelRetried e)
    (fun i _ c hi ⟨h, hprev⟩ => ?_) (fun last c ⟨h, hprev⟩ => ?_) ⟨h, by simp⟩
  · rw [wp_bind, wp_get, wp_bind, wp_modify]
    cases hreply : env.newTunnel i with
    | ok path =>
      exact ⟨hQ.cout (hcreated c path h) 1 _, path, i, by omega, hprev, hreply⟩
    | error e =>
      simp only [wp_ite, wp_pure]
      have h' := hP.call c (.newTunnel c.configPath (.error e)) trivial h
      split_ifs with hretried
      · exact ⟨h', Nat.forall_lt_succ_right.2 ⟨hprev, e, hreply, hretried⟩⟩
      · exact ⟨.inr (threw_push (x := ⟨_, _⟩) rfl), h', not_answers_of_error hprev hreply hretried⟩
  · exact ⟨.inl rfl, h, not_answers_of_exhausted hprev⟩

/-- The wait for the session returns exactly if the object appears in time. -/
theorem wp_awaitSession (h : P c) :
    wp (awaitSession env)
      (fun _ c => P c ∧ ∃ i < 20, env.introspect i = true)
      (fun e c => e = .threw (exception c).what ∧ P c ∧ ¬∃ i < 20, env.introspect i = true) c := by
  rw [awaitSession, wp_bind]
  refine wp_attempts (fun i _ c => P c ∧ (∀ j < i, env.introspect j = false) ∧
    (i = 0 ∨ lastSetback c.trace =
      some ⟨lit "Timeout waiting for session object to become available on D-Bus", []⟩))
    (fun i _ c hi ⟨h, hprev, _⟩ => ?_) (fun _ c ⟨h, hprev, hlast⟩ => ?_) ⟨h, by simp⟩
  · simp only [wp_bind, wp_get, wp_modify, wp_pure]
    have h' := hP.call c (.introspect c.sessionPath (env.introspect i)) trivial h
    cases hready : env.introspect i with
    | true => exact ⟨hready ▸ h', i, by omega, hready⟩
    | false =>
      exact ⟨hready ▸ h', Nat.forall_lt_succ_right.2 ⟨hprev, hready⟩,
        .inr (lastSetback_append_of_step rfl)⟩
  · refine ⟨threw_exception (hlast.resolve_left (by decide)), h, ?_⟩
    rintro ⟨i, hi, hready⟩
    rw [hprev i hi] at hready
    cases hready

/-- A credential is provided, and a failure of it is ignored. -/
theorem wp_provideCredential (h : P c) (loop : ℕ) (type group id : UInt32) (value : Bytes) :
    wp (provideCredential env loop type group id value) (fun _ c => P c) (fun _ _ => False) c := by
  simp only [provideCredential, wp_bind, wp_modify, wp_get]
  have h' := hP.cout h 2 (lit " Providing credential: type=" ++ decimal type.toNat ++
    lit ", group=" ++ decimal group.toNat ++ lit ", id=" ++ decimal id.toNat)
  cases env.userInputProvide loop id with
  | ok => exact hP.call _ _ (by trivial) h'
  | error e => exact hP.cout (hP.call _ _ (by trivial) h') 2 _

/-- The loop returns exactly if the session gets ready in time. -/
theorem wp_awaitReady (h : P c) (password : Bytes) :
    wp (awaitReady env password)
      (fun _ c => P c ∧ ∃ i < 20, env.ready i = .ok ())
      (fun e c => e = .threw (exception c).what ∧ P c ∧ ¬∃ i < 20, env.ready i = .ok ()) c := by
  rw [awaitReady, wp_bind]
  -- No attempt before found the session ready.
  refine wp_attempts (fun i _ c => P c ∧ (∀ j < i, env.ready j ≠ .ok ()) ∧
    (i = 0 ∨ lastSetback c.trace = some ⟨lit "Session not ready for connection", []⟩))
    (fun i _ c hi ⟨h, hprev, _⟩ => ?_) (fun _ c ⟨h, hprev, hlast⟩ => ?_) ⟨h, by simp⟩
  · rw [wp_bind]
    refine wp_mono (hP.wp_provideCredential h i 1 1 0 _) (fun _ c h => ?_) fun _ _ h => h.elim
    rw [wp_bind]
    refine wp_mono (hP.wp_provideCredential h i 1 1 1 _) (fun _ c h => ?_) fun _ _ h => h.elim
    rw [wp_bind, wp_get, wp_bind, wp_modify]
    cases hready : env.ready i with
    | ok => exact ⟨hP.cout (hP.call _ _ (by trivial) h) 1 _, i, by omega, hready⟩
    | error e =>
      simp only [wp_ite, wp_bind, wp_modify, wp_pure]
      have h' := hP.call c (.ready c.sessionPath (.error e)) trivial h
      have hprev' : ∀ j < i + 1, env.ready j ≠ .ok () :=
        Nat.forall_lt_succ_right.2 ⟨hprev, by simp [hready]⟩
      have hsetback : lastSetback (c.push (.call (.ready c.sessionPath (.error e)))).trace =
          some ⟨lit "Session not ready for connection", []⟩ := lastSetback_append_of_step rfl
      split_ifs
      · exact ⟨hP.cout h' 1 _, hprev', .inr ((lastSetback_cout 1 _).trans hsetback)⟩
      · exact ⟨h', hprev', .inr hsetback⟩
  · refine ⟨threw_exception (hlast.resolve_left (by decide)), h, ?_⟩
    rintro ⟨i, hi, hready⟩
    exact hprev i hi hready

/-! ### Connecting -/

/-- A failure of the subscription to the log is ignored. -/
theorem wp_logForward (h : P c) :
    wp (logForward env) (fun _ c => P c) (fun _ _ => False) c := by
  simp only [logForward, wp_bind, wp_modify, wp_get]
  have h' := hP.dispatch env.logForwardSignals (by simp_all [Environment.signals]) h
  cases env.logForward with
  | ok => exact hP.call _ _ (by trivial) h'
  | error e => exact hP.cout (hP.call _ _ (by trivial) h') 2 _

/-- `Connect` returns exactly if it is not refused. -/
theorem wp_callConnect (h : P c) :
    wp (callConnect env)
      (fun _ c => (P c ∧ lastSetback c.trace = none) ∧ env.connect = .ok ())
      (fun e c => e = .threw (exception c).what ∧ P c ∧ env.connect ≠ .ok ()) c := by
  simp only [callConnect, wp_bind, wp_modify, wp_get]
  have h' := hP.dispatch env.connectSignals (by simp_all [Environment.signals]) h
  cases env.connect with
  | ok => exact ⟨⟨hP.call _ _ (by trivial) h', lastSetback_append_of_step rfl⟩, rfl⟩
  | error e => exact ⟨threw_push (x := ⟨_, _⟩) rfl, hP.call _ _ (by trivial) h', by simp⟩

/-- The step around `Connect` returns exactly if the call is not refused. -/
theorem wp_startConnect (h : P c) :
    wp (startConnect env)
      (fun _ c => (P c ∧ lastSetback c.trace = none) ∧ env.connect = .ok ())
      (fun e c => e = .threw (exception c).what ∧ P c ∧ env.connect ≠ .ok ()) c := by
  simp only [startConnect, wp_bind, wp_modify]
  have h' := hP.announce (lit " Calling Connect() via D-Bus...\n") (by simp [announcements]) h
  refine wp_mono (hP.wp_logForward h') (fun _ c h => ?_) fun _ _ h => h.elim
  refine wp_mono (hP.wp_callConnect h) (fun _ c h => ?_) fun _ _ h => h
  obtain ⟨⟨h, hnone⟩, hconnect⟩ := h
  exact ⟨⟨hP.announce _ (by simp [announcements]) h, (lastSetback_logAt 1 _).trans hnone⟩, hconnect⟩

/-- A status that ends the wait decides it. -/
theorem wp_pollStatus (h : P c) {w : WaitIteration} (hw : w ∈ env.waits) :
    wp (pollStatus env w)
      (fun ended c => (P c ∧ lastSetback c.trace = none) ∧ (ended = true → c.decided = true))
      (fun _ _ => False) c := by
  simp only [pollStatus, wp_bind, wp_get, wp_modify, wp_modifyGet]
  have h' := hP.dispatch w.statusSignals
    (fun s hs => mem_signals hw (by simp [WaitIteration.handled, hs])) h
  exact ⟨⟨hP.polledStatus _ _ w hw h', (lastSetback_onPolledStatus _).trans
    (lastSetback_append_of_step rfl)⟩, decided_of_onPolledStatus⟩

theorem wp_pollConnectedTo (h : P c) {w : WaitIteration} (hw : w ∈ env.waits) :
    wp (pollConnectedTo env w)
      (fun ended c => (P c ∧ lastSetback c.trace = none) ∧ (ended = true → c.decided = true))
      (fun _ _ => False) c := by
  simp only [pollConnectedTo, wp_bind, wp_get, wp_modify, wp_modifyGet]
  have h' := hP.dispatch w.connectedToSignals
    (fun s hs => mem_signals hw (by simp [WaitIteration.handled, hs])) h
  exact ⟨⟨hP.polledConnectedTo _ _ w hw h', (lastSetback_onPolledConnectedTo _).trans
    (lastSetback_append_of_step rfl)⟩, decided_of_onPolledConnectedTo⟩

end Kept

/-! ## The phases -/

/-- A property for each phase: before a session is created, while it lives, and
    after it is disconnected. -/
structure Phases (env : Environment) (before live after : DBusClient → Prop) : Prop where
  keptBefore : Kept env before
  keptLive : Kept env live
  created : ∀ c path, before c → live { c.push (.call (.newTunnel c.configPath (.ok path))) with
    sessionPath := path.bytes }
  disconnected : ∀ c, live c → c.sessionPath ≠ [] → after (c.push (.call (.disconnect c.sessionPath)))
  -- Without a path there is nothing to disconnect.
  noPath : ∀ c, live c → c.sessionPath = [] → after c

/-- How an attempt throws: without the profile; without a session; before the wait
    loop, with its session; in the wait loop; or after cleaning up. -/
inductive Ending (env : Environment) (configFile : Bytes) (before live after : DBusClient → Prop)
    (e : Stop) (c : DBusClient) : Prop
  | noProfile (he : e = .threw (lit "Cannot open config file: " ++ configFile)) (h : before c)
      (hfile : env.file = none)
  | noSession (he : e = .undefined ∨ e = .threw (exception c).what) (h : before c)
      (hfile : env.file.isSome) (hnot : ¬CreatesSession env)
  | live (he : e = .threw (exception c).what) (h : live c) (hcreates : CreatesSession env)
      (hnot : ¬Starts env)
  | waiting (he : e = .waiting) (h : live c) (hcreates : CreatesSession env) (hstarts : Starts env)
  | clean (he : e = .threw (exception c).what) (h : after c) (hcreates : CreatesSession env)
      (hstarts : Starts env)

namespace Phases

variable {env : Environment} {before live after : DBusClient → Prop} {c : DBusClient}

variable (hphases : Phases env before live after)
include hphases

/-- To clean up ends the session. -/
theorem wp_cleanUp (h : live c) :
    wp (cleanUp env) (fun _ c' => after c' ∧ lastSetback c'.trace = lastSetback c.trace)
      (fun _ _ => False) c := by
  simp only [cleanUp, disconnect, wp_bind, wp_get, wp_ite, wp_modify, wp_pure]
  by_cases hpath : c.sessionPath = []
  · rw [if_neg (not_not.2 hpath)]
    exact ⟨hphases.noPath c h hpath, trivial⟩
  · rw [if_pos hpath, if_neg hpath]
    have h' := hphases.keptLive.dispatch env.disconnectSignals (by simp_all [Environment.signals]) h
    have hdisconnected := hphases.disconnected _ h'
    rw [sessionPath_dispatch] at hdisconnected
    exact ⟨hdisconnected hpath, (lastSetback_append_of_none rfl).trans (lastSetback_dispatch _)⟩

/-- The loop ends with a decision. -/
theorem wp_waitLoop {waits : List WaitIteration} (hsub : ∀ w ∈ waits, w ∈ env.waits)
    (h : live c) (hnone : lastSetback c.trace = none) :
    wp (waitLoop env waits) (fun _ c => (live c ∧ lastSetback c.trace = none) ∧ c.decided = true)
      (fun e c => e = .waiting ∧ live c ∨ e = .threw (exception c).what ∧ after c) c := by
  induction waits generalizing c with
  | nil => exact .inl ⟨rfl, h⟩
  | cons w waits ih =>
    have hkept := hphases.keptLive
    simp only [waitLoop, wp_bind, wp_get, wp_modify, wp_ite, wp_pure]
    have hw := hsub w List.mem_cons_self
    have h' := hkept.dispatch w.signals
      (fun s hs => mem_signals hw (by simp [WaitIteration.handled, hs])) h
    by_cases hdecided : (c.dispatch env.clock w.signals).decided = true
    · rw [if_pos hdecided]
      exact ⟨⟨h', (lastSetback_dispatch _).trans hnone⟩, hdecided⟩
    rw [if_neg hdecided]
    refine wp_mono (hkept.wp_pollStatus h' hw) (fun ended c h => ?_) fun _ _ h => h.elim
    obtain ⟨⟨h, hnone⟩, hend⟩ := h
    by_cases hended : ended = true
    · rw [if_pos hended]
      exact ⟨⟨h, hnone⟩, hend hended⟩
    rw [if_neg hended]
    refine wp_mono (hkept.wp_pollConnectedTo h hw) (fun ended c h => ?_) fun _ _ h => h.elim
    obtain ⟨⟨h, hnone⟩, hend⟩ := h
    split_ifs with hended htimed
    · exact ⟨⟨h, hnone⟩, hend hended⟩
    · refine wp_mono (hphases.wp_cleanUp (hkept.timedOut c h)) (fun _ c h => ?_) fun _ _ h => h.elim
      obtain ⟨h, hsetback⟩ := h
      -- The time that is over is the last step.
      rw [push_trace, lastSetback_append_of_step rfl] at hsetback
      exact .inr ⟨threw_exception hsetback, h⟩
    · exact ih (fun w hw => hsub w (List.mem_cons_of_mem _ hw)) h hnone

/-- The result is a connection, or the failure that was told, after which nothing is left. -/
theorem wp_finish (h : live c) (hnone : lastSetback c.trace = none) (hdecided : c.decided = true) :
    wp (finish env) (fun _ c => live c ∧ c.connected = true)
      (fun e c => e = .threw (exception c).what ∧ after c) c := by
  have hkept := hphases.keptLive
  simp only [finish, wp_bind, wp_get, wp_modify, wp_ite]
  have h' := hkept.dispatch env.decidedSignals (by simp_all [Environment.signals]) h
  have hdecided' := decided_dispatch env.clock hdecided env.decidedSignals
  split_ifs with hfailed
  · refine wp_mono (hphases.wp_cleanUp h') (fun _ c h => ?_) fun _ _ h => h.elim
    obtain ⟨h, hsetback⟩ := h
    rw [lastSetback_dispatch, hnone] at hsetback
    refine ⟨?_, h⟩
    rw [exception, hsetback]
    rfl
  · have hconnected : (c.dispatch env.clock env.decidedSignals).connected = true := by
      simpa [decided, hfailed] using hdecided'
    have hconnected' := connected_dispatch env.clock hconnected env.returnSignals
    refine ⟨hkept.cout (hkept.dispatch _ (by simp_all [Environment.signals]) h') 1 _, ?_⟩
    exact cout_induction (P := (·.connected = true)) (fun _ => hconnected') hconnected' 1 _

/-- How an attempt ends: it returns connected, with its session, or it throws. -/
theorem wp_connect (h : before c) (configFile stateId token remoteIp : Bytes) :
    wp (connect env configFile stateId token remoteIp)
      (fun _ c => live c ∧ c.connected = true ∧ Starts env)
      (fun e c => Ending env configFile before live after e c) c := by
  obtain ⟨hbefore, hlive, hcreated, -, -⟩ := id hphases
  rw [connect]
  cases hfile : env.file with
  | none => exact .noProfile rfl h hfile
  | some content =>
    have hsome : env.file.isSome := by rw [hfile]; rfl
    simp only [readAndFilterConfig, wp_bind]
    refine wp_mono (hbefore.wp_noteRemoteIp h remoteIp) (fun _ c h => ?_) fun _ _ h => h.elim
    refine wp_mono (hbefore.wp_importConfig h _) (fun _ c h => ?_)
      fun _ _ h => .noSession (.inr h.1) h.2.1 hsome fun hc => h.2.2 hc.2.1
    obtain ⟨h, himport⟩ := h
    refine wp_mono (hbefore.wp_newTunnel hlive hcreated h) (fun _ c h => ?_)
      fun _ _ h => .noSession h.1 h.2.1 hsome fun hc => h.2.2 hc.2.2
    obtain ⟨h, htunnel⟩ := h
    have hcreates : CreatesSession env := ⟨hsome, himport, htunnel⟩
    -- From here on, the session has to be disconnected.
    have hthrow : ∀ e c (Q : Prop), (Starts env → Q) →
        e = .threw (exception c).what ∧ live c ∧ ¬Q →
          Ending env configFile before live after e c := by
      rintro e c Q hQ ⟨he, h, hnot⟩
      exact .live he h hcreates fun hs => hnot (hQ hs)
    refine wp_mono (hlive.wp_awaitSession h) (fun _ c h => ?_)
      fun e c h => hthrow e c _ (fun hs => hs.1) h
    obtain ⟨h, hsession⟩ := h
    refine wp_mono (hlive.wp_awaitReady h _) (fun _ c h => ?_)
      fun e c h => hthrow e c _ (fun hs => hs.2.1) h
    obtain ⟨h, hready⟩ := h
    refine wp_mono (hlive.wp_startConnect h) (fun _ c h => ?_)
      fun e c h => hthrow e c _ (fun hs => hs.2.2) h
    obtain ⟨⟨h, hnone⟩, hconnect⟩ := h
    have hstarts : Starts env := ⟨hsession, hready, hconnect⟩
    refine wp_mono (hphases.wp_waitLoop (fun _ hw => hw) h hnone) (fun _ c h => ?_)
      fun _ _ h => h.elim (fun h => .waiting h.1 h.2 hcreates hstarts)
        fun h => .clean h.1 h.2 hcreates hstarts
    obtain ⟨⟨h, hnone⟩, hdecided⟩ := h
    exact wp_mono (hphases.wp_finish h hnone hdecided) (fun _ _ h => ⟨h.1, h.2, hstarts⟩)
      fun _ _ h => .clean h.1 h.2 hcreates hstarts

end Phases

/-! ## One property for all phases -/

/-- A call that does not read a property. -/
def IsQuiet : Call → Prop
  | .getStatus .. => False
  | .getConnectedTo .. => False
  | _ => True

/-- A property that every action keeps, with the signals and the answers of the
    environment. -/
structure Invariant (env : Environment) (P : DBusClient → Prop) : Prop where
  stdout : ∀ c line, P c → P (c.push (.stdout line))
  call : ∀ c k, IsQuiet k → P c → P (c.push (.call k))
  timedOut : ∀ c, P c → P (c.push .timedOut)
  configPath : ∀ c path, P c → P { c with configPath := path }
  sessionPath : ∀ c path, P c → P { c with sessionPath := path }
  announcement : ∀ c, ∀ text ∈ announcements, P c → P (c.emitLog env.clock text)
  signal : ∀ c, ∀ s ∈ env.signals, P c → P (onStatusChange env.clock s (c.push (.signal s)))
  polledStatus : ∀ c session, ∀ w ∈ env.waits, P c →
    P (onPolledStatus env.clock w.status (c.push (.call (.getStatus session w.status)))).2
  polledConnectedTo : ∀ c session, ∀ w ∈ env.waits, P c →
    P (onPolledConnectedTo env.clock w.connectedTo
      (c.push (.call (.getConnectedTo session w.connectedTo)))).2

namespace Invariant

variable {env : Environment} {P : DBusClient → Prop} {c : DBusClient}

/-- A property in which no action by itself matters. -/
theorem of_push (hpush : ∀ c a, P c → P (c.push a))
    (hconfigPath : ∀ c path, P c → P { c with configPath := path })
    (hsessionPath : ∀ c path, P c → P { c with sessionPath := path })
    (hconnected : ∀ c, P c → P { c with connected := true })
    (hfail : ∀ c what, P c → P (c.fail what)) : Invariant env P where
  stdout c _ := hpush c _
  call c _ _ := hpush c _
  timedOut c := hpush c _
  configPath := hconfigPath
  sessionPath := hsessionPath
  announcement c _ _ := hpush c _
  signal c s _ h := onStatusChange_induction (fun c _ => hpush c _) hconnected hfail s (hpush c _ h)
  polledStatus c _ w _ h := onPolledStatus_induction (fun c _ => hpush c _) hconnected hfail
    w.status (hpush c _ h)
  polledConnectedTo c _ w _ h := onPolledConnectedTo_induction (fun c _ => hpush c _)
    hconnected w.connectedTo (hpush c _ h)

/-- What holds at any time is kept. -/
theorem kept (hP : Invariant env P) : Kept env P where
  stdout := hP.stdout
  call c k hk h := by
    refine hP.call c k ?_ h
    cases k <;> first | exact hk.elim | trivial
  timedOut := hP.timedOut
  configPath := hP.configPath
  announcement := hP.announcement
  signal := hP.signal
  polledStatus := hP.polledStatus
  polledConnectedTo := hP.polledConnectedTo

theorem phases (hP : Invariant env P) : Phases env P P P where
  keptBefore := hP.kept
  keptLive := hP.kept
  created c path h := hP.sessionPath _ _ (hP.call c _ (by trivial) h)
  disconnected c h _ := hP.call c _ (by trivial) h
  noPath _ h _ := h

/-- The invariant holds wherever the attempt ends; and it returns connected. -/
theorem wp_connect (hP : Invariant env P) (h : P c) (configFile stateId token remoteIp : Bytes) :
    wp (connect env configFile stateId token remoteIp) (fun _ c => P c ∧ c.connected = true)
      (fun _ c => P c) c := by
  refine wp_mono (hP.phases.wp_connect h configFile stateId token remoteIp)
    (fun _ c h => ⟨h.1, h.2.1⟩) fun e c h => ?_
  cases h with
  | noProfile he h => exact h
  | noSession he h => exact h
  | live he h => exact h
  | waiting he h => exact h
  | clean he h => exact h

end Invariant

end OpenLawsVpn.DBusClient
