import OpenLawsVpn.DBus.Phases

/-!
# The calls of an attempt

All calls of a connection attempt are known, with their arguments (`Made`). A
property of the client that is kept by them, by lines of log and by the handlers
of signals (`Steady`) is kept by every step of the attempt, but for the two that
store the paths of the configuration and of the session: what they lead to is
said where they store them.

So an attempt leads from a property that holds before the import to one with the
configuration, and on to one with the session (`wp_connect_of_steady`). It ends
without an answer for the path of the session exactly if the errors of all five
attempts are ones to try again (`Exhausted`).

* `Steady`: what has to be shown of such a property, one field for each kind of action;
* `steady_filterMap`, `steady_mem_filterMap`: what is read off every call, and what stays read;
* `wp_connect_of_steady`: the rule for an attempt, from the three properties;
* `wp_connect_of_trace`: the rule for a property of the trace.
-/

namespace OpenLawsVpn.DBusClient

open Wp

/-- The calls of an attempt which imports the text `content` and provides the
    password. -/
inductive Made (env : Environment) (content password : Bytes) : Call → Prop
  | importConfig (retry : ℕ) : Made env content password
      (.importConfig (cStr content) (env.importConfig retry))
  | newTunnel (config : Bytes) (retry : ℕ) : Made env content password
      (.newTunnel config (env.newTunnel retry))
  | introspect (session : Bytes) (i : ℕ) : Made env content password
      (.introspect session (env.introspect i))
  | username (session : Bytes) (loop : ℕ) : Made env content password
      (.userInputProvide session 1 1 0 (lit "N/A") (env.userInputProvide loop 0))
  | password (session : Bytes) (loop : ℕ) : Made env content password
      (.userInputProvide session 1 1 1 (cStr password) (env.userInputProvide loop 1))
  | ready (session : Bytes) (loop : ℕ) : Made env content password (.ready session (env.ready loop))
  | logForward (session : Bytes) : Made env content password (.logForward session env.logForward)
  | connect (session : Bytes) : Made env content password (.connect session env.connect)
  | getStatus (session : Bytes) (reply : Option Status) : Made env content password
      (.getStatus session reply)
  | getConnectedTo (session : Bytes) (reply : Option CString) : Made env content password
      (.getConnectedTo session reply)
  | disconnect (session : Bytes) : Made env content password (.disconnect session)

/-- The answers to all five attempts are errors after which to try again. -/
def Exhausted (env : Environment) : Prop :=
  ∀ i < 5, ∃ e, env.newTunnel i = .error e ∧ newTunnelRetried e

theorem threw_ne_undefined (what : Bytes) : Stop.threw what ≠ .undefined := by simp

theorem threw_ne_waiting (what : Bytes) : Stop.threw what ≠ .waiting := by simp

/-- A property that every action of the attempt keeps, and every change of the flags. -/
structure Steady (env : Environment) (content password : Bytes) (P : DBusClient → Prop) : Prop where
  push : ∀ c a, (∀ k, a = .call k → Made env content password k) → P c → P (c.push a)
  connected : ∀ c, P c → P { c with connected := true }
  fail : ∀ c what, P c → P (c.fail what)

/-- Nothing is asked. -/
theorem steady_true (env : Environment) (content password : Bytes) :
    Steady env content password fun _ => True where
  push _ _ _ h := h
  connected _ h := h
  fail _ _ h := h

section FilterMap

variable {env : Environment} {content password : Bytes} {α : Type} {f : DBusAction → Option α} {x : α}

/-- All calls have the same value, if they have one. -/
theorem steady_filterMap (hcall : ∀ k, Made env content password k → ∀ v ∈ f (.call k), v = x)
    (hother : ∀ a, (∀ k, a ≠ .call k) → f a = none) :
    Steady env content password fun c => ∀ v ∈ c.trace.filterMap f, v = x where
  push c a ha h := by
    intro v hv
    rw [push_trace, List.filterMap_append, List.mem_append] at hv
    rcases hv with hv | hv
    · exact h v hv
    · obtain ⟨b, hb, hvalue⟩ := List.mem_filterMap.1 hv
      obtain rfl := List.mem_singleton.1 hb
      by_cases hk : ∃ k, b = .call k
      · obtain ⟨k, rfl⟩ := hk
        exact hcall k (ha k rfl) v hvalue
      · rw [hother b fun k hk' => hk ⟨k, hk'⟩] at hvalue
        cases hvalue
  connected _ h := h
  fail _ _ h := h

/-- A value stays in the trace. -/
theorem steady_mem_filterMap (f : DBusAction → Option α) (x : α) :
    Steady env content password fun c => x ∈ c.trace.filterMap f where
  push c a _ h := by
    rw [push_trace, List.filterMap_append]
    exact List.mem_append_left _ h
  connected _ h := h
  fail _ _ h := h

end FilterMap

namespace Steady

variable {env : Environment} {content password : Bytes} {P : DBusClient → Prop} {c : DBusClient}

variable (hP : Steady env content password P)
include hP

theorem stdout (line : Bytes) (h : P c) : P (c.push (.stdout line)) := hP.push c _ (by simp) h

theorem log (line : Bytes) (h : P c) : P (c.push (.log line)) := hP.push c _ (by simp) h

/-- A call that is made by the attempt keeps it. -/
theorem call {k : Call} (hk : Made env content password k) (h : P c) : P (c.push (.call k)) := by
  refine hP.push c _ (fun k' hk' => ?_) h
  cases hk'
  exact hk

theorem cout (h : P c) (level : ℤ) (text : Bytes) : P (c.cout level env.clock text) :=
  cout_induction (fun line => hP.stdout line h) h level text

theorem logAt (h : P c) (level : ℤ) (text : Bytes) : P (c.logAt level env.clock text) :=
  logAt_induction (fun line => hP.log line h) h level text

theorem dispatch (signals : List Signal) (h : P c) : P (c.dispatch env.clock signals) :=
  dispatch_induction_of_push (fun _ line => hP.log line) (fun c s => hP.push c (.signal s) (by simp))
    hP.connected hP.fail signals h

/-! ## Storing the paths -/

theorem wp_noteRemoteIp (h : P c) (remoteIp : Bytes) :
    wp (noteRemoteIp env remoteIp) (fun _ c => P c) (fun _ _ => False) c := by
  simp only [noteRemoteIp, wp_ite, wp_modify, wp_pure]
  split_ifs
  · exact hP.cout h 1 _
  · exact h

/-- The import leads to what the path of the profile gives. -/
theorem wp_importConfig {Q : DBusClient → Prop} (hQ : Steady env content password Q)
    (himported : ∀ c i path, env.importConfig i = .ok path → P c →
      Q { c.push (.call (.importConfig (cStr content) (.ok path))) with configPath := path.bytes })
    (h : P c) :
    wp (importConfig env content)
      (fun _ c => Q c ∧ ∃ q, Answers importRetried env.importConfig q)
      (fun e c => (∃ what, e = .threw what) ∧ P c ∧
        ¬∃ q, Answers importRetried env.importConfig q) c := by
  rw [importConfig, wp_bind]
  -- The attempts before were all retried.
  refine wp_attempts (fun i last c => P c ∧
    (∀ j < i, ∃ e, env.importConfig j = .error e ∧ importRetried e) ∧ (i = 0 ∨ last.isSome))
    (fun i _ c hi hinv => ?_) (fun last c hinv => ?_) ⟨h, by simp⟩
  · obtain ⟨h, hprev, -⟩ := hinv
    rw [wp_bind, wp_modify]
    have h' := hP.call (.importConfig i) h
    cases hreply : env.importConfig i with
    | ok path =>
      exact ⟨hQ.cout (himported c i path hreply h) 1 _, path, i, by omega, hprev, hreply⟩
    | error e =>
      rw [hreply] at h'
      simp only [wp_ite, wp_bind, wp_modify, wp_pure]
      split_ifs with hretried
      · exact ⟨hP.cout h' 1 _, Nat.forall_lt_succ_right.2 ⟨hprev, e, hreply, hretried⟩, .inr rfl⟩
      · exact ⟨⟨_, rfl⟩, h', not_answers_of_error hprev hreply hretried⟩
  · obtain ⟨h, hprev, hlast⟩ := hinv
    obtain ⟨e, rfl⟩ := Option.isSome_iff_exists.1 (hlast.resolve_left (by decide))
    exact ⟨⟨_, rfl⟩, h, not_answers_of_exhausted hprev⟩

/-- The creation leads to what the path of the session gives, unless all attempts fail. -/
theorem wp_newTunnel {Q : DBusClient → Prop} (hQ : Steady env content password Q)
    (hcreated : ∀ c i path, env.newTunnel i = .ok path → P c →
      Q { c.push (.call (.newTunnel c.configPath (.ok path))) with sessionPath := path.bytes })
    (h : P c) :
    wp (newTunnel env) (fun _ c => Q c ∧ ¬Exhausted env)
      (fun e c => P c ∧ (e = .undefined ∧ Exhausted env ∨ (∃ what, e = .threw what) ∧ ¬Exhausted env))
      c := by
  rw [newTunnel, wp_bind]
  refine wp_attempts (fun i _ c => P c ∧
    ∀ j < i, ∃ e, env.newTunnel j = .error e ∧ newTunnelRetried e)
    (fun i _ c hi hinv => ?_) (fun last c hinv => ?_) ⟨h, by simp⟩
  · obtain ⟨h, hprev⟩ := hinv
    rw [wp_bind, wp_get, wp_bind, wp_modify]
    have h' := hP.call (.newTunnel c.configPath i) h
    -- An attempt that is not retried leaves some unmade.
    have hnot : (∀ e, env.newTunnel i = .error e → ¬newTunnelRetried e) → ¬Exhausted env :=
      fun hreply hall => by
        obtain ⟨e, he, hretried⟩ := hall i (by omega)
        exact hreply e he hretried
    cases hreply : env.newTunnel i with
    | ok path =>
      exact ⟨hQ.cout (hcreated c i path hreply h) 1 _, hnot fun e he => by simp [hreply] at he⟩
    | error e =>
      rw [hreply] at h'
      simp only [wp_ite, wp_pure]
      split_ifs with hretried
      · exact ⟨h', Nat.forall_lt_succ_right.2 ⟨hprev, e, hreply, hretried⟩⟩
      · refine ⟨h', .inr ⟨⟨_, rfl⟩, hnot fun e' he' => ?_⟩⟩
        rwa [Except.error.inj (hreply.symm.trans he')] at hretried
  · exact ⟨hinv.1, .inl ⟨rfl, hinv.2⟩⟩

/-! ## The other steps -/

/-- The wait for the session keeps it. -/
theorem wp_awaitSession (h : P c) :
    wp (awaitSession env) (fun _ c => P c) (fun e c => e ≠ .undefined ∧ P c) c := by
  rw [awaitSession, wp_bind]
  refine wp_attempts (fun _ _ => P) (fun i _ c _ h => ?_) (fun _ c h => ⟨threw_ne_undefined _, h⟩) h
  simp only [wp_bind, wp_get, wp_modify, wp_pure]
  have h' := hP.call (.introspect c.sessionPath i) h
  split_ifs <;> exact h'

/-- A credential that the attempt provides is recorded, whether the service takes it or not. -/
theorem wp_provideCredential {loop : ℕ} {id : UInt32} {value : Bytes}
    (hmade : ∀ session, Made env content password
      (.userInputProvide session 1 1 id value (env.userInputProvide loop id))) (h : P c) :
    wp (provideCredential env loop 1 1 id value) (fun _ c => P c) (fun _ _ => False) c := by
  simp only [provideCredential, wp_bind, wp_modify, wp_get]
  have hcall := fun session (c : DBusClient) (h : P c) => hP.call (hmade session) h
  generalize env.userInputProvide loop id = reply at hcall ⊢
  cases reply with
  | ok => exact hcall _ _ (hP.cout h 2 _)
  | error e => exact hP.cout (hcall _ _ (hP.cout h 2 _)) 2 _

/-- The login keeps what its credentials and its calls of `Ready` keep. -/
theorem wp_awaitReady (h : P c) :
    wp (awaitReady env password) (fun _ c => P c) (fun e c => e ≠ .undefined ∧ P c) c := by
  rw [awaitReady, wp_bind]
  refine wp_attempts (fun _ _ => P) (fun i _ c _ h => ?_) (fun _ c h => ⟨threw_ne_undefined _, h⟩) h
  rw [wp_bind]
  refine wp_mono (hP.wp_provideCredential (.username · i) h) (fun _ c h => ?_) fun _ _ h => h.elim
  rw [wp_bind]
  refine wp_mono (hP.wp_provideCredential (.password · i) h) (fun _ c h => ?_) fun _ _ h => h.elim
  rw [wp_bind, wp_get, wp_bind, wp_modify]
  have h' := hP.call (.ready c.sessionPath i) h
  generalize env.ready i = reply at h' ⊢
  cases reply with
  | ok => exact hP.cout h' 1 _
  | error e =>
    simp only [wp_ite, wp_bind, wp_modify, wp_pure]
    split_ifs
    · exact hP.cout h' 1 _
    · exact h'

/-- The step of `Connect` keeps what its calls keep. -/
theorem wp_startConnect (h : P c) :
    wp (startConnect env) (fun _ c => P c) (fun e c => e ≠ .undefined ∧ P c) c := by
  have hlogForward : ∀ c, P c → wp (logForward env) (fun _ c => P c)
      (fun e c => e ≠ .undefined ∧ P c) c := fun c h => by
    simp only [logForward, wp_bind, wp_modify, wp_get]
    have h' := hP.call (.logForward (c.dispatch env.clock env.logForwardSignals).sessionPath)
      (hP.dispatch env.logForwardSignals h)
    generalize env.logForward = reply at h' ⊢
    cases reply with
    | ok => exact h'
    | error e => exact hP.cout h' 2 _
  have hcallConnect : ∀ c, P c → wp (callConnect env) (fun _ c => P c)
      (fun e c => e ≠ .undefined ∧ P c) c := fun c h => by
    simp only [callConnect, wp_bind, wp_modify, wp_get]
    have h' := hP.call (.connect (c.dispatch env.clock env.connectSignals).sessionPath)
      (hP.dispatch env.connectSignals h)
    generalize env.connect = reply at h' ⊢
    cases reply with
    | ok => exact h'
    | error e => exact ⟨threw_ne_undefined _, h'⟩
  simp only [startConnect, wp_bind, wp_modify]
  refine wp_mono (hlogForward _ (hP.logAt h 1 _)) (fun _ c h => ?_) fun _ _ h => h
  exact wp_mono (hcallConnect c h) (fun _ c h => hP.logAt h 1 _) fun _ _ h => h

theorem wp_cleanUp (h : P c) : wp (cleanUp env) (fun _ c => P c) (fun _ _ => False) c := by
  simp only [cleanUp, disconnect, wp_bind, wp_get, wp_ite, wp_modify, wp_pure]
  by_cases hpath : c.sessionPath = []
  · rwa [if_neg (not_not.2 hpath)]
  · rw [if_pos hpath, if_neg hpath]
    exact hP.call (.disconnect _) (hP.dispatch env.disconnectSignals h)

theorem wp_pollStatus (h : P c) (w : WaitIteration) :
    wp (pollStatus env w) (fun _ c => P c) (fun _ _ => False) c := by
  simp only [pollStatus, wp_bind, wp_get, wp_modify, wp_modifyGet]
  exact onPolledStatus_induction (fun _ line => hP.log line) hP.connected hP.fail w.status
    (hP.call (.getStatus _ _) (hP.dispatch w.statusSignals h))

theorem wp_pollConnectedTo (h : P c) (w : WaitIteration) :
    wp (pollConnectedTo env w) (fun _ c => P c) (fun _ _ => False) c := by
  simp only [pollConnectedTo, wp_bind, wp_get, wp_modify, wp_modifyGet]
  exact onPolledConnectedTo_induction (fun _ line => hP.log line) hP.connected w.connectedTo
    (hP.call (.getConnectedTo _ _) (hP.dispatch w.connectedToSignals h))

/-- The wait keeps what its polls and the signals keep, over any number of turns. -/
theorem wp_waitLoop {waits : List WaitIteration} (h : P c) :
    wp (waitLoop env waits) (fun _ c => P c) (fun e c => e ≠ .undefined ∧ P c) c := by
  induction waits generalizing c with
  | nil => exact ⟨by simp, h⟩
  | cons w waits ih =>
    simp only [waitLoop, wp_bind, wp_get, wp_modify, wp_ite, wp_pure]
    have h := hP.dispatch w.signals h
    by_cases hdecided : (c.dispatch env.clock w.signals).decided = true
    · rwa [if_pos hdecided]
    rw [if_neg hdecided]
    refine wp_mono (hP.wp_pollStatus h w) (fun ended c h => ?_) fun _ _ h => h.elim
    by_cases hended : ended = true
    · rwa [if_pos hended]
    rw [if_neg hended]
    refine wp_mono (hP.wp_pollConnectedTo h w) (fun ended c h => ?_) fun _ _ h => h.elim
    -- A poll ended the wait, the time is up, or the loop goes on.
    split_ifs
    · exact h
    · exact wp_mono (hP.wp_cleanUp (hP.push c .timedOut (by simp) h))
        (fun _ c h => ⟨threw_ne_undefined _, h⟩) fun _ _ h => h.elim
    · exact ih h

theorem wp_finish (h : P c) :
    wp (finish env) (fun _ c => P c) (fun e c => e ≠ .undefined ∧ P c) c := by
  simp only [finish, wp_bind, wp_get, wp_modify, wp_ite]
  have h := hP.dispatch env.decidedSignals h
  split_ifs
  · exact wp_mono (hP.wp_cleanUp h) (fun _ c h => ⟨threw_ne_undefined _, h⟩) fun _ _ h => h.elim
  · exact hP.cout (hP.dispatch env.returnSignals h) 1 _

/-- From the call of Connect to the end. -/
theorem wp_fromStart {post : Unit → DBusClient → Prop}
    {exn : Stop → DBusClient → Prop} (hpost : ∀ c, P c → post () c)
    (hexn : ∀ e c, e ≠ .undefined ∧ P c → exn e c) (h : P c) :
    wp (startConnect env) (fun _ c => wp (waitLoop env env.waits)
      (fun _ c => wp (finish env) post exn c) exn c) exn c := by
  refine wp_mono (hP.wp_startConnect h) (fun _ c h => ?_) hexn
  refine wp_mono (hP.wp_waitLoop h) (fun _ c h => ?_) hexn
  exact wp_mono (hP.wp_finish h) (fun _ c h => hpost c h) hexn

/-- From the session to the end. -/
theorem wp_fromSession {post : Unit → DBusClient → Prop}
    {exn : Stop → DBusClient → Prop} (hpost : ∀ c, P c → post () c)
    (hexn : ∀ e c, e ≠ .undefined ∧ P c → exn e c) (h : P c) :
    wp (awaitSession env) (fun _ c => wp (awaitReady env password) (fun _ c => wp (startConnect env)
      (fun _ c => wp (waitLoop env env.waits) (fun _ c => wp (finish env) post exn c) exn c)
        exn c) exn c) exn c := by
  refine wp_mono (hP.wp_awaitSession h) (fun _ c h => ?_) hexn
  refine wp_mono (hP.wp_awaitReady h) (fun _ c h => ?_) hexn
  exact hP.wp_fromStart hpost hexn h

end Steady

/-! ## The attempt -/

/-- An attempt up to the wait loop. -/
def setUp (env : Environment) (config stateId token remoteIp : Bytes) : DBusM Unit := do
  noteRemoteIp env remoteIp
  importConfig env (importText config remoteIp)
  newTunnel env
  awaitSession env
  awaitReady env (lit "CRV1::" ++ stateId ++ lit "::" ++ token)
  startConnect env

/-- An attempt with a profile sets the session up, waits, and looks at the result. -/
theorem connect_eq {env : Environment} {configFile config : Bytes}
    (hconfig : readAndFilterConfig configFile env.file = .ok config) (stateId token remoteIp : Bytes) :
    connect env configFile stateId token remoteIp = (do
      setUp env config stateId token remoteIp
      waitLoop env env.waits
      finish env) := by
  rw [connect, hconfig]
  simp only [setUp, bind_assoc]

/-- An attempt leads from `P₀` over `P₁`, with the configuration, to `P₂`, with the
    session. The path of the session is extracted from no reply exactly if the
    profile was imported and all attempts at the session are exhausted. -/
theorem wp_connect_of_steady {env : Environment} {configFile config : Bytes}
    (hconfig : readAndFilterConfig configFile env.file = .ok config) (stateId token remoteIp : Bytes)
    {P₀ P₁ P₂ : DBusClient → Prop}
    (h₀ : Steady env (importText config remoteIp) (lit "CRV1::" ++ stateId ++ lit "::" ++ token) P₀)
    (h₁ : Steady env (importText config remoteIp) (lit "CRV1::" ++ stateId ++ lit "::" ++ token) P₁)
    (h₂ : Steady env (importText config remoteIp) (lit "CRV1::" ++ stateId ++ lit "::" ++ token) P₂)
    (himported : ∀ c i path, env.importConfig i = .ok path → P₀ c →
      P₁ { c.push (.call (.importConfig (cStr (importText config remoteIp)) (.ok path))) with
        configPath := path.bytes })
    (hcreated : ∀ c i path, env.newTunnel i = .ok path → P₁ c →
      P₂ { c.push (.call (.newTunnel c.configPath (.ok path))) with sessionPath := path.bytes })
    {c : DBusClient} (h : P₀ c) :
    wp (connect env configFile stateId token remoteIp) (fun _ c => P₂ c ∧ ¬Exhausted env)
      (fun e c => (P₀ c ∨ P₁ c ∨ P₂ c) ∧ (e = .waiting → P₂ c) ∧
        (e = .undefined ↔ (∃ q, Answers importRetried env.importConfig q) ∧ Exhausted env)) c := by
  rw [connect, hconfig]
  simp only [wp_bind]
  refine wp_mono (h₀.wp_noteRemoteIp h remoteIp) (fun _ c h => ?_) fun _ _ h => h.elim
  refine wp_mono (h₀.wp_importConfig h₁ himported h) (fun _ c h => ?_) fun e c h => ?_
  swap
  · obtain ⟨⟨what, rfl⟩, h, hnot⟩ := h
    exact ⟨.inl h, fun h => absurd h (threw_ne_waiting what),
      iff_of_false (threw_ne_undefined what) fun hall => hnot hall.1⟩
  obtain ⟨h, himport⟩ := h
  refine wp_mono (h₁.wp_newTunnel h₂ hcreated h) (fun _ c h => ?_) fun e c h => ?_
  swap
  · obtain ⟨h, ⟨rfl, hall⟩ | ⟨⟨what, rfl⟩, hnot⟩⟩ := h
    · exact ⟨.inr (.inl h), fun h => absurd h (by simp), iff_of_true rfl ⟨himport, hall⟩⟩
    · exact ⟨.inr (.inl h), fun h => absurd h (threw_ne_waiting what),
        iff_of_false (threw_ne_undefined what) fun hall => hnot hall.2⟩
  obtain ⟨h, hnot⟩ := h
  -- From here on, the paths stay.
  have hthrow : ∀ (e : Stop) c, e ≠ .undefined ∧ P₂ c → (P₀ c ∨ P₁ c ∨ P₂ c) ∧
      (e = .waiting → P₂ c) ∧
        (e = .undefined ↔ (∃ q, Answers importRetried env.importConfig q) ∧ Exhausted env) :=
    fun e c h => ⟨.inr (.inr h.2), fun _ => h.2, iff_of_false h.1 fun hall => hnot hall.2⟩
  exact h₂.wp_fromSession (fun c h => ⟨h, hnot⟩) hthrow h

/-- A property of the trace that the attempt keeps holds however the attempt ends. -/
theorem wp_connect_of_trace {env : Environment} {configFile config : Bytes}
    (hconfig : readAndFilterConfig configFile env.file = .ok config) (stateId token remoteIp : Bytes)
    {P : List DBusAction → Prop}
    (hP : Steady env (importText config remoteIp) (lit "CRV1::" ++ stateId ++ lit "::" ++ token)
      fun c => P c.trace) {c : DBusClient} (h : P c.trace) :
    wp (connect env configFile stateId token remoteIp) (fun _ c => P c.trace)
      (fun _ c => P c.trace) c := by
  refine wp_mono (wp_connect_of_steady hconfig stateId token remoteIp hP hP hP
    (fun c i path hreply h => ?_) (fun c i path hreply h => ?_) h) (fun _ c h => h.1)
    fun e c h => h.1.elim id fun h => h.elim id id
  · refine hP.call ?_ h
    rw [← hreply]
    exact .importConfig i
  · refine hP.call ?_ h
    rw [← hreply]
    exact .newTunnel c.configPath i

end OpenLawsVpn.DBusClient
