import OpenLawsVpn.DBus.Steps
import OpenLawsVpn.Lib.Runs

/-!
# The protocol of a session

What a client of the services has to keep to is a partial automaton on its calls
(`Stage.step`): the profile is imported, a session is created from it, and on this
session alone (`Turn.step`) the object is awaited, the credentials are provided and
`Ready` is asked in turn, and only after that has it connect; then the two properties
are polled in turn, and disconnecting the session is the last call there is. Each step
has a bounded number of attempts.

Whatever the services answer, the calls of an attempt are a word of this protocol
(`wp_connect_protocol`): the attempt returns while the session is up, and throws only
where the protocol has no call left.

* `Stage`, `Turn`: the states of the automaton, with the attempts that are left;
* `wp_importConfig`, `wp_newTunnel`, `wp_awaitSession`, `wp_awaitReady`, `wp_startConnect`,
  `wp_waitLoop`, `wp_finish`: each step of the attempt leads from its stage to the next;
* `wp_connect_protocol`: the attempt as a whole, for all answers, signals and texts.
-/

namespace OpenLawsVpn.DBusClient

open Wp

/-- The call of an action, if it is one. -/
def call? : DBusAction → Option Call
  | .call k => some k
  | _ => none

/-- The calls of a trace. -/
def calls (trace : List DBusAction) : List Call := trace.filterMap call?

/-- The session that a call is made on. -/
def session? : Call → Option Bytes
  | .importConfig .. => none
  | .newTunnel .. => none
  | .introspect session _ => some session
  | .userInputProvide session .. => some session
  | .ready session _ => some session
  | .logForward session _ => some session
  | .connect session _ => some session
  | .getStatus session _ => some session
  | .getConnectedTo session _ => some session
  | .disconnect session => some session

/-! ## The protocol -/

/-- What is due on a session, with the attempts made so far. -/
inductive Turn
  | introspect (tried : ℕ)
  | username (tried : ℕ)
  | password (tried : ℕ)
  | ready (tried : ℕ)
  | logForward
  | connect
  /-- `Connect` was accepted, and a status may be polled. -/
  | status
  | connectedTo
  /-- A polled property has decided. -/
  | decided
  deriving DecidableEq, Repr

/-- The polled status ends the wait. -/
def EndsWait (st : Status) : Prop :=
  st.major = 2 ∧ (st.minor = 101 ∨ SaysConnected st.message ∨ st.minor = 104 ∨ st.minor = 105)

instance (st : Status) : Decidable (EndsWait st) := inferInstanceAs (Decidable (_ ∧ _))

/-- What is due after a call that was due, if anything is (`some none` when nothing is
    any more). -/
def Turn.step (credential : Bytes) : Turn → Call → Option (Option Turn)
  | introspect tried, .introspect _ reply =>
    if tried < 20 then some (some (if reply then username 0 else introspect (tried + 1))) else none
  | username tried, .userInputProvide _ type group id value _ =>
    if tried < 20 ∧ type = 1 ∧ group = 1 ∧ id = 0 ∧ value = lit "N/A" then
      some (some (password tried))
    else none
  | password tried, .userInputProvide _ type group id value _ =>
    if type = 1 ∧ group = 1 ∧ id = 1 ∧ value = credential then some (some (ready tried)) else none
  | ready _, .ready _ (.ok ()) => some (some logForward)
  | ready tried, .ready _ (.error _) => some (some (username (tried + 1)))
  | logForward, .logForward _ _ => some (some connect)
  | connect, .connect _ (.ok ()) => some (some status)
  | connect, .connect _ (.error _) => some none
  | status, .getStatus _ reply =>
    some (some (if ∃ st ∈ reply, EndsWait st then decided else connectedTo))
  | connectedTo, .getConnectedTo _ reply =>
    some (some (if ∃ host ∈ reply, host.bytes ≠ [] then decided else status))
  | status, .disconnect _ => some none
  | decided, .disconnect _ => some none
  | _, _ => none

/-- How far an attempt has come. -/
inductive Stage
  | importConfig (tried : ℕ)
  | newTunnel (config : Bytes) (tried : ℕ)
  | session (path : Bytes) (turn : Turn)
  | ended
  deriving DecidableEq, Repr

/-- The stage that an answer leads to, with the errors after which to try again. -/
def Stage.ofReply (next : Bytes → Stage) (again : Stage) (retried : GError → Bool) :
    Except GError ObjectPath → Stage
  | .ok path => next path.bytes
  | .error e => if retried e then again else ended

/-- The protocol, for the text to import and the credential to provide. -/
def Stage.step (content credential : Bytes) : Stage → Call → Option Stage
  | importConfig tried, .importConfig text reply =>
    if tried < 5 ∧ text = content then
      some (ofReply (newTunnel · 0) (importConfig (tried + 1)) importRetried reply)
    else none
  | newTunnel config tried, .newTunnel config' reply =>
    if tried < 5 ∧ config' = config then
      some (ofReply (session · (.introspect 0)) (newTunnel config (tried + 1)) newTunnelRetried
        reply)
    else none
  | session path turn, k =>
    if session? k = some path then
      (turn.step credential k).map fun turn => turn.elim ended (session path)
    else none
  | _, _ => none

namespace Stage

/-- The session connects, or is connected: disconnecting it is due. -/
def Up (stage : Stage) : Prop :=
  ∃ path, path ≠ [] ∧ (stage = session path .status ∨ stage = session path .decided)

/-- The protocol has no call left. -/
def Over (content credential : Bytes) (stage : Stage) : Prop :=
  ∀ k, stage.step content credential k = none

/-- The paths stored by the client are those of the stage. -/
def Agrees (c : DBusClient) : Stage → Prop
  | newTunnel config _ => c.configPath = config
  | session path _ => c.sessionPath = path
  | _ => True

end Stage

/-- The calls made so far are a word of the protocol, which leads to the stage. -/
structure At (content credential : Bytes) (stage : Stage) (c : DBusClient) : Prop where
  run : Runs.run (Stage.step content credential) (.importConfig 0) (calls c.trace) = some stage
  agrees : stage.Agrees c

/-- The calls made so far are a word of the protocol, after which the session is up. -/
def IsUp (content credential : Bytes) (c : DBusClient) : Prop :=
  ∃ stage, At content credential stage c ∧ stage.Up

/-- The calls made so far are a word of the protocol, which has no call left. -/
def Ended (content credential : Bytes) (c : DBusClient) : Prop :=
  ∃ stage, At content credential stage c ∧ stage.Over content credential

/-- What holds of the calls when an attempt does not return. -/
def Threw (content credential : Bytes) (e : Stop) (c : DBusClient) : Prop :=
  e = .waiting ∧ IsUp content credential c ∨ e ≠ .waiting ∧ Ended content credential c

/-! ## The calls of each step -/

variable {content credential : Bytes} {stage : Stage} {c : DBusClient} {env : Environment}

theorem Stage.over_ended : Stage.ended.Over content credential := fun _ => rfl

theorem calls_push_of_none {a : DBusAction} (ha : call? a = none) :
    calls (c.push a).trace = calls c.trace := by
  rw [calls, push_trace, List.filterMap_append, List.filterMap_cons_none ha, List.filterMap_nil,
    List.append_nil, calls]

theorem calls_push (k : Call) : calls (c.push (.call k)).trace = calls c.trace ++ [k] := by
  rw [calls, push_trace, List.filterMap_append]
  rfl

/-- The wait ends with a status that says so. -/
theorem onPolledStatus_fst (clock : ℕ → Stamp) (reply : Option Status) :
    (onPolledStatus clock reply c).1 = decide (∃ st ∈ reply, EndsWait st) := by
  cases reply with
  | none => rfl
  | some st =>
    simp only [onPolledStatus, EndsWait, Option.mem_some_iff, exists_eq_left']
    split_ifs <;> grind

theorem onPolledConnectedTo_fst (clock : ℕ → Stamp) (reply : Option CString) :
    (onPolledConnectedTo clock reply c).1 = decide (∃ host ∈ reply, host.bytes ≠ []) := by
  cases reply with
  | none => rfl
  | some host =>
    simp only [onPolledConnectedTo, Option.mem_some_iff, exists_eq_left']
    split_ifs with hhost <;> simp [hhost]

namespace At

theorem push (h : At content credential stage c) {a : DBusAction} (ha : call? a = none) :
    At content credential stage (c.push a) where
  run := by rw [calls_push_of_none ha, h.run]
  agrees := by cases stage <;> exact h.agrees

/-- A call leads to the next stage. -/
theorem step (h : At content credential stage c) {k : Call} {stage' : Stage}
    (hstep : stage.step content credential k = some stage') {c' : DBusClient}
    (htrace : c'.trace = (c.push (.call k)).trace) (hagrees : stage'.Agrees c') :
    At content credential stage' c' where
  run := by
    rw [htrace, calls_push, Runs.run_append, h.run, Option.bind_some, Runs.run, hstep,
      Option.bind_some, Runs.run]
  agrees := hagrees

theorem connected (h : At content credential stage c) :
    At content credential stage { c with connected := true } :=
  ⟨h.run, by cases stage <;> exact h.agrees⟩

theorem fail (h : At content credential stage c) (what : Bytes) :
    At content credential stage (c.fail what) :=
  ⟨h.run, by cases stage <;> exact h.agrees⟩

theorem cout (h : At content credential stage c) (level : ℤ) (text : Bytes) :
    At content credential stage (c.cout level env.clock text) :=
  cout_induction (fun _ => h.push rfl) h level text

theorem logAt (h : At content credential stage c) (level : ℤ) (text : Bytes) :
    At content credential stage (c.logAt level env.clock text) :=
  logAt_induction (fun _ => h.push rfl) h level text

theorem dispatch (h : At content credential stage c) (signals : List Signal) :
    At content credential stage (c.dispatch env.clock signals) :=
  dispatch_induction_of_push (fun _ _ h => h.push rfl) (fun _ _ h => h.push rfl)
    (fun _ h => h.connected) (fun _ what h => h.fail what) signals h

/-- The note of the address is no call. -/
theorem wp_noteRemoteIp (h : At content credential stage c) (remoteIp : Bytes) :
    wp (noteRemoteIp env remoteIp) (fun _ c => At content credential stage c)
      (fun _ _ => False) c := by
  simp only [noteRemoteIp, wp_ite, wp_modify, wp_pure]
  split_ifs
  · exact h.cout 1 _
  · exact h

/-! ### Setting up the session -/

/-- The import leads to the creation of the session, or ends the attempt. -/
theorem wp_importConfig {text : Bytes} (h : At (cStr text) credential (.importConfig 0) c) :
    wp (importConfig env text)
      (fun _ c => ∃ config, At (cStr text) credential (.newTunnel config 0) c)
      (fun e c => e ≠ .waiting ∧ Ended (cStr text) credential c) c := by
  rw [importConfig, wp_bind]
  -- The stage counts the attempts, and each but the first has an error before it.
  refine wp_attempts (fun i last c => At (cStr text) credential (.importConfig i) c ∧
    (i = 0 ∨ last.isSome)) (fun i _ c hi hinv => ?_) (fun last c hinv => ?_) ⟨h, .inl rfl⟩
  · obtain ⟨h, -⟩ := hinv
    rw [wp_bind, wp_modify]
    have hstep : ∀ reply, (Stage.importConfig i).step (cStr text) credential
        (.importConfig (cStr text) reply) =
          some (.ofReply (.newTunnel · 0) (.importConfig (i + 1)) importRetried reply) :=
      fun _ => if_pos ⟨by omega, rfl⟩
    cases hreply : env.importConfig i with
    | ok path =>
      have h' : At (cStr text) credential (.newTunnel path.bytes 0)
          { c.push (.call (.importConfig (cStr text) (.ok path))) with configPath := path.bytes } :=
        h.step (hstep (.ok path)) rfl rfl
      exact ⟨path.bytes, h'.cout 1 _⟩
    | error e =>
      have hstep := hstep (.error e)
      rw [Stage.ofReply] at hstep
      simp only [wp_ite, wp_bind, wp_modify, wp_pure]
      split_ifs with hretried
      · rw [if_pos hretried] at hstep
        exact ⟨(h.step hstep rfl trivial).cout 1 _, .inr rfl⟩
      · rw [if_neg hretried] at hstep
        exact ⟨by simp, .ended, h.step hstep rfl trivial, Stage.over_ended⟩
  · obtain ⟨h, hlast⟩ := hinv
    obtain ⟨e, rfl⟩ := Option.isSome_iff_exists.1 (hlast.resolve_left (by decide))
    exact ⟨by simp, _, h, fun k => by cases k <;> simp [Stage.step]⟩

/-- The creation leads to the turns of the session, or ends the attempt. -/
theorem wp_newTunnel {config : Bytes} (h : At content credential (.newTunnel config 0) c) :
    wp (newTunnel env)
      (fun _ c => ∃ path, path ≠ [] ∧ At content credential (.session path (.introspect 0)) c)
      (fun e c => e ≠ .waiting ∧ Ended content credential c) c := by
  rw [newTunnel, wp_bind]
  -- The stage counts the attempts.
  refine wp_attempts (fun i _ c => At content credential (.newTunnel config i) c)
    (fun i _ c hi h => ?_) (fun last c h => ?_) h
  · rw [wp_bind, wp_get, wp_bind, wp_modify]
    have hstep : ∀ reply, (Stage.newTunnel config i).step content credential
        (.newTunnel c.configPath reply) = some (.ofReply (.session · (.introspect 0))
          (.newTunnel config (i + 1)) newTunnelRetried reply) :=
      fun _ => if_pos ⟨by omega, h.agrees⟩
    cases hreply : env.newTunnel i with
    | ok path =>
      have h' : At content credential (.session path.bytes (.introspect 0))
          { c.push (.call (.newTunnel c.configPath (.ok path))) with sessionPath := path.bytes } :=
        h.step (hstep (.ok path)) rfl rfl
      exact ⟨path.bytes, path.bytes_ne, h'.cout 1 _⟩
    | error e =>
      have hstep := hstep (.error e)
      rw [Stage.ofReply] at hstep
      simp only [wp_ite, wp_pure]
      split_ifs with hretried
      · rw [if_pos hretried] at hstep
        exact h.step hstep rfl h.agrees
      · rw [if_neg hretried] at hstep
        exact ⟨by simp, .ended, h.step hstep rfl trivial, Stage.over_ended⟩
  · exact ⟨by simp, _, h, fun k => by cases k <;> simp [Stage.step]⟩

/-- A call that is due on the session. -/
theorem turn {path : Bytes} {turn turn' : Turn} (h : At content credential (.session path turn) c)
    {k : Call} (hk : session? k = some c.sessionPath)
    (hturn : turn.step credential k = some (some turn')) :
    At content credential (.session path turn') (c.push (.call k)) := by
  refine h.step (k := k) ?_ rfl h.agrees
  rw [Stage.step, if_pos (hk.trans (congrArg some h.agrees)), hturn]
  rfl

/-- The last call on a session ends the attempt. -/
theorem last {path : Bytes} {turn : Turn} (h : At content credential (.session path turn) c)
    {k : Call} (hk : session? k = some c.sessionPath)
    (hturn : turn.step credential k = some none) :
    Ended content credential (c.push (.call k)) := by
  refine ⟨.ended, h.step (k := k) ?_ rfl trivial, Stage.over_ended⟩
  rw [Stage.step, if_pos (hk.trans (congrArg some h.agrees)), hturn]
  rfl

/-- The session is asked for until it appears. -/
theorem wp_awaitSession {path : Bytes}
    (h : At content credential (.session path (.introspect 0)) c) :
    wp (awaitSession env) (fun _ c => At content credential (.session path (.username 0)) c)
      (fun e c => e ≠ .waiting ∧ Ended content credential c) c := by
  rw [awaitSession, wp_bind]
  refine wp_attempts (fun i _ c => At content credential (.session path (.introspect i)) c)
    (fun i _ c hi h => ?_) (fun last c h => ?_) h
  · simp only [wp_bind, wp_get, wp_modify, wp_pure]
    have hturn : ∀ reply, (Turn.introspect i).step credential (.introspect c.sessionPath reply) =
        some (some (if reply then .username 0 else .introspect (i + 1))) :=
      fun _ => if_pos (by omega)
    cases hreply : env.introspect i with
    | true => exact h.turn rfl (hturn true)
    | false => exact h.turn rfl (hturn false)
  · exact ⟨by simp, _, h, fun k => by cases k <;> simp [Stage.step, Turn.step]⟩

/-- A credential is provided in its turn. -/
theorem wp_provideCredential {path : Bytes} {turn turn' : Turn} {loop : ℕ} {id : UInt32}
    {value : Bytes} (hturn : ∀ session reply, turn.step credential
      (.userInputProvide session 1 1 id value reply) = some (some turn'))
    (h : At content credential (.session path turn) c) :
    wp (provideCredential env loop 1 1 id value)
      (fun _ c => At content credential (.session path turn') c) (fun _ _ => False) c := by
  simp only [provideCredential, wp_bind, wp_modify, wp_get]
  have h : ∀ text, At content credential _ (c.cout 2 env.clock text) := fun text => h.cout 2 text
  have h' := (h (lit " Providing credential: type=" ++ decimal (1 : UInt32).toNat ++
    lit ", group=" ++ decimal (1 : UInt32).toNat ++ lit ", id=" ++ decimal id.toNat)).turn rfl
      (hturn _ (env.userInputProvide loop id))
  generalize env.userInputProvide loop id = reply at h' ⊢
  cases reply with
  | ok => exact h'
  | error e => exact h'.cout 2 _

/-- The session is logged in, over and over, until it is ready. -/
theorem wp_awaitReady {path password : Bytes}
    (h : At content (cStr password) (.session path (.username 0)) c) :
    wp (awaitReady env password)
      (fun _ c => At content (cStr password) (.session path .logForward) c)
      (fun e c => e ≠ .waiting ∧ Ended content (cStr password) c) c := by
  rw [awaitReady, wp_bind]
  refine wp_attempts (fun i _ c => At content (cStr password) (.session path (.username i)) c)
    (fun i _ c hi h => ?_) (fun last c h => ?_) h
  · rw [wp_bind]
    -- The user name and the password are provided again at each attempt.
    have husername : ∀ session reply, (Turn.username i).step (cStr password)
        (.userInputProvide session 1 1 0 (lit "N/A") reply) = some (some (.password i)) :=
      fun _ _ => if_pos ⟨by omega, rfl, rfl, rfl, rfl⟩
    have hpassword : ∀ session reply, (Turn.password i).step (cStr password)
        (.userInputProvide session 1 1 1 (cStr password) reply) = some (some (.ready i)) :=
      fun _ _ => if_pos ⟨rfl, rfl, rfl, rfl⟩
    refine wp_mono (h.wp_provideCredential husername) (fun _ c h => ?_) fun _ _ h => h.elim
    rw [wp_bind]
    refine wp_mono (h.wp_provideCredential hpassword) (fun _ c h => ?_) fun _ _ h => h.elim
    rw [wp_bind, wp_get, wp_bind, wp_modify]
    cases hreply : env.ready i with
    | ok => exact (h.turn rfl rfl).cout 1 _
    | error e =>
      have h' : At content (cStr password) (.session path (.username (i + 1))) _ :=
        h.turn (k := .ready c.sessionPath (.error e)) rfl rfl
      simp only [wp_ite, wp_bind, wp_modify, wp_pure]
      split_ifs
      · exact h'.cout 1 _
      · exact h'
  · exact ⟨by simp, _, h, fun k => by cases k <;> simp [Stage.step, Turn.step]⟩

/-! ### Connecting -/

/-- Then it is connected. -/
theorem wp_startConnect {path : Bytes} (h : At content credential (.session path .logForward) c) :
    wp (startConnect env) (fun _ c => At content credential (.session path .status) c)
      (fun e c => e ≠ .waiting ∧ Ended content credential c) c := by
  have hlogForward : ∀ c, At content credential (.session path .logForward) c →
      wp (logForward env) (fun _ c => At content credential (.session path .connect) c)
        (fun _ _ => False) c := fun c h => by
    simp only [logForward, wp_bind, wp_modify, wp_get]
    have hturn : ∀ session reply,
        Turn.step credential .logForward (.logForward session reply) = some (some .connect) :=
      fun _ _ => rfl
    have h : At content credential _ (c.dispatch env.clock env.logForwardSignals) := h.dispatch _
    have h' := h.turn rfl (hturn _ env.logForward)
    generalize env.logForward = reply at h' ⊢
    cases reply with
    | ok => exact h'
    | error e => exact h'.cout 2 _
  have hcallConnect : ∀ c, At content credential (.session path .connect) c →
      wp (callConnect env) (fun _ c => At content credential (.session path .status) c)
        (fun e c => e ≠ .waiting ∧ Ended content credential c) c := fun c h => by
    simp only [callConnect, wp_bind, wp_modify, wp_get]
    have h' : At content credential _ (c.dispatch env.clock env.connectSignals) := h.dispatch _
    cases env.connect with
    | ok => exact h'.turn rfl rfl
    | error e => exact ⟨by simp, h'.last rfl rfl⟩
  -- An error of `LogForward` is only told of; one of `Connect` ends the attempt.
  simp only [startConnect, wp_bind, wp_modify]
  refine wp_mono (hlogForward _ (h.logAt 1 _)) (fun _ c h => ?_) fun _ _ h => h.elim
  exact wp_mono (hcallConnect c h) (fun _ c h => h.logAt 1 _) fun _ _ h => h

/-- To clean up ends the attempt, with a disconnection. -/
theorem wp_cleanUp (h : At content credential stage c) (hup : stage.Up) :
    wp (cleanUp env) (fun _ c => Ended content credential c) (fun _ _ => False) c := by
  obtain ⟨path, turn, hpath, rfl, hturn⟩ : ∃ path turn, path ≠ [] ∧ stage = .session path turn ∧
      ∀ session, turn.step credential (.disconnect session) = some none := by
    obtain ⟨path, hpath, rfl | rfl⟩ := hup
    · exact ⟨path, .status, hpath, rfl, fun _ => rfl⟩
    · exact ⟨path, .decided, hpath, rfl, fun _ => rfl⟩
  have hne : c.sessionPath ≠ [] := fun hnil => hpath (h.agrees.symm.trans hnil)
  simp only [cleanUp, disconnect, wp_bind, wp_get, wp_ite, wp_modify, wp_pure]
  rw [if_pos hne, if_neg hne]
  have h' : At content credential _ (c.dispatch env.clock env.disconnectSignals) := h.dispatch _
  have hsession : (c.dispatch env.clock env.disconnectSignals).sessionPath = c.sessionPath :=
    sessionPath_dispatch _
  exact h'.last (congrArg some hsession.symm) (hturn _)

/-- The status is polled first, -/
theorem wp_pollStatus {path : Bytes} (h : At content credential (.session path .status) c)
    (w : WaitIteration) :
    wp (pollStatus env w)
      (fun ended c => At content credential
        (.session path (if ended then .decided else .connectedTo)) c)
      (fun _ _ => False) c := by
  simp only [pollStatus, wp_bind, wp_get, wp_modify, wp_modifyGet, onPolledStatus_fst,
    decide_eq_true_eq]
  exact onPolledStatus_induction (fun _ _ h => h.push rfl) (fun _ h => h.connected)
    (fun _ what h => h.fail what) w.status ((h.dispatch w.statusSignals).turn rfl rfl)

/-- and then the address. -/
theorem wp_pollConnectedTo {path : Bytes}
    (h : At content credential (.session path .connectedTo) c) (w : WaitIteration) :
    wp (pollConnectedTo env w)
      (fun ended c => At content credential (.session path (if ended then .decided else .status)) c)
      (fun _ _ => False) c := by
  simp only [pollConnectedTo, wp_bind, wp_get, wp_modify, wp_modifyGet, onPolledConnectedTo_fst,
    decide_eq_true_eq]
  exact onPolledConnectedTo_induction (fun _ _ h => h.push rfl) (fun _ h => h.connected)
    w.connectedTo ((h.dispatch w.connectedToSignals).turn rfl rfl)

/-- The polls take turns until the wait ends. -/
theorem wp_waitLoop {path : Bytes} (hpath : path ≠ []) {waits : List WaitIteration}
    (h : At content credential (.session path .status) c) :
    wp (waitLoop env waits) (fun _ c => IsUp content credential c)
      (Threw content credential) c := by
  have hstatus : ∀ c, At content credential (.session path .status) c → IsUp content credential c :=
    fun c h => ⟨_, h, path, hpath, .inl rfl⟩
  have hdecided : ∀ c, At content credential (.session path .decided) c →
      IsUp content credential c := fun c h => ⟨_, h, path, hpath, .inr rfl⟩
  induction waits generalizing c with
  | nil => exact .inl ⟨rfl, hstatus c h⟩
  | cons w waits ih =>
    simp only [waitLoop, wp_bind, wp_get, wp_modify, wp_ite, wp_pure]
    have h : At content credential _ (c.dispatch env.clock w.signals) := h.dispatch _
    -- A signal may end the wait before a poll, and each poll after it.
    by_cases hsignals : (c.dispatch env.clock w.signals).decided = true
    · rw [if_pos hsignals]
      exact hstatus _ h
    rw [if_neg hsignals]
    refine wp_mono (h.wp_pollStatus w) (fun ended c h => ?_) fun _ _ h => h.elim
    by_cases hended : ended = true
    · rw [if_pos hended] at h ⊢
      exact hdecided c h
    rw [if_neg hended] at h ⊢
    refine wp_mono (h.wp_pollConnectedTo w) (fun ended c h => ?_) fun _ _ h => h.elim
    by_cases hended : ended = true
    · rw [if_pos hended] at h ⊢
      exact hdecided c h
    rw [if_neg hended] at h ⊢
    -- The timeout cleans up; before it, the loop goes on.
    split_ifs
    · exact wp_mono ((h.push rfl).wp_cleanUp ⟨path, hpath, .inl rfl⟩)
        (fun _ _ h => .inr ⟨by simp, h⟩) fun _ _ h => h.elim
    · exact ih h

/-- The session is up, or is disconnected. -/
theorem wp_finish (h : At content credential stage c) (hup : stage.Up) :
    wp (finish env) (fun _ c => IsUp content credential c) (Threw content credential) c := by
  simp only [finish, wp_bind, wp_get, wp_modify, wp_ite]
  have h : At content credential _ (c.dispatch env.clock env.decidedSignals) := h.dispatch _
  split_ifs
  · exact wp_mono (h.wp_cleanUp hup) (fun _ _ h => .inr ⟨by simp, h⟩) fun _ _ h => h.elim
  · exact ⟨stage, (h.dispatch env.returnSignals).cout 1 _, hup⟩

end At

/-! ## The whole attempt -/

/-- From a state without calls, an attempt on a profile that can be read makes calls that
    are a word of the protocol. It returns, or still waits, while the session is up, and
    it throws where the protocol has no call left. -/
theorem wp_connect_protocol {configFile config : Bytes}
    (hconfig : readAndFilterConfig configFile env.file = .ok config)
    (stateId token remoteIp : Bytes) (hc : calls c.trace = []) :
    let content := cStr (importText config remoteIp)
    let credential := cStr (lit "CRV1::" ++ stateId ++ lit "::" ++ token)
    wp (connect env configFile stateId token remoteIp) (fun _ c => IsUp content credential c)
      (Threw content credential) c := by
  intro content credential
  have h : At content credential (.importConfig 0) c := ⟨by rw [hc]; rfl, trivial⟩
  rw [connect, hconfig]
  simp only [wp_bind]
  refine wp_mono (h.wp_noteRemoteIp remoteIp) (fun _ c h => ?_) fun _ _ h => h.elim
  refine wp_mono h.wp_importConfig (fun _ c h => ?_) fun _ _ h => .inr h
  obtain ⟨path, h⟩ := h
  refine wp_mono h.wp_newTunnel (fun _ c h => ?_) fun _ _ h => .inr h
  obtain ⟨session, hsession, h⟩ := h
  refine wp_mono h.wp_awaitSession (fun _ c h => ?_) fun _ _ h => .inr h
  refine wp_mono h.wp_awaitReady (fun _ c h => ?_) fun _ _ h => .inr h
  refine wp_mono h.wp_startConnect (fun _ c h => ?_) fun _ _ h => .inr h
  refine wp_mono (h.wp_waitLoop hsession) (fun _ c h => ?_) fun _ _ h => h
  obtain ⟨stage, h, hup⟩ := h
  exact h.wp_finish hup

/-- The services set a session up, and the attempt waits. -/
theorem wp_connect_protocol_setsUp :
    wp (connect setsUp (lit "vpn.ovpn") (lit "state") (lit "token") [])
      (fun _ c => IsUp (cStr (importText (lit "client\n") []))
        (cStr (lit "CRV1::" ++ lit "state" ++ lit "::" ++ lit "token")) c)
      (Threw (cStr (importText (lit "client\n") []))
        (cStr (lit "CRV1::" ++ lit "state" ++ lit "::" ++ lit "token"))) { logLevel := 1 } := by
  have hconfig : readAndFilterConfig (lit "vpn.ovpn") setsUp.file = .ok (lit "client\n") := rfl
  have hcalls : calls ({ logLevel := 1 } : DBusClient).trace = [] := rfl
  exact wp_connect_protocol hconfig (lit "state") (lit "token") [] hcalls

end OpenLawsVpn.DBusClient
