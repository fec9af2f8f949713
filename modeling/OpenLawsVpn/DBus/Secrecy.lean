import OpenLawsVpn.DBus.Connect
import OpenLawsVpn.Lib.Alike

/-!
# What the D-Bus client does not tell

The values that the D-Bus client provides to the session are in no line that it writes,
and decide nothing. So two runs that differ in the password only look alike to an
observer of all but the values provided (`alike_connect`).

* `DBusAction.hide`, `DBusClient.hide`: the view of such an observer;
* `hide_onStatusChange`, `hide_dispatch`: the handlers of signals act on it;
* `alike_connect`, `alike_disconnect`: the calls of the client look alike, for all passwords.
-/

namespace OpenLawsVpn

/-- An action without the value that it provides. -/
def DBusAction.hide : DBusAction → DBusAction
  | .call (.userInputProvide session type group id _ reply) =>
    .call (.userInputProvide session type group id [] reply)
  | a => a

namespace DBusClient

/-- The client without the values that it provided. -/
def hide (c : DBusClient) : DBusClient := { c with trace := c.trace.map DBusAction.hide }

variable {clock : ℕ → Stamp}

/-! ## Changes of the state -/

theorem hide_push (a : DBusAction) (c : DBusClient) : (c.push a).hide = c.hide.push a.hide := by
  rw [hide, push, push, hide, List.map_append, List.map_singleton]

/-- Nothing is left out, so that the clock shows the same. -/
theorem length_trace_hide (c : DBusClient) : c.hide.trace.length = c.trace.length :=
  List.length_map _

/-- What hiding leaves alone is the same if the rest is. -/
theorem eq_of_hide {β : Type*} {s t : DBusClient} (h : s.hide = t.hide) (f : DBusClient → β)
    (hf : ∀ c, f c.hide = f c) : f s = f t := by
  rw [← hf, h, hf]

/-- A line of log does not tell what is hidden. -/
theorem hide_emitLog (text : Bytes) (c : DBusClient) :
    (c.emitLog clock text).hide = c.hide.emitLog clock text := by
  rw [emitLog, hide_push, emitLog, length_trace_hide]
  rfl

theorem hide_logAt (level : ℤ) (text : Bytes) (c : DBusClient) :
    (c.logAt level clock text).hide = c.hide.logAt level clock text := by
  rw [logAt, logAt, show c.hide.logLevel = c.logLevel from rfl]
  split_ifs
  · exact hide_emitLog text c
  · rfl

theorem hide_cout (level : ℤ) (text : Bytes) (c : DBusClient) :
    (c.cout level clock text).hide = c.hide.cout level clock text := by
  rw [cout, cout, show c.hide.logLevel = c.logLevel from rfl, length_trace_hide]
  split_ifs
  · exact hide_push _ c
  · rfl

theorem hide_onStatus (st : Status) (c : DBusClient) :
    (onStatus clock st c).hide = onStatus clock st c.hide := by
  rw [onStatus, onStatus, show c.hide.connected = c.connected from rfl]
  split_ifs <;> first | rfl | exact hide_emitLog _ c

theorem hide_onLog (message : CString) (c : DBusClient) :
    (onLog message c).hide = onLog message c.hide := by
  rw [onLog, onLog]
  split_ifs <;> rfl

/-- What is done for a signal depends on no password. -/
theorem hide_onStatusChange (s : Signal) (c : DBusClient) :
    (onStatusChange clock s c).hide = onStatusChange clock s c.hide := by
  rw [onStatusChange, onStatusChange]
  split_ifs
  · cases s.parameters with
    | uus st => exact (hide_onStatus st _).trans (congrArg _ (hide_logAt 1 _ c))
    | uuss => rfl
    | other => rfl
  · cases s.parameters with
    | uus => rfl
    | uuss type group tag message => exact (hide_onLog message _).trans (congrArg _ (hide_logAt 1 _ c))
    | other => rfl
  · rfl

theorem hide_dispatch (signals : List Signal) (c : DBusClient) :
    (c.dispatch clock signals).hide = c.hide.dispatch clock signals := by
  rw [dispatch, dispatch]
  induction signals generalizing c with
  | nil => rfl
  | cons s signals ih =>
    rw [List.foldl_cons, List.foldl_cons, ih, hide_onStatusChange, hide_push]
    rfl

/-- A poll ends the wait alike. -/
theorem hide_onPolledStatus (reply : Option Status) (c : DBusClient) :
    ((onPolledStatus clock reply c).1, (onPolledStatus clock reply c).2.hide) =
      onPolledStatus clock reply c.hide := by
  cases reply with
  | none => rfl
  | some st =>
    rw [onPolledStatus, onPolledStatus]
    simp only [← hide_logAt]
    split_ifs <;> rfl

theorem hide_onPolledConnectedTo (reply : Option CString) (c : DBusClient) :
    ((onPolledConnectedTo clock reply c).1, (onPolledConnectedTo clock reply c).2.hide) =
      onPolledConnectedTo clock reply c.hide := by
  cases reply with
  | none => rfl
  | some host =>
    rw [onPolledConnectedTo, onPolledConnectedTo]
    simp only [← hide_logAt]
    split_ifs <;> rfl

/-! ## Programs -/

variable {α : Type} (env : Environment)

theorem alike_push {a b : DBusAction} (h : a.hide = b.hide) :
    Alike hide (modify (push a) : DBusM PUnit) (modify (push b)) :=
  .modify fun s t hst => by rw [hide_push, hide_push, h, hst]

theorem alike_cout (level : ℤ) (text : Bytes) :
    Alike hide (modify (cout level clock text) : DBusM PUnit) (modify (cout level clock text)) :=
  .modify_of_acts (hide_cout level text)

theorem alike_logAt (level : ℤ) (text : Bytes) :
    Alike hide (modify (logAt level clock text) : DBusM PUnit) (modify (logAt level clock text)) :=
  .modify_of_acts (hide_logAt level text)

theorem alike_dispatch (signals : List Signal) :
    Alike hide (modify (dispatch clock signals) : DBusM PUnit) (modify (dispatch clock signals)) :=
  .modify_of_acts (hide_dispatch signals)

/-- The phases before the credentials do not tell of them. -/
theorem alike_noteRemoteIp (remoteIp : Bytes) :
    Alike hide (noteRemoteIp env remoteIp) (noteRemoteIp env remoteIp) := by
  rw [noteRemoteIp]
  exact .ite (fun _ => alike_cout _ _) fun _ => .pure _

theorem alike_importConfig (content : Bytes) :
    Alike hide (importConfig env content) (importConfig env content) := by
  rw [importConfig]
  refine .bind (.attempts (fun retry => .bind (alike_push rfl) fun _ => ?_) _ _ _) fun res => ?_
  · cases env.importConfig retry with
    | ok path => exact .pure _
    | error e => exact .ite (fun _ => .bind (alike_cout _ _) fun _ => .pure _) fun _ => .pure _
  · rcases res with (_ | e) | (e | path)
    · exact .throw _
    · exact .throw _
    · exact .throw _
    · exact .bind (.modify_of_acts (F := ({ · with configPath := path.bytes })) fun _ => rfl) fun _ =>
        alike_cout _ _

theorem alike_newTunnel : Alike hide (newTunnel env) (newTunnel env) := by
  rw [newTunnel]
  refine .bind (.attempts (fun retry => .get_bind fun s t hst => ?_) _ _ _) fun res => ?_
  · rw [eq_of_hide hst configPath fun _ => rfl]
    refine .bind (alike_push rfl) fun _ => ?_
    cases env.newTunnel retry with
    | ok path => exact .pure _
    | error e => exact .ite (fun _ => .pure _) fun _ => .throw _
  · rcases res with last | path
    · exact .throw _
    · exact .bind (.modify_of_acts (F := ({ · with sessionPath := path.bytes })) fun _ => rfl) fun _ =>
        alike_cout _ _

theorem alike_get {f g : DBusClient → DBusM α}
    (h : ∀ s t : DBusClient, s.sessionPath = t.sessionPath → Alike hide (f s) (g t)) :
    Alike hide (get >>= f) (get >>= g) := by
  exact .get_bind fun s t hst => h s t (eq_of_hide hst sessionPath fun _ => rfl)

theorem alike_awaitSession : Alike hide (awaitSession env) (awaitSession env) := by
  rw [awaitSession]
  refine .bind (.attempts (fun i => alike_get fun s t hpath => ?_) _ _ _) fun res => ?_
  · rw [hpath]
    exact .bind (alike_push rfl) fun _ => .pure _
  · rcases res with last | ⟨⟩
    · exact .throw _
    · exact .pure _

/-- The value provided is not told. -/
theorem alike_provideCredential (loop : ℕ) (type group id : UInt32) (value value' : Bytes) :
    Alike hide (provideCredential env loop type group id value)
      (provideCredential env loop type group id value') := by
  rw [provideCredential, provideCredential]
  refine .bind (alike_cout _ _) fun _ => alike_get fun s t hpath => ?_
  rw [hpath]
  refine .bind (alike_push rfl) fun _ => ?_
  cases env.userInputProvide loop id with
  | ok => exact .pure _
  | error e => exact alike_cout _ _

/-- The credentials are provided, and nothing depends on them but what they are. -/
theorem alike_awaitReady (password password' : Bytes) :
    Alike hide (awaitReady env password) (awaitReady env password') := by
  rw [awaitReady, awaitReady]
  refine .bind (.attempts (fun loop => ?_) _ _ _) fun res => ?_
  · refine .bind (alike_provideCredential env loop _ _ _ _ _) fun _ =>
      .bind (alike_provideCredential env loop _ _ _ _ _) fun _ => alike_get fun s t hpath => ?_
    rw [hpath]
    refine .bind (alike_push rfl) fun _ => ?_
    cases env.ready loop with
    | ok => exact .bind (alike_cout _ _) fun _ => .pure _
    | error e => exact .ite (fun _ => .bind (alike_cout _ _) fun _ => .pure _) fun _ => .pure _
  · rcases res with last | ⟨⟩
    · exact .throw _
    · exact .pure _

theorem alike_logForward : Alike hide (logForward env) (logForward env) := by
  rw [logForward]
  refine .bind (alike_dispatch _) fun _ => alike_get fun s t hpath => ?_
  rw [hpath]
  refine .bind (alike_push rfl) fun _ => ?_
  cases env.logForward with
  | ok => exact .pure _
  | error e => exact alike_cout _ _

theorem alike_callConnect : Alike hide (callConnect env) (callConnect env) := by
  rw [callConnect]
  refine .bind (alike_dispatch _) fun _ => alike_get fun s t hpath => ?_
  rw [hpath]
  refine .bind (alike_push rfl) fun _ => ?_
  cases env.connect with
  | ok => exact .pure _
  | error e => exact .throw _

theorem alike_startConnect : Alike hide (startConnect env) (startConnect env) := by
  rw [startConnect]
  exact .bind (alike_logAt _ _) fun _ => .bind (alike_logForward env) fun _ =>
    .bind (alike_callConnect env) fun _ => alike_logAt _ _

theorem alike_disconnect : Alike hide (disconnect env) (disconnect env) := by
  rw [disconnect]
  refine alike_get fun s t hpath => ?_
  rw [hpath]
  exact .ite (fun _ => .pure _) fun _ => .bind (alike_dispatch _) fun _ => alike_push rfl

theorem alike_cleanUp : Alike hide (cleanUp env) (cleanUp env) := by
  rw [cleanUp]
  refine alike_get fun s t hpath => ?_
  rw [hpath]
  exact .ite (fun _ => alike_disconnect env) fun _ => .pure _

theorem alike_pollStatus (w : WaitIteration) : Alike hide (pollStatus env w) (pollStatus env w) := by
  rw [pollStatus]
  refine .bind (alike_dispatch _) fun _ => alike_get fun s t hpath => ?_
  rw [hpath]
  exact .bind (alike_push rfl) fun _ => .modifyGet_of_acts (hide_onPolledStatus _)

theorem alike_pollConnectedTo (w : WaitIteration) :
    Alike hide (pollConnectedTo env w) (pollConnectedTo env w) := by
  rw [pollConnectedTo]
  refine .bind (alike_dispatch _) fun _ => alike_get fun s t hpath => ?_
  rw [hpath]
  exact .bind (alike_push rfl) fun _ => .modifyGet_of_acts (hide_onPolledConnectedTo _)

/-- The wait does not tell of them, -/
theorem alike_waitLoop (waits : List WaitIteration) :
    Alike hide (waitLoop env waits) (waitLoop env waits) := by
  induction waits with
  | nil => exact .throw _
  | cons w waits ih =>
    rw [waitLoop]
    refine .bind (alike_dispatch _) fun _ => .get_bind fun s t hst => ?_
    rw [eq_of_hide hst decided fun _ => rfl]
    refine .ite (fun _ => .pure _) fun _ => .bind (alike_pollStatus env w) fun r => ?_
    refine .ite (fun _ => .pure _) fun _ => .bind (alike_pollConnectedTo env w) fun r => ?_
    refine .ite (fun _ => .pure _) fun _ => .ite (fun _ => ?_) fun _ => ih
    exact .bind (alike_push rfl) fun _ => .bind (alike_cleanUp env) fun _ => .throw _

/-- nor does its result. -/
theorem alike_finish : Alike hide (finish env) (finish env) := by
  rw [finish]
  refine .bind (alike_dispatch _) fun _ => .get_bind fun s t hst => ?_
  rw [eq_of_hide hst failed fun _ => rfl]
  refine .ite (fun _ => .bind (alike_cleanUp env) fun _ => .get_bind fun s t hst => ?_) fun _ =>
    .bind (alike_dispatch _) fun _ => alike_cout _ _
  rw [eq_of_hide hst errorMsg fun _ => rfl]
  exact .throw _

/-- Whatever the token is, `connect` looks the same. -/
theorem alike_connect (configFile stateId token token' remoteIp : Bytes) :
    Alike hide (connect env configFile stateId token remoteIp)
      (connect env configFile stateId token' remoteIp) := by
  rw [connect, connect]
  cases readAndFilterConfig configFile env.file with
  | error what => exact .throw _
  | ok config =>
    exact .bind (alike_noteRemoteIp env remoteIp) fun _ => .bind (alike_importConfig env _) fun _ =>
      .bind (alike_newTunnel env) fun _ => .bind (alike_awaitSession env) fun _ =>
      .bind (alike_awaitReady env _ _) fun _ => .bind (alike_startConnect env) fun _ =>
      .bind (alike_waitLoop env _) fun _ => alike_finish env

end DBusClient

end OpenLawsVpn
