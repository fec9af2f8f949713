import OpenLawsVpn.DBus.Secrecy
import OpenLawsVpn.Gui.Phase2

/-!
# The token is not told

Phase 2 writes lines to the log callback, to the standard output and to the standard
error, in both modes, and also when it fails; the C interface adds one for an exception,
and the thread of the core another one (`Streams`). The token is in the password, which
is given to the core or provided to the session, and of which only the length is
written. So the lines are the same for all tokens of one length (`streams_eq`).

What the core and the services answer is given, whatever the token is: what they make of
a token is their own affair.

* `ClientAction.hide`, `OpenVPNClient.hide`: the view of an observer who sees all but passwords;
* `alike_connectPhase2`, `alike_openvpnClientConnectPhase2`: Phase 2 with two tokens of one length
  looks the same, whether it returns or throws;
* `streams_eq`: so the three streams are the same for both tokens.
-/

namespace OpenLawsVpn

open Wp

/-- A line that is written: handed to `emit_log`, or to the standard output. -/
inductive Line
  | log (text : Bytes)
  | stdout (text : Bytes)
  deriving DecidableEq, Repr

namespace Line

/-- The text of a line. -/
def text : Line → Bytes
  | .log text => text
  | .stdout text => text

/-- The line, if it is for the log callback. -/
def log? : Line → Option Bytes
  | .log text => some text
  | .stdout _ => none

/-- The line, if it is for the standard output. -/
def stdout? : Line → Option Bytes
  | .log _ => none
  | .stdout text => some text

end Line

namespace ClientAction

/-- An action without the password that it gives. -/
def hide : ClientAction → ClientAction
  | .provideCreds username _ => .provideCreds username []
  | a => a

/-- The line that an action writes. -/
def written? : ClientAction → Option Line
  | .log line => some (.log line)
  | .stdout line => some (.stdout line)
  | _ => none

/-- The thread of the core is started. -/
def isConnect : ClientAction → Bool
  | .connect => true
  | _ => false

theorem written?_hide (a : ClientAction) : a.hide.written? = a.written? := by
  cases a <;> rfl

theorem isConnect_hide (a : ClientAction) : a.hide.isConnect = a.isConnect := by
  cases a <;> rfl

end ClientAction

/-- What the core client does has no password in it. -/
theorem CoreAction.hide_toClient (a : CoreAction) : a.toClient.hide = a.toClient := by
  cases a <;> rfl

/-- The line that an action of the D-Bus client writes. -/
def DBusAction.written? : DBusAction → Option Line
  | .log line => some (.log line)
  | .stdout line => some (.stdout line)
  | _ => none

theorem DBusAction.written?_hide (a : DBusAction) : a.hide.written? = a.written? := by
  cases a with
  | call c => cases c <;> rfl
  | _ => rfl

/-- What is written to the log callback, the standard output and the standard error. -/
structure Streams where
  callback : List Bytes
  stdout : List Bytes
  stderr : List Bytes
  deriving DecidableEq, Repr

namespace OpenVPNClient

/-- The client without the passwords that it gave and provided. -/
def hide (c : OpenVPNClient) : OpenVPNClient :=
  { c with trace := c.trace.map ClientAction.hide, dbus := c.dbus.map DBusClient.hide }

variable {settings : Settings}

/-! ## Changes of the state -/

/-- What can be read from a client without its passwords is the same for clients alike but for
    them. -/
theorem eq_of_hide {β : Type*} {s t : OpenVPNClient} (h : s.hide = t.hide) (f : OpenVPNClient → β)
    (hf : ∀ c, f c.hide = f c) : f s = f t := by
  rw [← hf, h, hf]

theorem length_trace_hide (c : OpenVPNClient) : c.hide.trace.length = c.trace.length :=
  List.length_map _

theorem hide_push (a : ClientAction) (c : OpenVPNClient) : (c.push a).hide = c.hide.push a.hide := by
  rw [hide, push, push, hide, List.map_append, List.map_singleton]

theorem hide_cout (text : Bytes) (c : OpenVPNClient) :
    (c.cout settings text).hide = c.hide.cout settings text := by
  rw [cout, cout, hide_push, length_trace_hide]
  rfl

theorem hide_noteRemoteIp (remoteIp : Bytes) (c : OpenVPNClient) :
    (noteRemoteIp settings remoteIp c).hide = noteRemoteIp settings remoteIp c.hide := by
  rw [noteRemoteIp, noteRemoteIp]
  split_ifs
  · exact hide_cout _ c
  · rfl

/-- The event handler never looks at the passwords. -/
theorem hide_deliver (input : CoreInput) (c : OpenVPNClient) :
    (c.deliver settings input).hide = c.hide.deliver settings input := by
  rw [deliver, deliver, show c.hide.core = c.core from rfl, length_trace_hide]
  cases c.core with
  | none => rfl
  | some core =>
    dsimp only
    rw [hide, hide, List.map_append, List.map_map]
    congr 2
    exact List.map_congr_left fun a _ => a.hide_toClient

theorem hide_deliverAll (inputs : List CoreInput) (c : OpenVPNClient) :
    (c.deliverAll settings inputs).hide = c.hide.deliverAll settings inputs := by
  rw [deliverAll, deliverAll]
  induction inputs generalizing c with
  | nil => rfl
  | cons input inputs ih => rw [List.foldl_cons, List.foldl_cons, ih, hide_deliver]

/-! ## Programs -/

variable {α : Type}

/-- Actions alike but for their password keep clients alike. -/
theorem alike_push {a b : ClientAction} (h : a.hide = b.hide) :
    Alike hide (modify (push a) : ClientM PUnit) (modify (push b)) :=
  .modify fun s t hst => by rw [hide_push, hide_push, h, hst]

theorem alike_cout (text : Bytes) :
    Alike hide (modify (cout settings text) : ClientM PUnit) (modify (cout settings text)) :=
  .modify_of_acts (hide_cout text)

/-- A wait depends on no password. -/
theorem alike_await (wait : CoreClient → Except Bytes α) : Alike hide (await wait) (await wait) := by
  rw [await]
  refine .get_bind fun s t hst => ?_
  rw [eq_of_hide hst core fun _ => rfl]
  cases t.core with
  | none => exact .throw _
  | some core =>
    dsimp only
    cases wait core with
    | error what => exact .throw _
    | ok a => exact .pure _

variable {token token' : Bytes}

/-- Of the token only the length is told. -/
theorem alike_connectDirect (hlength : token.length = token'.length) (stateId remoteIp : Bytes)
    (env : Phase2Environment) :
    Alike hide (connectDirect settings stateId token remoteIp env)
      (connectDirect settings stateId token' remoteIp env) := by
  rw [connectDirect, connectDirect]
  refine .bind (.modify_of_acts (F := makeCore) fun _ => rfl) fun _ => .get_bind fun s t hst => ?_
  rw [eq_of_hide hst configPath fun _ => rfl]
  cases readAndFilterConfig t.configPath env.file with
  | error what => exact .throw _
  | ok config =>
    have hpassword : (lit "CRV1::" ++ stateId ++ lit "::" ++ token).length =
        (lit "CRV1::" ++ stateId ++ lit "::" ++ token').length := by
      simp only [List.length_append, hlength]
    dsimp only
    rw [hpassword, hlength]
    exact .bind (.modify_of_acts (hide_noteRemoteIp remoteIp)) fun _ => .bind (alike_push rfl) fun _ =>
      .bind (alike_cout _) fun _ => .bind (alike_cout _) fun _ => .bind (alike_push rfl) fun _ =>
      .bind (alike_push rfl) fun _ => .bind (alike_cout _) fun _ =>
      .bind (.modify_of_acts (hide_deliverAll env.inputs)) fun _ => alike_await _

/-- In D-Bus mode nothing is told of the token. -/
theorem alike_connectDBus (stateId remoteIp : Bytes) (env : Phase2Environment) :
    Alike hide (connectDBus settings stateId token remoteIp env)
      (connectDBus settings stateId token' remoteIp env) := by
  rw [connectDBus, connectDBus]
  cases env.bus with
  | error e => exact .throw _
  | ok =>
    refine .get_bind fun s t hst => ?_
    rw [eq_of_hide hst configPath fun _ => rfl]
    have hseen := DBusClient.alike_connect env.dbus t.configPath stateId token token' remoteIp
      { logLevel := settings.logLevel } _ rfl
    have hdbus : ∀ {d d' : DBusClient}, d.hide = d'.hide →
        Alike hide (modify ({ · with dbus := some d }) : ClientM PUnit)
          (modify ({ · with dbus := some d' })) := by
      intro d d' hd
      refine .modify fun s t hst => ?_
      change { s.hide with dbus := some d.hide } = { t.hide with dbus := some d'.hide }
      rw [hst, hd]
    -- Both attempts end alike: one cannot return where the other throws.
    cases hx : DBusClient.connect env.dbus t.configPath stateId token remoteIp
        { logLevel := settings.logLevel } <;>
      cases hy : DBusClient.connect env.dbus t.configPath stateId token' remoteIp
        { logLevel := settings.logLevel } <;>
      rw [hx, hy] at hseen <;> obtain ⟨h₁, h₂⟩ := Prod.mk.inj hseen
    · exact hdbus h₂
    · cases h₁
    · cases h₁
    · obtain rfl := Except.error.inj h₁
      exact .bind (hdbus h₂) fun _ => .throw _

/-- Both modes. -/
theorem alike_connectPhase2 (hlength : token.length = token'.length) (stateId remoteIp : Bytes)
    (env : Phase2Environment) :
    Alike hide (connectPhase2 settings stateId token remoteIp env)
      (connectPhase2 settings stateId token' remoteIp env) := by
  rw [connectPhase2, connectPhase2]
  refine .get_bind fun s t hst => ?_
  rw [eq_of_hide hst mode fun _ => rfl]
  cases t.mode with
  | direct => exact alike_connectDirect hlength stateId remoteIp env
  | dbus => exact alike_connectDBus stateId remoteIp env

/-! ## The C interface -/

variable (settings)

/-- An exception leaves a line in the log. -/
def reportError : Stop → ClientM Unit
  | .threw what => modify fun c => c.push (.log (errorLine (settings.clock c.trace.length) what))
  | stop => throw stop

/-- `openvpn_client_connect_phase2`. -/
def openvpnClientConnectPhase2 (stateId token : Bytes) (remoteIp : Option Bytes)
    (env : Phase2Environment) : ClientM Unit :=
  tryCatch (connectPhase2 settings stateId token (remoteIp.getD []) env) (reportError settings)

/-- The C function tells no more than the phase. -/
theorem alike_openvpnClientConnectPhase2 (hlength : token.length = token'.length) (stateId : Bytes)
    (remoteIp : Option Bytes) (env : Phase2Environment) :
    Alike hide (openvpnClientConnectPhase2 settings stateId token remoteIp env)
      (openvpnClientConnectPhase2 settings stateId token' remoteIp env) := by
  refine .tryCatch (alike_connectPhase2 hlength stateId _ env) fun stop => ?_
  cases stop with
  | threw what =>
    refine .modify fun s t hst => ?_
    rw [hide_push, hide_push, hst, ← length_trace_hide s, ← length_trace_hide t, hst]
  | undefined => exact .throw _
  | waiting => exact .throw _

/-- The lines that Phase 2 wrote, from one state to another: those of the D-Bus client
    that it made, and its own. -/
def lines (env : Phase2Environment) (c c' : OpenVPNClient) : List Line :=
  let ofDBus :=
    match c.mode, env.bus with
    | .dbus, .ok () => c'.dbus.toList.flatMap fun d => d.trace.filterMap DBusAction.written?
    | _, _ => []
  ofDBus ++ (c'.trace.drop c.trace.length).filterMap ClientAction.written?

/-- Where the lines go: without a log callback, those for the log go to the standard
    output. The thread of the core, if it is started, may end with an exception, for
    which it writes a line to the standard error. -/
def streams (env : Phase2Environment) (callback : Bool) (threadError : Option Bytes)
    (c c' : OpenVPNClient) : Streams where
  callback := if callback then ((lines env c c').filterMap Line.log?).map cStr else []
  stdout := if callback then (lines env c c').filterMap Line.stdout? else (lines env c c').map Line.text
  stderr :=
    if (c'.trace.drop c.trace.length).any ClientAction.isConnect then
      threadError.toList.map fun what => lit "Background connect_phase2 error: " ++ cStr what ++ lit "\n"
    else []

/-- The lines written are those of the client without its passwords. -/
theorem lines_hide (env : Phase2Environment) (c c' : OpenVPNClient) :
    lines env c c'.hide = lines env c c' := by
  have hdbus : ∀ d : DBusClient, d.hide.trace.filterMap DBusAction.written? =
      d.trace.filterMap DBusAction.written? := by
    intro d
    rw [DBusClient.hide, List.filterMap_map]
    exact List.filterMap_congr fun a _ => a.written?_hide
  have htrace : (c'.hide.trace.drop c.trace.length).filterMap ClientAction.written? =
      (c'.trace.drop c.trace.length).filterMap ClientAction.written? := by
    rw [hide, ← List.map_drop, List.filterMap_map]
    exact List.filterMap_congr fun a _ => a.written?_hide
  rw [lines, lines, htrace, show c'.hide.dbus = c'.dbus.map DBusClient.hide from rfl]
  cases c'.dbus with
  | none => rfl
  | some d => simp only [Option.map_some, Option.toList_some, List.flatMap_singleton, hdbus]

theorem streams_hide (env : Phase2Environment) (callback : Bool) (threadError : Option Bytes)
    (c c' : OpenVPNClient) :
    streams env callback threadError c c'.hide = streams env callback threadError c c' := by
  have hany : (c'.hide.trace.drop c.trace.length).any ClientAction.isConnect =
      (c'.trace.drop c.trace.length).any ClientAction.isConnect := by
    rw [hide, ← List.map_drop, List.any_map]
    exact congrArg (List.any _) (funext ClientAction.isConnect_hide)
  rw [streams, streams, lines_hide, hany]

/-- For any two tokens of one length, Phase 2 writes the same lines. -/
theorem streams_eq (settings : Settings) (c : OpenVPNClient) (env : Phase2Environment)
    (callback : Bool) (threadError : Option Bytes) (stateId : Bytes) (remoteIp : Option Bytes)
    {token token' : Bytes} (hlength : token.length = token'.length) :
    streams env callback threadError c
        (endState (openvpnClientConnectPhase2 settings stateId token remoteIp env c)) =
      streams env callback threadError c
        (endState (openvpnClientConnectPhase2 settings stateId token' remoteIp env c)) := by
  have hend := view_endState
    (alike_openvpnClientConnectPhase2 settings hlength stateId remoteIp env c c rfl)
  rw [← streams_hide, hend, streams_hide]

/-- A profile that is read, in direct mode, and a connection that fails. -/
def refused : Phase2Environment where
  file := some (lit "client\n")
  inputs := [.event ⟨lit "AUTH_FAILED", []⟩]
  dbus := DBusClient.setsUp

/-- The output of Phase 2 with a token. -/
def refusedStreams (token : Bytes) : Streams :=
  let c : OpenVPNClient := { configPath := lit "work.ovpn", mode := .direct }
  streams refused true (some (lit "stopped")) c
    (endState (openvpnClientConnectPhase2 { clock := fun _ => ⟨2024, 5, 17, 9, 30, 0⟩ } (lit "id") token
      none refused c))

theorem streams_eq_refused : refusedStreams (lit "secret") = refusedStreams (lit "public") :=
  streams_eq _ _ _ _ _ _ _ rfl

/-- The length is told. -/
example : refusedStreams (lit "secret") ≠ refusedStreams (lit "secret+") := by
  decide +kernel

end OpenVPNClient

end OpenLawsVpn
