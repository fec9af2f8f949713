import OpenLawsVpn.Gui.Login

/-!
# Clients that hide the token

Phase 2 tells no more of the token than its length (`OpenVPNClient.alike_connectPhase2`), and
whatever else happens to a client tells nothing more: clients that look alike still do after
Phase 1, after what arrives, and when they are disconnected.

* `hide_receive`, `hide_receiveAll`, `hide_disconnect`: what happens to a client acts on the view
  that hides passwords;
* `alike_connectPhase1`, `alike_openvpnClientConnectPhase1`: Phase 1 looks the same on clients that
  look alike.

They are used for the runs of both programs, the CLI and the GUI.
-/

namespace OpenLawsVpn

open Wp

namespace OpenVPNClient

variable {settings : Settings}

/-- What is received has the same effect on clients alike but for passwords. -/
theorem hide_receive (input : Input) (c : OpenVPNClient) :
    (c.receive settings input).hide = c.hide.receive settings input := by
  cases input with
  | core input => exact hide_deliver input c
  | replaced i input =>
    rw [receive, receive, length_trace_hide, hide, hide]
    simp only [List.map_append, List.map_flatMap, List.map_map]
    congr 3
    funext core
    exact List.map_congr_left fun a _ => a.hide_toClient
  | signal s =>
    rw [receive, receive, hide, hide, Option.map_map, Option.map_map]
    congr 2
    funext d
    rw [Function.comp_apply, Function.comp_apply, DBusClient.hide_onStatusChange,
      DBusClient.hide_push]
    rfl

theorem hide_receiveAll (inputs : List Input) (c : OpenVPNClient) :
    (c.receiveAll settings inputs).hide = c.hide.receiveAll settings inputs := by
  rw [receiveAll, receiveAll]
  induction inputs generalizing c with
  | nil => rfl
  | cons input inputs ih => rw [List.foldl_cons, List.foldl_cons, ih, hide_receive]

/-- Clients stay alike when they get sessions that are alike. -/
theorem hide_setDBus {s t : OpenVPNClient} {d d' : DBusClient} (h : s.hide = t.hide)
    (hd : d.hide = d'.hide) : { s with dbus := some d }.hide = { t with dbus := some d' }.hide := by
  change { s.hide with dbus := some d.hide } = { t.hide with dbus := some d'.hide }
  rw [h, hd]

/-- `disconnect` does the same on clients alike but for passwords. -/
theorem hide_disconnect {s t : OpenVPNClient} (h : s.hide = t.hide) (env : Environment) :
    (s.disconnect env).hide = (t.disconnect env).hide := by
  have hstop : (if s.core.isSome then s.push .stop else s).hide =
      (if t.core.isSome then t.push .stop else t).hide := by
    rw [eq_of_hide h core fun _ => rfl]
    split_ifs
    · rw [hide_push, hide_push, h]
    · exact h
  rw [disconnect, disconnect]
  generalize (if s.core.isSome then s.push .stop else s) = s' at hstop ⊢
  generalize (if t.core.isSome then t.push .stop else t) = t' at hstop ⊢
  -- Both have a D-Bus client or none, alike but for the passwords.
  have hdbus : s'.dbus.map DBusClient.hide = t'.dbus.map DBusClient.hide := congrArg dbus hstop
  cases hs : s'.dbus with
  | none =>
    rw [hs, Option.map_none, eq_comm, Option.map_eq_none_iff] at hdbus
    rw [hdbus]
    exact hstop
  | some d =>
    rw [hs, Option.map_some, eq_comm, Option.map_eq_some_iff] at hdbus
    obtain ⟨d', ht, hd⟩ := hdbus
    rw [ht]
    exact hide_setDBus hstop (view_endState (DBusClient.alike_disconnect env d d' hd.symm))

/-! ## Phase 1 -/

/-- Phase 1 does the same on clients alike but for passwords. -/
theorem alike_connectPhase1 (env : Phase1Environment) :
    Alike hide (connectPhase1 settings env) (connectPhase1 settings env) := by
  rw [connectPhase1]
  refine .bind (.modify_of_acts (F := makeCore) fun _ => rfl) fun _ => .get_bind fun s t hst => ?_
  rw [eq_of_hide hst configPath fun _ => rfl]
  cases readAndFilterConfig t.configPath env.file with
  | error what => exact .throw _
  | ok config =>
    refine .bind (alike_push rfl) fun _ => ?_
    cases env.evalError with
    | some message => exact .throw _
    | none =>
      exact .bind (alike_push rfl) fun _ => .bind (alike_cout _) fun _ => .bind (alike_push rfl)
        fun _ => .bind (.modify_of_acts (hide_deliverAll env.inputs)) fun _ => alike_await _

theorem alike_openvpnClientConnectPhase1 (env : Phase1Environment) :
    Alike hide (openvpnClientConnectPhase1 settings env)
      (openvpnClientConnectPhase1 settings env) := by
  refine .tryCatch (.bind (alike_connectPhase1 env) fun _ => .pure _) fun stop => ?_
  cases stop with
  | threw what => exact .pure _
  | undefined => exact .throw _
  | waiting => exact .throw _

end OpenVPNClient

end OpenLawsVpn
