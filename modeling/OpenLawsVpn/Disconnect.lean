import OpenLawsVpn.Core.Flags
import OpenLawsVpn.DBus.Connected

/-!
# Waiting for the end of the tunnel

`wait_for_disconnect` waits for the flag of a core client, set by a
`DISCONNECTED` after a `CONNECTED`. In direct mode, this is the core client of
Phase 2, so the wait ends when the tunnel is down. In D-Bus mode it is still the
one of Phase 1, which knows nothing of the tunnel: the wait tracks the tunnel
exactly if the tunnel is never reported down, and the connection of Phase 1 has
no end of its own (`tracksTunnel_iff`).

* `TracksCore`: the client has a core client to which given inputs were delivered; the phases
  establish it, and whatever is received later extends the inputs (`TracksCore.receiveAll`);
* `TracksCore.waitForDisconnect_iff`: the wait ends exactly once these inputs ended the connection;
* `Run.tracksTunnel_iff`: in all states after the phases, the end of the wait is that of the
  tunnel, exactly in the cases above;
* `comesUp_waits`: a run in D-Bus mode in which the tunnel is down and the wait goes on.

Both ends are latches of what was received, and no input sets both, so that they agree along a
whole run exactly if neither is set, or both were from the start (`Latch.agree_iff`).
-/

namespace OpenLawsVpn

open Wp

/-- The signal reports the tunnel down. -/
def IsDown (s : Signal) : Prop :=
  ∃ st, s.status = some st ∧ st.major = 2 ∧ (st.minor = 103 ∨ st.minor = 110)

namespace OpenVPNClient

variable {settings : Settings} {c : OpenVPNClient}

/-- What is delivered to the core client. -/
def coreInputs (inputs : List Input) : List CoreInput :=
  inputs.filterMap fun
    | .core input => some input
    | _ => none

/-- The signals of the session. -/
def sessionSignals (inputs : List Input) : List Signal :=
  inputs.filterMap fun
    | .signal s => some s
    | _ => none

/-- What the core delivers leaves the mode as it is. -/
theorem mode_deliverAll (inputs : List CoreInput) (c : OpenVPNClient) :
    (c.deliverAll settings inputs).mode = c.mode := by
  rw [OpenVPNClient.deliverAll]
  induction inputs generalizing c with
  | nil => rfl
  | cons input inputs ih =>
    rw [List.foldl_cons, ih, deliver]
    split <;> rfl

/-- Whatever is received leaves the mode as it is. -/
theorem mode_receiveAll (inputs : List Input) (c : OpenVPNClient) :
    (c.receiveAll settings inputs).mode = c.mode := by
  rw [OpenVPNClient.receiveAll]
  induction inputs generalizing c with
  | nil => rfl
  | cons input inputs ih =>
    rw [List.foldl_cons, ih]
    cases input with
    | core input => exact mode_deliverAll [input] c
    | replaced i input => rfl
    | signal s => rfl

/-- The client has a core client, to which the inputs were delivered. -/
def TracksCore (inputs : List CoreInput) (c : OpenVPNClient) : Prop :=
  ∃ core, c.core = some core ∧ Tracks inputs core

/-- One more input is delivered to the core client. -/
theorem TracksCore.deliver {inputs : List CoreInput} (h : TracksCore inputs c) (input : CoreInput) :
    TracksCore (inputs ++ [input]) (c.deliver settings input) := by
  obtain ⟨core, hcore, h⟩ := h
  rw [OpenVPNClient.deliver, hcore]
  exact ⟨_, rfl, h.handle settings _ input⟩

theorem TracksCore.deliverAll {inputs : List CoreInput} (h : TracksCore inputs c)
    (later : List CoreInput) : TracksCore (inputs ++ later) (c.deliverAll settings later) := by
  rw [OpenVPNClient.deliverAll]
  induction later generalizing inputs c with
  | nil => simpa using h
  | cons input later ih =>
    rw [List.foldl_cons, show inputs ++ input :: later = inputs ++ [input] ++ later by simp]
    exact ih (h.deliver input)

/-- Neither a signal nor an input of a core that was replaced is delivered to the core client. -/
theorem TracksCore.receive {inputs : List CoreInput} (h : TracksCore inputs c) (input : Input) :
    TracksCore (inputs ++ coreInputs [input]) (c.receive settings input) := by
  cases input with
  | core input => exact h.deliver input
  | replaced i input =>
    obtain ⟨core, hcore, h⟩ := h
    exact ⟨core, hcore, by simpa [coreInputs] using h⟩
  | signal s =>
    obtain ⟨core, hcore, h⟩ := h
    exact ⟨core, hcore, by simpa [coreInputs] using h⟩

theorem coreInputs_append (l l' : List Input) :
    coreInputs (l ++ l') = coreInputs l ++ coreInputs l' :=
  List.filterMap_append

theorem sessionSignals_append (l l' : List Input) :
    sessionSignals (l ++ l') = sessionSignals l ++ sessionSignals l' :=
  List.filterMap_append

/-- Of all that is received, the core client gets what its own core delivers. -/
theorem TracksCore.receiveAll {inputs : List CoreInput} (h : TracksCore inputs c)
    (later : List Input) :
    TracksCore (inputs ++ coreInputs later) (c.receiveAll settings later) := by
  rw [OpenVPNClient.receiveAll]
  induction later generalizing inputs c with
  | nil => simpa [coreInputs] using h
  | cons input later ih =>
    rw [List.foldl_cons, show input :: later = [input] ++ later from rfl, coreInputs_append,
      ← List.append_assoc]
    exact ih (h.receive input)

/-- The wait ends exactly after the connection of the core client. -/
theorem TracksCore.waitForDisconnect_iff {inputs : List CoreInput} (h : TracksCore inputs c) :
    c.waitForDisconnect.isSome = true ↔ Ended inputs := by
  obtain ⟨core, hcore, h⟩ := h
  rw [← h.final, waitForDisconnect, hcore]
  simp [CoreClient.waitForFinalDisconnect]

/-! ## Runs -/

/-- A run of the two phases: the settings, the mode, what the phases meet, and
    what arrives between them. -/
structure Run where
  settings : Settings
  configPath : Bytes
  mode : ConnectMode
  phase1 : Phase1Environment
  between : List Input
  stateId : Bytes
  token : Bytes
  remoteIp : Bytes
  phase2 : Phase2Environment

namespace Run

variable (run : Run)

/-- The two phases. -/
def phases : ClientM Unit := do
  let _ ← connectPhase1 run.settings run.phase1
  modify (receiveAll run.settings run.between)
  connectPhase2 run.settings run.stateId run.token run.remoteIp run.phase2

/-- The client before the phases. -/
def start : OpenVPNClient := { configPath := run.configPath, mode := run.mode }

/-- The connection of Phase 1 ended. -/
def Phase1Ended (later : List Input) : Prop :=
  Ended (run.phase1.inputs ++ coreInputs run.between ++ coreInputs later)

/-- The tunnel of Phase 2 is reported down: in direct mode by the core, in D-Bus
    mode by the session, to the D-Bus client of `c` or later. -/
def Down (c : OpenVPNClient) (later : List Input) : Prop :=
  match run.mode with
  | .direct => Ended (run.phase2.inputs ++ coreInputs later)
  | .dbus => ∃ s, IsDown s ∧
      ((∃ d, c.dbus = some d ∧ DBusAction.signal s ∈ d.trace) ∨ s ∈ sessionSignals later)

/-- In each state reached from `c`, the wait ends exactly if the tunnel is down. -/
def TracksTunnel (c : OpenVPNClient) (later : List Input) : Prop :=
  ∀ l, l <+: later →
    ((c.receiveAll run.settings l).waitForDisconnect.isSome = true ↔ run.Down c l)

/-- The core client when the phases return: the one of Phase 2 in direct mode, the
    one of Phase 1 in D-Bus mode. -/
def coreClientInputs : List CoreInput :=
  match run.mode with
  | .direct => run.phase2.inputs
  | .dbus => run.phase1.inputs ++ coreInputs run.between

variable {run}

/-- A wait leaves the client as it is. -/
theorem wp_await {α : Type} {wait : CoreClient → Except Bytes α} {P : OpenVPNClient → Prop}
    (h : P c) : wp (await wait) (fun _ c => P c) (fun _ _ => True) c := by
  rw [await, wp_bind, wp_get]
  cases c.core with
  | none => trivial
  | some core =>
    dsimp only
    cases wait core with
    | error what => trivial
    | ok a => exact h

/-- Inputs are delivered to a new core client. -/
theorem tracksCore_of_new (h : c.core = some {}) (inputs : List CoreInput) :
    TracksCore inputs (c.deliverAll settings inputs) :=
  TracksCore.deliverAll ⟨{}, h, .init⟩ inputs

/-- After Phase 1 the core client has the inputs of Phase 1, and the mode is that of the run. -/
theorem wp_connectPhase1 (hmode : c.mode = run.mode) :
    wp (connectPhase1 run.settings run.phase1)
      (fun _ c => TracksCore run.phase1.inputs c ∧ c.mode = run.mode) (fun _ _ => True) c := by
  simp only [connectPhase1, wp_bind, wp_get, wp_modify]
  cases readAndFilterConfig c.makeCore.configPath run.phase1.file with
  | error what => trivial
  | ok config =>
    simp only [wp_bind, wp_modify]
    cases run.phase1.evalError with
    | some message => trivial
    | none =>
      simp only [wp_bind, wp_modify]
      refine wp_await (P := fun c => TracksCore run.phase1.inputs c ∧ c.mode = run.mode) ⟨?_, ?_⟩
      · exact tracksCore_of_new rfl run.phase1.inputs
      · rw [mode_deliverAll]
        exact hmode

/-- In direct mode the core client after Phase 2 is that of Phase 2, with its inputs. -/
theorem wp_connectDirect (stateId token remoteIp : Bytes) :
    wp (connectDirect run.settings stateId token remoteIp run.phase2)
      (fun _ c => TracksCore run.phase2.inputs c) (fun _ _ => True) c := by
  simp only [connectDirect, wp_bind, wp_get, wp_modify]
  cases readAndFilterConfig c.makeCore.configPath run.phase2.file with
  | error what => trivial
  | ok config =>
    simp only [wp_bind, wp_modify]
    refine wp_await (P := TracksCore run.phase2.inputs) ?_
    refine tracksCore_of_new ?_ run.phase2.inputs
    rw [noteRemoteIp]
    split_ifs <;> rfl

/-- In D-Bus mode the core client after Phase 2 is still that of Phase 1. -/
theorem wp_connectDBus (stateId token remoteIp : Bytes) {inputs : List CoreInput}
    (h : TracksCore inputs c) :
    wp (connectDBus run.settings stateId token remoteIp run.phase2)
      (fun _ c => TracksCore inputs c) (fun _ _ => True) c := by
  rw [connectDBus]
  cases run.phase2.bus with
  | error e => trivial
  | ok =>
    simp only [wp_bind, wp_get]
    split
    · exact h
    · trivial

/-- When both phases return, the core client has the inputs that the mode gives it. -/
theorem tracksCore_of_phases {c : OpenVPNClient} (h : run.phases run.start = .ok () c) :
    TracksCore run.coreClientInputs c := by
  suffices hwp : wp run.phases (fun _ c => TracksCore run.coreClientInputs c) (fun _ _ => True)
      run.start from post_of_wp hwp h
  rw [phases, wp_bind]
  refine wp_mono (wp_connectPhase1 rfl) (fun _ c ⟨htracks, hmode⟩ => ?_) fun _ _ h => h
  simp only [wp_bind, wp_modify, connectPhase2, wp_get, mode_receiveAll, hmode]
  rw [coreClientInputs]
  cases run.mode with
  | direct => exact wp_connectDirect _ _ _
  | dbus => exact wp_connectDBus _ _ _ (htracks.receiveAll run.between)

theorem stays_phase1Ended : Latch.Stays run.Phase1Ended := fun l i h => by
  refine stays_ended.of_prefix ?_ h
  rw [coreInputs_append, ← List.append_assoc]
  exact List.prefix_append _ _

/-- In D-Bus mode the tunnel is down once a signal says so, be it received before the phases
    returned or after. -/
theorem down_iff (hmode : run.mode = .dbus) {c : OpenVPNClient} {later : List Input} :
    run.Down c later ↔ ∃ s, IsDown s ∧
      ((∃ d, c.dbus = some d ∧ DBusAction.signal s ∈ d.trace) ∨ s ∈ sessionSignals later) := by
  rw [Down, hmode]

/-- A tunnel that is down stays down. -/
theorem stays_down (hmode : run.mode = .dbus) (c : OpenVPNClient) :
    Latch.Stays (run.Down c) := fun l i h => by
  rw [down_iff hmode] at h ⊢
  obtain ⟨s, hs, h⟩ := h
  refine ⟨s, hs, h.imp_right fun h => ?_⟩
  rw [sessionSignals_append]
  exact List.mem_append_left _ h

/-- No input ends the connection of Phase 1 and reports the tunnel down. -/
theorem phase1Ended_or_down (hmode : run.mode = .dbus) (c : OpenVPNClient) (l : List Input)
    (i : Input) :
    (run.Phase1Ended (l ++ [i]) → run.Phase1Ended l) ∨
      (run.Down c (l ++ [i]) → run.Down c l) := by
  cases i with
  | core input =>
    right
    rw [down_iff hmode, down_iff hmode, sessionSignals_append]
    simp [sessionSignals]
  | replaced n input =>
    right
    rw [down_iff hmode, down_iff hmode, sessionSignals_append]
    simp [sessionSignals]
  | signal s =>
    left
    rw [Phase1Ended, Phase1Ended, coreInputs_append]
    simp [coreInputs]

/-- In each state reached after the phases, the wait ends exactly if the tunnel is
    down, exactly in direct mode; or when, in D-Bus mode, neither the tunnel is
    reported down nor the connection of Phase 1 ends, or both did before the phases
    returned. -/
theorem tracksTunnel_iff (run : Run) (c : OpenVPNClient) (later : List Input)
    (h : run.phases run.start = .ok () c) :
    run.TracksTunnel c later ↔
      run.mode = .direct ∨
        (run.Phase1Ended later ∨ run.Down c later → run.Phase1Ended [] ∧ run.Down c []) := by
  have hwait : ∀ l, (c.receiveAll run.settings l).waitForDisconnect.isSome = true ↔
      Ended (run.coreClientInputs ++ coreInputs l) := fun l =>
    ((tracksCore_of_phases h).receiveAll l).waitForDisconnect_iff
  rw [TracksTunnel]
  simp only [hwait]
  cases hmode : run.mode with
  | direct =>
    refine iff_of_true (fun l _ => ?_) (.inl rfl)
    rw [coreClientInputs, Down, hmode]
  | dbus =>
    have hinputs : run.coreClientInputs = run.phase1.inputs ++ coreInputs run.between := by
      rw [coreClientInputs, hmode]
    rw [hinputs]
    simp only [reduceCtorEq, false_or]
    exact Latch.agree_iff (P := run.Phase1Ended) (Q := run.Down c) stays_phase1Ended
      (stays_down hmode c) (phase1Ended_or_down hmode c) later

/-! ### The two modes -/

/-- A run in which the tunnel comes up. -/
def comesUp (mode : ConnectMode) : Run where
  settings := { clock := fun _ => ⟨2024, 1, 1, 0, 0, 0⟩ }
  configPath := lit "vpn.ovpn"
  mode := mode
  phase1 := { file := some (lit "client\n"), inputs :=
    [.event ⟨lit "DYNAMIC_CHALLENGE", lit "CRV1:R:sid:dQ==:https://portal"⟩] }
  between := [.core (.event ⟨lit "DISCONNECTED", []⟩)]
  stateId := lit "sid"
  token := lit "dG9rZW4="
  remoteIp := []
  phase2 := { file := some (lit "client\n"), inputs := [.event ⟨lit "CONNECTED", []⟩], dbus :=
    { DBusClient.setsUp with waits :=
        [{ signals := [.ofStatus ⟨2, 101, ⟨lit "Client connected", by decide⟩⟩] }] } }

theorem tracksTunnel_iff_comesUp :
    ∃ c, (comesUp .direct).phases (comesUp .direct).start = .ok () c ∧
      ((comesUp .direct).TracksTunnel c [.core (.event ⟨lit "DISCONNECTED", []⟩)] ↔
        (comesUp .direct).mode = .direct ∨
          ((comesUp .direct).Phase1Ended [.core (.event ⟨lit "DISCONNECTED", []⟩)] ∨
            (comesUp .direct).Down c [.core (.event ⟨lit "DISCONNECTED", []⟩)] →
              (comesUp .direct).Phase1Ended [] ∧ (comesUp .direct).Down c [])) :=
  ⟨_, rfl, tracksTunnel_iff _ _ _ rfl⟩

/-- In D-Bus mode, the session reports that the tunnel is down, and the wait goes
    on. -/
theorem comesUp_waits :
    ∃ c, (comesUp .dbus).phases (comesUp .dbus).start = .ok () c ∧
      (comesUp .dbus).Down c [.signal (.ofStatus ⟨2, 103, ⟨lit "Client disconnected", by decide⟩⟩)] ∧
      (c.receiveAll (comesUp .dbus).settings
        [.signal (.ofStatus ⟨2, 103, ⟨lit "Client disconnected", by decide⟩⟩)]).waitForDisconnect =
          none := by
  refine ⟨_, rfl, ⟨_, ⟨_, rfl, rfl, .inl rfl⟩, .inr List.mem_cons_self⟩, rfl⟩

end Run

end OpenVPNClient

end OpenLawsVpn
