import OpenLawsVpn.Core.History

/-!
# Failed attempts

An attempt that throws after it has started the thread of its core client leaves
a core client behind that goes on connecting, unless it is asked to stop. The
only request to stop is that of the handler of a challenge, so there is one
exactly if a challenge was delivered (`Started.deliverAll`).

Phase 1 without a challenge always throws: it was not stopped exactly if no
challenge arrived. Phase 2 in direct mode expects no challenge: it is stopped
only by one, and otherwise every failure of it is left running
(`stopsOnFailure_iff`).

* `StopsOnFailure`: a call that throws has asked the thread that it started to stop;
* `Prepared`, `Started`: a call before and after it starts the thread, with what was delivered;
* `stopsOnFailure_connectPhase1_iff`, `stopsOnFailure_connectDirect_iff`: each phase by itself;
* `connected_of_silent`: a core that says nothing until the wait is over is left running, and can
  still connect.
-/

namespace OpenLawsVpn

open Wp

/-- The core is asked to stop exactly by a challenge that is accepted. -/
theorem CoreClient.stop_mem_handle_iff (settings : Settings) (now : Stamp) (input : CoreInput)
    (core : CoreClient) :
    CoreAction.stop ∈ (core.handle settings now input).2 ↔ input.challenge?.isSome := by
  cases input with
  | event ev =>
    rw [handle, event, CoreInput.challenge?]
    have hlog : CoreAction.stop ∉
        (if 0 < settings.logLevel then [CoreAction.log (eventLine now ev)] else []) := by
      split_ifs <;> simp
    -- A challenge that is not in the format is told of only.
    by_cases hchallenge : ev.name = lit "DYNAMIC_CHALLENGE"
    · simp only [if_pos hchallenge]
      cases parseChallenge ev.info <;> simp [hlog]
    · simp only [if_neg hchallenge]
      split_ifs <;> simp_all
  | log text =>
    rw [handle, CoreClient.log]
    split_ifs <;> simp [CoreInput.challenge?]
  | socketProtect remote ipv6 =>
    simp only [handle, CoreClient.socketProtect]
    cases settings.socketProtect with
    | some fn => simp [CoreInput.challenge?]
    | none =>
      dsimp only
      split_ifs <;> simp [CoreInput.challenge?]

namespace OpenVPNClient

variable {settings : Settings}

/-- If the call throws after it has started the thread of the core client, the core
    client was asked to stop. -/
def StopsOnFailure {α : Type} (c : OpenVPNClient) (r : EStateM.Result Stop OpenVPNClient α) : Prop :=
  ∀ e c' new, r = .error e c' → c'.trace = c.trace ++ new → .connect ∈ new → .stop ∈ new

/-- How a call that throws in `c` has to end. -/
def StoppedIn (c₀ c : OpenVPNClient) : Prop :=
  ∀ new, c.trace = c₀.trace ++ new → .connect ∈ new → .stop ∈ new

/-- A call in the state `c₀` has made a core client, and not started its thread. -/
structure Prepared (c₀ c : OpenVPNClient) : Prop where
  trace : ∃ new, c.trace = c₀.trace ++ new ∧ .connect ∉ new ∧ .stop ∉ new
  core : c.core = some {}

/-- The thread of the core client runs since a call in the state `c₀`, and the core
    has delivered the inputs. -/
structure Started (c₀ : OpenVPNClient) (inputs : List CoreInput) (c : OpenVPNClient) : Prop where
  trace : ∃ new, c.trace = c₀.trace ++ new ∧ .connect ∈ new ∧ (.stop ∈ new ↔ challenges inputs ≠ [])
  core : ∃ core, c.core = some core ∧ Recorded inputs core

variable {c₀ c : OpenVPNClient} {inputs : List CoreInput}

/-- The statement about a failed call as a weakest precondition, to which the rules apply. -/
theorem stopsOnFailure_iff_wp {α : Type} {x : ClientM α} :
    StopsOnFailure c (x c) ↔ wp x (fun _ _ => True) (fun _ c' => StoppedIn c c') c := by
  rw [wp]
  cases hx : x c with
  | ok a c' => exact iff_of_true (fun e c' new h => by cases h) trivial
  | error e c' =>
    constructor
    · exact fun h new => h e c' new rfl
    · rintro h e' c'' new hr
      cases hr
      exact h new

/-! ## Before the thread is started -/

/-- A new core object has nothing done on it. -/
theorem prepared_makeCore (c : OpenVPNClient) : Prepared c c.makeCore where
  trace := ⟨[], (List.append_nil _).symm, List.not_mem_nil, List.not_mem_nil⟩
  core := rfl

namespace Prepared

variable (h : Prepared c₀ c)
include h

/-- An action that neither starts nor stops the thread. -/
theorem push {a : ClientAction} (hconnect : .connect ≠ a) (hstop : .stop ≠ a) :
    Prepared c₀ (c.push a) := by
  obtain ⟨⟨new, htrace, hnew⟩, hcore⟩ := h
  refine ⟨⟨new ++ [a], ?_, by simp [hnew.1, hconnect], by simp [hnew.2, hstop]⟩, hcore⟩
  rw [OpenVPNClient.push, htrace, List.append_assoc]

theorem cout (settings : Settings) (text : Bytes) : Prepared c₀ (c.cout settings text) :=
  h.push nofun nofun

theorem noteRemoteIp (settings : Settings) (remoteIp : Bytes) :
    Prepared c₀ (noteRemoteIp settings remoteIp c) := by
  rw [OpenVPNClient.noteRemoteIp]
  split_ifs
  · exact h.cout settings _
  · exact h

/-- There is nothing to stop yet. -/
theorem stoppedIn : StoppedIn c₀ c := by
  obtain ⟨new, htrace, hconnect, -⟩ := h.trace
  intro new' htrace' hconnect'
  rw [List.append_cancel_left (htrace.symm.trans htrace')] at hconnect
  exact absurd hconnect' hconnect

/-- The thread is started, and the core has delivered nothing yet. -/
theorem start : Started c₀ [] (c.push .connect) where
  trace := by
    obtain ⟨new, htrace, -, hstop⟩ := h.trace
    refine ⟨new ++ [.connect], ?_, by simp, iff_of_false (by simp [hstop]) (by simp [challenges])⟩
    rw [OpenVPNClient.push, htrace, List.append_assoc]
  core := ⟨{}, h.core, .init⟩

end Prepared

/-! ## While the thread runs -/

theorem stop_mem_map_toClient {actions : List CoreAction} :
    .stop ∈ actions.map CoreAction.toClient ↔ .stop ∈ actions := by
  rw [List.mem_map]
  constructor
  · rintro ⟨a, ha, hstop⟩
    cases a with
    | stop => exact ha
    | log line => cases hstop
    | stdout line => cases hstop
  · exact fun h => ⟨.stop, h, rfl⟩

namespace Started

theorem push (h : Started c₀ inputs c) {a : ClientAction} (ha : .stop ≠ a) :
    Started c₀ inputs (c.push a) := by
  obtain ⟨⟨new, htrace, hconnect, hstop⟩, hcore⟩ := h
  refine ⟨⟨new ++ [a], ?_, List.mem_append_left _ hconnect, by simpa [ha] using hstop⟩, hcore⟩
  rw [OpenVPNClient.push, htrace, List.append_assoc]

theorem cout (h : Started c₀ inputs c) (settings : Settings) (text : Bytes) :
    Started c₀ inputs (c.cout settings text) :=
  h.push nofun

/-- The core delivers another input, which the handler answers with a stop exactly if it is a
    challenge. -/
theorem deliver (h : Started c₀ inputs c) (settings : Settings) (input : CoreInput) :
    Started c₀ (inputs ++ [input]) (c.deliver settings input) := by
  obtain ⟨⟨new, htrace, hconnect, hstop⟩, core, hcore, hrecorded⟩ := h
  set now := settings.clock c.trace.length
  have heq : c.deliver settings input = { c with
      core := some (core.handle settings now input).1
      trace := c.trace ++ (core.handle settings now input).2.map CoreAction.toClient } := by
    rw [OpenVPNClient.deliver, hcore]
  rw [heq]
  refine ⟨⟨new ++ (core.handle settings now input).2.map CoreAction.toClient, ?_,
    List.mem_append_left _ hconnect, ?_⟩, _, rfl, hrecorded.handle settings now input⟩
  · rw [htrace, List.append_assoc]
  · rw [List.mem_append, hstop, stop_mem_map_toClient, CoreClient.stop_mem_handle_iff,
      challenges_append]
    cases hchallenge : input.challenge? <;> simp [challenges, hchallenge]

/-- The core delivers any number of inputs. -/
theorem deliverAll (h : Started c₀ [] c) (settings : Settings) (later : List CoreInput) :
    Started c₀ later (c.deliverAll settings later) := by
  rw [OpenVPNClient.deliverAll]
  induction later using List.reverseRecOn with
  | nil => exact h
  | append_singleton later input ih =>
    rw [List.foldl_concat]
    exact ih.deliver settings input

/-- What was started was stopped exactly if the core named a challenge. -/
theorem stoppedIn_iff (h : Started c₀ inputs c) : StoppedIn c₀ c ↔ challenges inputs ≠ [] := by
  obtain ⟨new, htrace, hconnect, hstop⟩ := h.trace
  rw [← hstop]
  constructor
  · exact fun hstopped => hstopped new htrace hconnect
  · intro hmem new' htrace' _
    rwa [List.append_cancel_left (htrace.symm.trans htrace')] at hmem

/-- A call whose wait ends: it was stopped exactly if it met a challenge, or returns. -/
theorem wp_await_iff {α : Type} (h : Started c₀ inputs c) {wait : CoreClient → Except Bytes α}
    {Returns : Prop} (hwait : ∀ core, Recorded inputs core → ((∃ a, wait core = .ok a) ↔ Returns)) :
    wp (await wait) (fun _ _ => True) (fun _ c' => StoppedIn c₀ c') c ↔
      challenges inputs ≠ [] ∨ Returns := by
  obtain ⟨core, hcore, hrecorded⟩ := h.core
  rw [← hwait core hrecorded, await, wp_bind, wp_get, hcore]
  dsimp only
  cases wait core with
  | ok a => exact iff_of_true trivial (.inr ⟨a, rfl⟩)
  | error what => exact h.stoppedIn_iff.trans (by simp)

end Started

/-! ## The two phases -/

theorem waitForSaml_returns_iff {core : CoreClient} (h : Recorded inputs core) :
    (∃ r, core.waitForSaml = .ok r) ↔ challenges inputs ≠ [] ∧ ¬Failed inputs := by
  rw [← h.done, ← h.error, CoreClient.waitForSaml, CoreClient.samlReady]
  cases core.done <;> cases core.error <;> simp

/-- The wait for the connection returns exactly if the core reports it and no failure. -/
theorem waitForConnected_returns_iff {core : CoreClient} (h : Recorded inputs core) :
    (∃ r, core.waitForConnected = .ok r) ↔
      lit "CONNECTED" ∈ eventNames inputs ∧ ¬Failed inputs := by
  rw [← h.tracks.connected, ← h.error, CoreClient.waitForConnected, CoreClient.connectedReady]
  cases core.connected <;> cases core.error <;> simp

/-- Phase 1 stops on failure what it started exactly if it fails before that, or the core names a
    challenge. -/
theorem stopsOnFailure_connectPhase1_iff (c : OpenVPNClient) (env : Phase1Environment) :
    StopsOnFailure c (connectPhase1 settings env c) ↔
      env.file = none ∨ env.evalError.isSome ∨ challenges env.inputs ≠ [] := by
  rw [stopsOnFailure_iff_wp]
  simp only [connectPhase1, wp_bind, wp_modify, wp_get]
  have h := prepared_makeCore c
  cases env.file with
  | none => exact iff_of_true h.stoppedIn (.inl rfl)
  | some content =>
    simp only [readAndFilterConfig, wp_bind, wp_modify]
    cases env.evalError with
    | some message =>
      exact iff_of_true (h.push (by simp) (by simp)).stoppedIn (.inr (.inl rfl))
    | none =>
      simp only [wp_bind, wp_modify, Option.isSome_none, reduceCtorEq, Bool.false_eq_true, false_or]
      refine (Started.wp_await_iff (Started.deliverAll (Prepared.start ?_) settings env.inputs)
        fun core => waitForSaml_returns_iff).trans (or_iff_left_of_imp And.left)
      exact ((h.push (by simp) (by simp)).push (by simp) (by simp)).cout settings _

/-- In direct mode, Phase 2 stops on failure what it started exactly if it fails before that, the
    core names a challenge, or the connection comes up. -/
theorem stopsOnFailure_connectDirect_iff (c : OpenVPNClient) (stateId token remoteIp : Bytes)
    (env : Phase2Environment) :
    StopsOnFailure c (connectDirect settings stateId token remoteIp env c) ↔
      env.file = none ∨ challenges env.inputs ≠ [] ∨
        lit "CONNECTED" ∈ eventNames env.inputs ∧ ¬Failed env.inputs := by
  rw [stopsOnFailure_iff_wp]
  simp only [connectDirect, wp_bind, wp_modify, wp_get]
  have h := prepared_makeCore c
  cases env.file with
  | none => exact iff_of_true h.stoppedIn (.inl rfl)
  | some content =>
    simp only [readAndFilterConfig, wp_bind, wp_modify, reduceCtorEq, false_or]
    refine Started.wp_await_iff (Started.deliverAll (Started.cout (Prepared.start ?_) settings _)
      settings env.inputs) fun core => waitForConnected_returns_iff
    exact ((((h.noteRemoteIp settings remoteIp).push (by simp) (by simp)).cout settings _).cout
      settings _).push (by simp) (by simp)

/-- A failed attempt was stopped exactly in these cases: it failed before the thread
    was started; or a challenge was accepted, which Phase 2 does not expect. Phase 2
    does not fail at all if it is connected before it fails. -/
theorem stopsOnFailure_iff (c : OpenVPNClient) (stateId token remoteIp : Bytes)
    (env₁ : Phase1Environment) (env₂ : Phase2Environment) :
    (StopsOnFailure c (connectPhase1 settings env₁ c) ↔
      env₁.file = none ∨ env₁.evalError.isSome ∨ challenges env₁.inputs ≠ []) ∧
    (StopsOnFailure { c with mode := .direct }
        (connectPhase2 settings stateId token remoteIp env₂ { c with mode := .direct }) ↔
      env₂.file = none ∨ challenges env₂.inputs ≠ [] ∨
        lit "CONNECTED" ∈ eventNames env₂.inputs ∧ ¬Failed env₂.inputs) :=
  ⟨stopsOnFailure_connectPhase1_iff c env₁,
    stopsOnFailure_connectDirect_iff { c with mode := .direct } stateId token remoteIp env₂⟩

/-- A core that is silent until the wait is over, in both phases: the call throws,
    and the connection can still be established. -/
theorem connected_of_silent :
    let settings : Settings := { clock := fun _ => ⟨2024, 1, 1, 0, 0, 0⟩ }
    let c : OpenVPNClient := { configPath := lit "vpn.ovpn", mode := .direct }
    (∃ c', connectPhase1 settings { file := some (lit "client\n"), inputs := [] } c =
        .error (.threw (lit "Timeout waiting for SAML challenge")) c' ∧
      .connect ∈ c'.trace ∧ .stop ∉ c'.trace ∧
      (c'.deliver settings (.event ⟨lit "CONNECTED", []⟩)).core = some { connected := true }) ∧
    ∃ c', connectPhase2 settings (lit "sid") (lit "dG9rZW4=") []
        { file := some (lit "client\n"), inputs := [], dbus := DBusClient.setsUp } c =
        .error (.threw (lit "Timeout waiting for connection")) c' ∧
      .connect ∈ c'.trace ∧ .stop ∉ c'.trace ∧
      (c'.deliver settings (.event ⟨lit "CONNECTED", []⟩)).core = some { connected := true } := by
  refine ⟨⟨_, rfl, ?_, ?_, rfl⟩, ⟨_, rfl, ?_, ?_, rfl⟩⟩ <;> decide +kernel

end OpenVPNClient

end OpenLawsVpn
