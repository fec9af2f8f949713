import OpenLawsVpn.Client
import OpenLawsVpn.DBus.Cleanup

/-!
# Sessions of a client

A D-Bus client holds the session that it created until it is disconnected
(`DBusClient.Held`), and afterwards none is left (`DBusClient.Gone`). Phase 1 leaves the
session of a client, and Phase 2 replaces it, or leaves it in direct mode.

* `Held.gone_disconnect`: a Disconnect turns the one into the other, and signals change neither;
* `wp_connect_held`: an attempt, however it ends, leaves at most the session that the client knows;
* `Stable`: a property that a new core client has, and all that the core does keeps. The phases
  keep it by one rule each (`Stable.wp_connectPhase1`, `Stable.wp_connectDirect`,
  `Stable.wp_connectPhase2`), which the modules on whole runs instantiate;
* `stable_inSession`: what is known of the session is such a property.
-/

namespace OpenLawsVpn

open Wp

namespace DBusClient

/-- A session that was created is the one of the client, or was disconnected. -/
def Held (d : DBusClient) : Prop :=
  ∀ p, Created d.trace p → d.sessionPath = p.bytes ∨ Disconnected d.trace p

/-- Every session that was created was disconnected. -/
def Gone (d : DBusClient) : Prop := ∀ p, Created d.trace p → Disconnected d.trace p

/-- The path of the session that an action creates. -/
def createdPath? : DBusAction → Option Bytes
  | .call (.newTunnel _ (.ok p)) => some p.bytes
  | _ => none

/-- The path that an action created is that of a session created. -/
theorem created_of_createdPath? {a : DBusAction} {trace : List DBusAction} {path : Bytes}
    (ha : a ∈ trace) (hpath : createdPath? a = some path) :
    ∃ p, Created trace p ∧ p.bytes = path := by
  unfold createdPath? at hpath
  split at hpath
  · exact ⟨_, ⟨_, ha⟩, Option.some.inj hpath⟩
  · cases hpath

variable {d : DBusClient}

/-- An action that creates no session keeps every session held. -/
theorem Held.push (h : d.Held) {a : DBusAction} (ha : Passive a) : (d.push a).Held := fun p hp =>
  (h p ((created_append ha).1 hp)).imp id (disconnected_append ha).2

/-- An action that creates no session keeps every session disconnected. -/
theorem Gone.push (h : d.Gone) {a : DBusAction} (ha : Passive a) : (d.push a).Gone := fun p hp =>
  (disconnected_append ha).2 (h p ((created_append ha).1 hp))

theorem Held.dispatch (h : d.Held) (clock : ℕ → Stamp) (signals : List Signal) :
    (d.dispatch clock signals).Held :=
  dispatch_induction_of_push (fun _ _ h => h.push trivial) (fun _ _ h => h.push trivial)
    (fun _ h => h) (fun _ _ h => h) signals h

theorem Gone.dispatch (h : d.Gone) (clock : ℕ → Stamp) (signals : List Signal) :
    (d.dispatch clock signals).Gone :=
  dispatch_induction_of_push (fun _ _ h => h.push trivial) (fun _ _ h => h.push trivial)
    (fun _ h => h) (fun _ _ h => h) signals h

/-- A Disconnect creates no session. -/
theorem Created.of_disconnect {p : ObjectPath} {path : Bytes}
    (h : Created (d.push (.call (.disconnect path))).trace p) : Created d.trace p := by
  obtain ⟨config, h⟩ := h
  rw [push_trace, List.mem_append, List.mem_singleton] at h
  exact ⟨config, h.resolve_right (by simp)⟩

/-- To disconnect the client disconnects its session. -/
theorem Held.gone_disconnect (h : d.Held) (env : Environment) :
    (endState (disconnect env d)).Gone := by
  refine endState_of_wp (P := Gone) ?_
  simp only [disconnect, wp_bind, wp_get, wp_ite, wp_pure, wp_modify]
  split_ifs with hpath
  · exact fun p hp => (h p hp).resolve_left fun heq => p.bytes_ne (heq ▸ hpath)
  · have hheld := h.dispatch env.clock env.disconnectSignals
    have hsession : (d.dispatch env.clock env.disconnectSignals).sessionPath = d.sessionPath :=
      sessionPath_dispatch _
    rw [← hsession]
    intro p hp
    rcases hheld p hp.of_disconnect with heq | hd
    · rw [Disconnected, ← heq]
      exact List.mem_append_right _ (List.mem_singleton_self _)
    · exact List.mem_append_left _ hd

theorem Gone.held (h : d.Gone) : d.Held := fun p hp => .inr (h p hp)

/-- An attempt leaves at most the session of the client. -/
theorem wp_connect_held (env : Environment) (configFile stateId token remoteIp : Bytes)
    (level : ℤ) :
    wp (connect env configFile stateId token remoteIp) (fun _ d => d.Held) (fun _ d => d.Held)
      { logLevel := level } := by
  have hnone : NoSession { logLevel := level } :=
    ⟨fun q => by simp [Created], fun q => by simp [Disconnected]⟩
  have hheld : ∀ {d : DBusClient}, (∃ p, Live p d) → d.Held := fun h q hq => by
    obtain ⟨p, h⟩ := h
    exact .inl (h.only q hq ▸ h.path)
  refine wp_mono (phases_session.wp_connect hnone configFile stateId token remoteIp)
    (fun _ _ h => hheld h.1) fun e d h => ?_
  cases h with
  | noProfile _ h => exact fun p hp => absurd hp (h.created p)
  | noSession _ h => exact fun p hp => absurd hp (h.created p)
  | live _ h => exact hheld h
  | waiting _ h => exact hheld h
  | clean _ h =>
    obtain ⟨p, h⟩ := h
    exact fun q hq => .inr (h.only q hq ▸ h.disconnected)

end DBusClient

namespace OpenVPNClient

variable {settings : Settings} {c : OpenVPNClient} {S : DBusClient → Prop}

/-- The session of the client, if there is one, has the property. -/
def InSession (S : DBusClient → Prop) (c : OpenVPNClient) : Prop := ∀ d, c.dbus = some d → S d

/-- The core of Phase 1 has nothing to do with the session. -/
theorem dbus_deliver (input : CoreInput) : (c.deliver settings input).dbus = c.dbus := by
  rw [deliver.eq_def]
  cases c.core <;> rfl

/-- What signals keep of the session is kept by whatever is received. -/
theorem InSession.receive (hS : ∀ d signals, S d → S (d.dispatch settings.clock signals))
    (h : c.InSession S) (input : Input) : (c.receive settings input).InSession S := by
  cases input with
  | core input => exact fun d hd => h d ((dbus_deliver input).symm.trans hd)
  | replaced i input => exact h
  | signal s =>
    intro d hd
    obtain ⟨d', hd', rfl⟩ := Option.map_eq_some_iff.1 hd
    exact hS d' [s] (h d' hd')

theorem InSession.receiveAll (hS : ∀ d signals, S d → S (d.dispatch settings.clock signals))
    (h : c.InSession S) (inputs : List Input) : (c.receiveAll settings inputs).InSession S := by
  induction inputs generalizing c with
  | nil => exact h
  | cons input inputs ih => exact ih (h.receive hS input)

/-- What the call of Disconnect gives of a session is given by `disconnect` of the client. -/
theorem InSession.disconnect {S' : DBusClient → Prop} {env : Environment}
    (hS : ∀ d, S d → S' (endState (DBusClient.disconnect env d))) (h : c.InSession S) :
    (c.disconnect env).InSession S' := by
  have hstop : (if c.core.isSome then c.push .stop else c).InSession S := by
    split_ifs <;> exact h
  rw [OpenVPNClient.disconnect]
  generalize (if c.core.isSome then c.push .stop else c) = c' at hstop ⊢
  cases hdbus : c'.dbus with
  | none =>
    intro d hd
    cases hdbus.symm.trans hd
  | some d =>
    intro d' hd'
    obtain rfl := Option.some_inj.1 hd'
    exact hS d (hstop d hdbus)

/-! ### The phases -/

/-- What is established when a core client is made, and kept by what it does. -/
structure Stable (settings : Settings) (I₀ I : OpenVPNClient → Prop) : Prop where
  makeCore : ∀ {c}, I₀ c → I c.makeCore
  push : ∀ {c}, I c → ∀ a, I (c.push a)
  deliver : ∀ {c}, I c → ∀ input, I (c.deliver settings input)

/-- The session is left as it is. -/
theorem stable_inSession (settings : Settings) (S : DBusClient → Prop) :
    Stable settings (InSession S) (InSession S) where
  makeCore h := h
  push h _ := h
  deliver h input d hd := h d ((dbus_deliver input).symm.trans hd)

namespace Stable

variable {I₀ I : OpenVPNClient → Prop} (hI : Stable settings I₀ I)
include hI

/-- The invariant is kept by the events of the core. -/
theorem deliverAll (h : I c) (inputs : List CoreInput) : I (c.deliverAll settings inputs) := by
  induction inputs generalizing c with
  | nil => exact h
  | cons input inputs ih => exact ih (hI.deliver h input)

/-- Phase 1 keeps the invariant, whether it returns or not. -/
theorem wp_connectPhase1 (h : I₀ c) (env : Phase1Environment) :
    wp (connectPhase1 settings env) (fun _ c => I c) (fun _ c => I c) c := by
  simp only [connectPhase1, wp_bind, wp_modify, wp_get]
  have h := hI.makeCore h
  cases readAndFilterConfig c.makeCore.configPath env.file with
  | error what => exact h
  | ok config =>
    simp only [wp_bind, wp_modify]
    have h := hI.push h (.evalConfig config [])
    cases env.evalError with
    | some message => exact h
    | none =>
      simp only [wp_bind, wp_modify]
      exact wp_await_keeps (hI.deliverAll (hI.push (hI.push (hI.push h _) _) _) env.inputs)

/-- Phase 2 of direct mode keeps the invariant, whether it returns or not. -/
theorem wp_connectDirect (h : I₀ c) (stateId token remoteIp : Bytes) (env : Phase2Environment) :
    wp (connectDirect settings stateId token remoteIp env) (fun _ c => I c) (fun _ c => I c) c := by
  simp only [connectDirect, wp_bind, wp_modify, wp_get]
  have h := hI.makeCore h
  cases readAndFilterConfig c.makeCore.configPath env.file with
  | error what => exact h
  | ok config =>
    simp only [wp_bind, wp_modify]
    have h : I (noteRemoteIp settings remoteIp c.makeCore) := by
      rw [noteRemoteIp]
      split_ifs
      · exact hI.push h _
      · exact h
    have hpush : ∀ {c} (a b d : ClientAction), I c → I (((c.push a).push b).push d) :=
      fun _ _ _ h => hI.push (hI.push (hI.push h _) _) _
    exact wp_await_keeps (hI.deliverAll (hpush _ _ _ (hpush _ _ _ h)) env.inputs)

end Stable

/-- In D-Bus mode, Phase 2 leaves what the D-Bus client leaves. -/
theorem wp_connectDBus_of_wp {I : OpenVPNClient → Prop} (h : I c)
    (hdbus : ∀ {d}, S d → I { c with dbus := some d }) {stateId token remoteIp : Bytes}
    {env : Phase2Environment}
    (hS : ∀ configPath, wp (DBusClient.connect env.dbus configPath stateId token remoteIp)
      (fun _ d => S d) (fun _ d => S d) { logLevel := settings.logLevel }) :
    wp (connectDBus settings stateId token remoteIp env) (fun _ c => I c) (fun _ c => I c) c := by
  rw [connectDBus]
  cases env.bus with
  | error e => exact h
  | ok =>
    simp only [wp_bind, wp_get]
    split
    · rename_i d hd
      exact hdbus (post_of_wp (hS c.configPath) hd)
    · rename_i e d hd
      exact hdbus (exn_of_wp (hS c.configPath) hd)

/-- Both modes. -/
theorem Stable.wp_connectPhase2 {I₀ I : OpenVPNClient → Prop} (hI : Stable settings I₀ I)
    (h₀ : I₀ c) (h : I c) (hdbus : ∀ {d}, S d → I { c with dbus := some d })
    {stateId token remoteIp : Bytes} {env : Phase2Environment}
    (hS : ∀ configPath, wp (DBusClient.connect env.dbus configPath stateId token remoteIp)
      (fun _ d => S d) (fun _ d => S d) { logLevel := settings.logLevel }) :
    wp (connectPhase2 settings stateId token remoteIp env) (fun _ c => I c) (fun _ c => I c) c := by
  rw [connectPhase2, wp_bind, wp_get]
  cases c.mode with
  | direct => exact hI.wp_connectDirect h₀ stateId token remoteIp env
  | dbus => exact wp_connectDBus_of_wp h hdbus hS

/-- A client has the session that was set last. -/
theorem inSession_setDBus {d : DBusClient} (hd : S d) :
    ({ c with dbus := some d } : OpenVPNClient).InSession S := fun d' hd' => by
  rwa [← Option.some_inj.1 hd']

end OpenVPNClient

end OpenLawsVpn
