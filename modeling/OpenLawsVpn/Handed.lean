import OpenLawsVpn.Password

/-!
# Who is given passwords

Phase 1 gives the core the password that provokes a challenge. Phase 2 gives the core the
answer in direct mode, and provides the session with it in D-Bus mode; nothing else that
happens to a client hands a password over (`OpenVPNClient.Handed`).

* `Handed mode passwords P c`: the client `c` in a mode has given the core these passwords, and
  its session was provided with nothing but what has the property `P`;
* `Handed.receiveAll`, `Handed.disconnect`: what arrives, and a release, hand nothing over;
* `Handed.wp_connectPhase1`, `Handed.wp_connectPhase2`: what each phase adds to the account.
-/

namespace OpenLawsVpn

open Wp

/-- The password that provokes a challenge. -/
def probe : Bytes := lit "ACS::35001"

namespace DBusClient

variable {P : Bytes → Prop} {d : DBusClient}

/-- An action that provides no password keeps what is known of those provided. -/
theorem forall_provided_push {a : DBusAction} (ha : a.password? = none)
    (h : ∀ v ∈ provided d.trace, P v) : ∀ v ∈ provided (d.push a).trace, P v := fun v hv => by
  rw [provided, push_trace, List.filterMap_append, List.filterMap_cons_none ha, List.filterMap_nil,
    List.append_nil] at hv
  exact h v hv

/-- Signals of the session provide nothing. -/
theorem forall_provided_dispatch (clock : ℕ → Stamp) (signals : List Signal)
    (h : ∀ v ∈ provided d.trace, P v) : ∀ v ∈ provided (d.dispatch clock signals).trace, P v :=
  dispatch_induction_of_push (P := fun d => ∀ v ∈ provided d.trace, P v)
    (fun _ _ => forall_provided_push rfl) (fun _ _ => forall_provided_push rfl) (fun _ h => h)
    (fun _ _ h => h) signals h

end DBusClient

namespace OpenVPNClient

/-- The core was given the passwords, and the session only what has the property. -/
structure Handed (mode : ConnectMode) (passwords : List Bytes) (P : Bytes → Prop)
    (c : OpenVPNClient) : Prop where
  mode_eq : c.mode = mode
  given_eq : given c.trace = passwords
  provided_of : ∀ d, c.dbus = some d → mode = .dbus ∧ ∀ v ∈ provided d.trace, P v

variable {settings : Settings} {mode : ConnectMode} {passwords : List Bytes} {P : Bytes → Prop}
  {c : OpenVPNClient}

namespace Handed

variable (h : Handed mode passwords P c)
include h

/-- An action that gives no password keeps the account of those given. -/
theorem push {a : ClientAction} (ha : a.password? = none) : Handed mode passwords P (c.push a) where
  mode_eq := h.mode_eq
  given_eq := by
    rw [OpenVPNClient.push, OpenLawsVpn.given, List.filterMap_append, List.filterMap_cons_none ha]
    exact (List.append_nil _).trans h.given_eq
  provided_of := h.provided_of

/-- A password given to the core is added to the account. -/
theorem pushPassword (user pw : Bytes) :
    Handed mode (passwords ++ [pw]) P (c.push (.provideCreds user pw)) where
  mode_eq := h.mode_eq
  given_eq := by
    rw [OpenVPNClient.push, OpenLawsVpn.given, List.filterMap_append]
    exact congrArg (· ++ [pw]) h.given_eq
  provided_of := h.provided_of

theorem makeCore : Handed mode passwords P c.makeCore := ⟨h.mode_eq, h.given_eq, h.provided_of⟩

variable (settings)

theorem cout (text : Bytes) : Handed mode passwords P (c.cout settings text) := h.push rfl

theorem noteRemoteIp (remoteIp : Bytes) :
    Handed mode passwords P (noteRemoteIp settings remoteIp c) := by
  rw [OpenVPNClient.noteRemoteIp]
  split_ifs
  · exact h.cout settings _
  · exact h

/-- The events of the core give it no password. -/
theorem deliver (input : CoreInput) : Handed mode passwords P (c.deliver settings input) where
  mode_eq := by
    rw [deliver.eq_def]
    cases c.core <;> exact h.mode_eq
  given_eq := (filterMap_trace_deliver CoreAction.password?_toClient input c).trans h.given_eq
  provided_of := by
    rw [deliver.eq_def]
    cases c.core <;> exact h.provided_of

theorem deliverAll (inputs : List CoreInput) :
    Handed mode passwords P (c.deliverAll settings inputs) := by
  rw [OpenVPNClient.deliverAll]
  induction inputs generalizing c with
  | nil => exact h
  | cons input inputs ih => exact ih (h.deliver settings input)

/-- Signals of the session provide nothing. -/
theorem receive (input : Input) : Handed mode passwords P (c.receive settings input) := by
  cases input with
  | core input => exact h.deliver settings input
  | replaced i input =>
    refine ⟨h.mode_eq, ?_, h.provided_of⟩
    -- A core only tells of what it receives.
    have hnone : ∀ core : CoreClient,
        ((core.handle settings (settings.clock c.trace.length) input).2.map
          CoreAction.toClient).filterMap ClientAction.password? = [] := fun core => by
      rw [List.filterMap_eq_nil_iff]
      intro a ha
      obtain ⟨b, -, rfl⟩ := List.mem_map.1 ha
      exact b.password?_toClient
    rw [OpenVPNClient.receive, OpenLawsVpn.given, List.filterMap_append]
    cases c.replaced[i]? with
    | none => exact (List.append_nil _).trans h.given_eq
    | some core =>
      simp only [Option.toList_some, List.flatMap_cons, List.flatMap_nil, List.append_nil, hnone]
      exact h.given_eq
  | signal s =>
    refine ⟨h.mode_eq, h.given_eq, fun d' hd' => ?_⟩
    obtain ⟨d, hd, rfl⟩ := Option.map_eq_some_iff.1 hd'
    obtain ⟨hmode, hd⟩ := h.provided_of d hd
    refine ⟨hmode, ?_⟩
    exact DBusClient.forall_provided_dispatch _ [s] hd

/-- To disconnect provides nothing. -/
theorem disconnect (env : Environment) : Handed mode passwords P (c.disconnect env) := by
  have hstop : Handed mode passwords P (if c.core.isSome then c.push .stop else c) := by
    split_ifs
    · exact h.push rfl
    · exact h
  rw [OpenVPNClient.disconnect]
  generalize (if c.core.isSome then c.push .stop else c) = c' at hstop ⊢
  cases hdbus : c'.dbus with
  | none => exact hstop
  | some d =>
    refine ⟨hstop.mode_eq, hstop.given_eq, fun d' hd' => ?_⟩
    obtain rfl := Option.some_inj.1 hd'
    obtain ⟨hmode, hd⟩ := hstop.provided_of d hdbus
    refine ⟨hmode, endState_of_wp (P := fun d : DBusClient => ∀ v ∈ provided d.trace, P v) ?_⟩
    simp only [DBusClient.disconnect, wp_bind, wp_get, wp_ite, wp_pure, wp_modify]
    split_ifs
    · exact hd
    · exact DBusClient.forall_provided_push rfl (DBusClient.forall_provided_dispatch _ _ hd)

theorem receiveAll (inputs : List Input) :
    Handed mode passwords P (c.receiveAll settings inputs) := by
  rw [OpenVPNClient.receiveAll]
  induction inputs generalizing c with
  | nil => exact h
  | cons input inputs ih => exact ih (h.receive settings input)

/-! ### The phases -/

variable {settings}

/-- A Phase 1 that returns gave the probe; one that fails gave it or nothing. -/
theorem wp_connectPhase1 (env : Phase1Environment) :
    wp (connectPhase1 settings env) (fun _ c => Handed mode (passwords ++ [probe]) P c)
      (fun _ c => Handed mode passwords P c ∨ Handed mode (passwords ++ [probe]) P c) c := by
  simp only [connectPhase1, wp_bind, wp_modify, wp_get]
  have h := h.makeCore
  cases readAndFilterConfig c.makeCore.configPath env.file with
  | error what => exact .inl h
  | ok config =>
    simp only [wp_bind, wp_modify]
    have h := h.push (a := .evalConfig config []) rfl
    cases env.evalError with
    | some message => exact .inl h
    | none =>
      simp only [wp_bind, wp_modify]
      have h := (h.pushPassword (lit "N/A") probe).cout settings
        (lit " Starting Phase 1 connect...")
      have h := (h.push (a := .connect) rfl).deliverAll settings env.inputs
      exact wp_mono (wp_await_keeps h) (fun _ _ h => h) fun _ _ h => .inr h

/-- In direct mode, the core is given the password, unless the profile is not read. -/
theorem wp_connectDirect (stateId token remoteIp : Bytes) (env : Phase2Environment) :
    wp (connectDirect settings stateId token remoteIp env)
      (fun _ c => Handed mode (passwords ++ [password stateId token]) P c)
      (fun _ c => Handed mode passwords P c ∨
        Handed mode (passwords ++ [password stateId token]) P c) c := by
  simp only [connectDirect, wp_bind, wp_modify, wp_get]
  have h := h.makeCore
  cases readAndFilterConfig c.makeCore.configPath env.file with
  | error what => exact .inl h
  | ok config =>
    simp only [wp_bind, wp_modify]
    have h := (h.noteRemoteIp settings remoteIp).push
      (a := .evalConfig config remoteIp) rfl
    have h := (h.cout settings (lit " Total password length: " ++
      decimal (password stateId token).length)).cout settings
      (lit " SAML token length: " ++ decimal token.length)
    have h := (h.pushPassword (lit "N/A") (password stateId token)).push (a := .connect) rfl
    have h := (h.cout settings (lit " connect_phase2 thread started")).deliverAll settings
      env.inputs
    exact wp_mono (wp_await_keeps h) (fun _ _ h => h) fun _ _ h => .inr h

/-- In D-Bus mode, the session is provided with the password, and the core is not. -/
theorem wp_connectDBus (hmode : mode = .dbus) {stateId token : Bytes}
    (hP : P (cStr (password stateId token))) (remoteIp : Bytes) (env : Phase2Environment) :
    wp (connectDBus settings stateId token remoteIp env) (fun _ c => Handed mode passwords P c)
      (fun _ c => Handed mode passwords P c) c := by
  rw [connectDBus]
  cases env.bus with
  | error e => exact h
  | ok =>
    simp only [wp_bind, wp_get]
    have hprovided := DBusClient.wp_connect_provided (c := { logLevel := settings.logLevel })
      env.dbus c.configPath stateId token remoteIp rfl
    have hhanded : ∀ d : DBusClient,
        (∀ v ∈ OpenLawsVpn.provided d.trace, v = cStr (password stateId token)) →
        Handed mode passwords P { c with dbus := some d } := fun d hd =>
      ⟨h.mode_eq, h.given_eq, fun d' hd' => ⟨hmode, fun v hv => by
        obtain rfl := Option.some_inj.1 hd'
        rw [hd v hv]
        exact hP⟩⟩
    split
    · rename_i d hd
      exact hhanded d (post_of_wp hprovided hd)
    · rename_i e d hd
      exact hhanded d (exn_of_wp hprovided hd)

/-- The mode decides who gets the password. -/
theorem wp_connectPhase2 {stateId token : Bytes} (hP : P (cStr (password stateId token)))
    (remoteIp : Bytes) (env : Phase2Environment) :
    wp (connectPhase2 settings stateId token remoteIp env)
      (fun _ c => mode = .direct ∧ Handed mode (passwords ++ [password stateId token]) P c ∨
        mode = .dbus ∧ Handed mode passwords P c)
      (fun _ c => Handed mode passwords P c ∨
        mode = .direct ∧ Handed mode (passwords ++ [password stateId token]) P c) c := by
  rw [connectPhase2, wp_bind, wp_get, h.mode_eq]
  cases mode with
  | direct =>
    exact wp_mono (h.wp_connectDirect stateId token remoteIp env) (fun _ _ h => .inl ⟨rfl, h⟩)
      fun _ _ h => h.imp_right fun h => ⟨rfl, h⟩
  | dbus =>
    exact wp_mono (h.wp_connectDBus rfl hP remoteIp env) (fun _ _ h => .inr ⟨rfl, h⟩)
      fun _ _ h => .inl h

end Handed

end OpenVPNClient

end OpenLawsVpn
