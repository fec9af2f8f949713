import OpenLawsVpn.Gui.ConnectTask
import OpenLawsVpn.Handed
import OpenLawsVpn.Phases
import OpenLawsVpn.Saml.Agreement
import OpenLawsVpn.Secrecy

/-!
# The logins of the GUI

The task of a Connect, on the library: what Phase 1 results in passes the C interface, where
a text ends at its first NUL, and becomes a text of the GUI, with the replacement character
for what is no UTF-8. The texts then go back the same way to Phase 2.

A Connect gives the core at most the password that provokes a challenge, and provides the
session with nothing but the answer to its own challenge (`Login.wp_connect`).

* `relayed`: a text on its way through the C interface and back;
* `relayed_eq_self_iff`: which texts are not changed by it;
* `Login.connect`: the task as a program on its client, action by action;
* `Login.capture_eq_ok_iff`: where the token comes from;
* `Login.Answers`: the passwords that answer the challenge of this login, and no other.
-/

namespace OpenLawsVpn

open Wp

/-- What a Connect meets: in both phases, while the browser is used, and from the browser.
    The capture server stops after a timeout. -/
structure Login where
  phase1 : Phase1Environment
  inputs : List OpenVPNClient.Input := []
  bind : Except Text Unit := .ok ()
  requests : List SamlServer.Request
  phase2 : Phase2Environment

/-- `strdup`, which copies up to the NUL. -/
def strdup (s : Bytes) : CString := ⟨cStr s, nul_notMem_cStr s⟩

namespace OpenVPNClient

variable (settings : Settings)

/-- An exception results in null pointers. -/
def nullResult : Stop → ClientM Phase1ResultC
  | .threw _ => pure ⟨none, none, none⟩
  | stop => throw stop

/-- `openvpn_client_connect_phase1`. -/
def openvpnClientConnectPhase1 (env : Phase1Environment) : ClientM Phase1ResultC :=
  tryCatch (do
    let result ← connectPhase1 settings env
    pure ⟨some (strdup result.samlUrl), some (strdup result.stateId),
      some (strdup result.remoteIp)⟩)
    nullResult

end OpenVPNClient

namespace Login

variable (settings : Settings) (decode : Text → Option Text)

/-- An action of the service, on its client. -/
def perform (l : Login) : ServiceAction → ClientM Unit
  | .setConnectMode _ mode => modify ({ · with mode := if mode = 0 then .direct else .dbus })
  | .connectPhase1 _ => do
    let _ ← OpenVPNClient.openvpnClientConnectPhase1 settings l.phase1
  | .openBrowser _ => modify (OpenVPNClient.receiveAll settings l.inputs)
  | .connectPhase2 _ stateId token remoteIp =>
    OpenVPNClient.openvpnClientConnectPhase2 settings (Utf8.encode stateId) (Utf8.encode token)
      (some (Utf8.encode remoteIp)) l.phase2
  | _ => pure ()

/-- The actions of the service, one after the other. -/
def performAll (l : Login) : List ServiceAction → ClientM Unit
  | [] => pure ()
  | a :: actions => do
    l.perform settings a
    performAll l actions

/-- The capture has a result once its time is up. -/
theorem isSome_captureSamlToken (bind : Except Text Unit) (requests : List SamlServer.Request) :
    (SamlServer.captureSamlToken decode bind requests true).isSome := by
  cases bind with
  | error e => rfl
  | ok =>
    rw [SamlServer.captureSamlToken]
    split <;> rfl

/-- What the capture server results in. -/
def capture (l : Login) : Except Text Text :=
  (SamlServer.captureSamlToken decode l.bind l.requests true).get
    (isSome_captureSamlToken decode l.bind l.requests)

/-- `openvpn_client_new`. -/
def newClient (configPath : Text) : OpenVPNClient := { configPath := Utf8.encode configPath }

/-- What Phase 1 results in. -/
def phase1C (configPath : Text) (l : Login) : Phase1ResultC :=
  match OpenVPNClient.openvpnClientConnectPhase1 settings l.phase1 (newClient configPath) with
  | .ok r _ => r
  | .error .. => ⟨none, none, none⟩

/-- What the steps of the Connect result in for the service. -/
def outcome (configPath : Text) (l : Login) : ConnectOutcome :=
  ⟨l.phase1C settings configPath, l.capture decode⟩

/-- The actions of a Connect with the number `id`, on its client. -/
def connect (configPath : Text) (id : ℕ) (l : Login) : ClientM Unit :=
  l.performAll settings ([.new id configPath, .setLogCallback id, .setConnectMode id 1] ++
    Service.attempt id (l.outcome settings decode configPath))

end Login

/-! ## The C interface -/

/-- What is left of a text that passes through the GUI. -/
def relayed (s : Bytes) : Bytes := Utf8.encode (toStringLossy (cStr s))

/-- A byte below 128 is one of the text. -/
theorem mem_of_mem_relayed {s : Bytes} {b : UInt8} (hb : b < 0x80) (h : b ∈ relayed s) :
    b ∈ cStr s := by
  have hvalid : ∀ b : UInt8, b.toNat.isValidChar := fun b => .inl (by have := b.toNat_lt; omega)
  have hlt : (Char.ofNat b.toNat).toNat < 0x80 := by
    rw [Utf8.toNat_ofNat (hvalid b)]
    exact UInt8.lt_iff_toNat_lt.1 hb
  obtain ⟨b', hb', heq⟩ := Utf8.mem_of_mem_decode (show Utf8.State.Sound .start from trivial)
    (Utf8.mem_of_mem_encode hb h) hlt
  have htoNat : b.toNat = b'.toNat := by
    rw [← Utf8.toNat_ofNat (hvalid b), heq, Utf8.toNat_ofNat (hvalid b')]
  exact UInt8.toNat_inj.1 htoNat ▸ hb'

/-- A text that went through the service and back has no NUL byte in it. -/
theorem nul_notMem_relayed (s : Bytes) : 0 ∉ relayed s := fun h =>
  nul_notMem_cStr s (mem_of_mem_relayed (by decide) h)

/-- A text passes as it is exactly if it has no NUL and is UTF-8. -/
theorem relayed_eq_self_iff {s : Bytes} : relayed s = s ↔ 0 ∉ s ∧ (Utf8.decode? s).isSome := by
  have hvalid : (Utf8.decode? s).isSome ↔ Utf8.encode (Utf8.decode .start s) = s := by
    rw [Utf8.decode?]
    split_ifs with h <;> simp [h]
  rw [hvalid]
  constructor
  · intro h
    have hnul : 0 ∉ s := h ▸ nul_notMem_relayed s
    rw [relayed, cStr_eq_self hnul] at h
    exact ⟨hnul, h⟩
  · rintro ⟨hnul, h⟩
    rwa [relayed, cStr_eq_self hnul]

/-! ## The credentials -/

namespace Login

variable {settings : Settings} {decode : Text → Option Text} {configPath : Text} {l : Login}

/-- The password answers the challenge of Phase 1 with what the first request that sends
    something has sent. -/
def Answers (decode : Text → Option Text) (l : Login) (pw : Bytes) : Prop :=
  ∃ result raw, l.phase1.Challenges result ∧
    l.requests.findSome? SamlServer.Request.sent = some raw ∧
    pw = password (relayed result.stateId) (Utf8.encode (SamlServer.normalizeBase64 decode raw))

/-- The token is that of the first request that sends one. -/
theorem capture_eq_ok_iff {token : Text} :
    l.capture decode = .ok token ↔ l.bind = .ok () ∧ ∃ raw,
      l.requests.findSome? SamlServer.Request.sent = some raw ∧
        token = SamlServer.normalizeBase64 decode raw := by
  rw [capture, ← Option.some_inj, Option.some_get]
  cases hbind : l.bind with
  | error e => simp [SamlServer.captureSamlToken]
  | ok =>
    simp only [SamlServer.captureSamlToken, SamlServer.received_foldl_handle]
    cases l.requests.findSome? SamlServer.Request.sent <;> simp [eq_comm]

end Login

namespace OpenVPNClient

variable {settings : Settings} {passwords : List Bytes} {P : Bytes → Prop} {c : OpenVPNClient}

/-- The core was given at most the probe, and the session only what has the property. -/
def Probed (P : Bytes → Prop) (c : OpenVPNClient) : Prop :=
  ∃ passwords, passwords <+: [probe] ∧ c.Handed .dbus passwords P

/-- A challenge of the C interface is one that arrived. -/
theorem wp_openvpnClientConnectPhase1 (h : Handed .dbus [] P c) (env : Phase1Environment) :
    wp (openvpnClientConnectPhase1 settings env)
      (fun r c => c.Probed P ∧ (r.IsChallenge → ∃ result, env.Challenges result ∧
        r.stateId = some (strdup result.stateId)))
      (fun _ c => c.Probed P) c := by
  have hnil : ∀ {c : OpenVPNClient}, c.Handed .dbus [] P → c.Probed P :=
    fun h => ⟨[], List.nil_prefix, h⟩
  have hprobe : ∀ {c : OpenVPNClient}, c.Handed .dbus ([] ++ [probe]) P → c.Probed P :=
    fun h => ⟨[probe], List.prefix_rfl, h⟩
  rw [openvpnClientConnectPhase1, wp_tryCatch, wp_bind]
  refine wp_mono (wp_and (h.wp_connectPhase1 env) (wp_connectPhase1_challenge settings env c))
    (fun result c h => ?_) fun e c h => ?_
  · exact ⟨hprobe h.1, fun _ => ⟨result, h.2, rfl⟩⟩
  · have hprobed : c.Probed P := h.1.elim hnil hprobe
    cases e with
    | threw what => exact ⟨hprobed, fun hchallenge => absurd rfl hchallenge.1⟩
    | _ => exact hprobed

/-- Phase 2 over D-Bus provides the session with the password. -/
theorem wp_openvpnClientConnectPhase2 (h : c.Probed P) {stateId token : Bytes}
    (hP : P (cStr (password stateId token))) (remoteIp : Bytes) (env : Phase2Environment) :
    wp (openvpnClientConnectPhase2 settings stateId token (some remoteIp) env)
      (fun _ c => c.Probed P) (fun _ c => c.Probed P) c := by
  obtain ⟨passwords, hprobe, h⟩ := h
  rw [openvpnClientConnectPhase2, wp_tryCatch]
  refine wp_mono (h.wp_connectPhase2 hP remoteIp env) (fun _ c h => ?_) fun e c h => ?_
  · obtain ⟨hmode, -⟩ | ⟨-, h⟩ := h
    · cases hmode
    · exact ⟨passwords, hprobe, h⟩
  · obtain h | ⟨hmode, -⟩ := h
    · cases e with
      | threw what => exact ⟨passwords, hprobe, h.push rfl⟩
      | _ => exact ⟨passwords, hprobe, h⟩
    · cases hmode

end OpenVPNClient

namespace Login

variable {settings : Settings} {decode : Text → Option Text} {configPath : Text} {l : Login}
  {P : Bytes → Prop} {c : OpenVPNClient}

/-- What is provided is a C string as it is. -/
theorem cStr_password_relayed (stateId : Bytes) {token : Text} (htoken : '\x00' ∉ token) :
    cStr (password (relayed stateId) (Utf8.encode token)) =
      password (relayed stateId) (Utf8.encode token) := by
  have hnul : 0 ∉ Utf8.encode token := fun h => htoken (Utf8.mem_of_mem_encode (by decide) h)
  have hwords : 0 ∉ lit "CRV1::" ∧ 0 ∉ lit "::" := by decide
  refine cStr_eq_self ?_
  simp only [password, List.mem_append, hnul, nul_notMem_relayed, hwords, or_self,
    not_false_eq_true]

/-- The part of a Connect after Phase 1. -/
theorem wp_afterPhase1 (hP : ∀ pw, l.Answers decode pw → P pw) (h : c.Probed P) (id : ℕ)
    {r : Phase1ResultC} (hr : r.IsChallenge → ∃ result, l.phase1.Challenges result ∧
      r.stateId = some (strdup result.stateId)) :
    wp (l.performAll settings (Service.afterPhase1 id ⟨r, l.capture decode⟩))
      (fun _ c => c.Probed P) (fun _ c => c.Probed P) c := by
  -- The browser is opened first; what the core receives meanwhile hands over nothing.
  have hbrowser : (c.receiveAll settings l.inputs).Probed P := by
    obtain ⟨passwords, hprobe, h⟩ := h
    exact ⟨passwords, hprobe, h.receiveAll settings l.inputs⟩
  by_cases hchallenge : r.IsChallenge
  · cases hcapture : l.capture decode with
    | error e =>
      rw [Service.afterPhase1]
      simp only [if_neg (not_or.2 hchallenge), List.cons_append, List.nil_append, performAll,
        perform, wp_bind, wp_modify, wp_pure]
      exact hbrowser
    | ok token =>
      rw [Service.afterPhase1_of_token id hchallenge]
      simp only [performAll, perform, wp_bind, wp_modify, wp_pure]
      by_cases htoken : '\x00' ∈ token
      · rw [if_pos htoken]
        exact hbrowser
      · rw [if_neg htoken]
        obtain ⟨result, hresult, hstateId⟩ := hr hchallenge
        obtain ⟨-, raw, hraw, rfl⟩ := capture_eq_ok_iff.1 hcapture
        refine OpenVPNClient.wp_openvpnClientConnectPhase2 hbrowser ?_ _ l.phase2
        rw [hstateId]
        have hcStr := cStr_password_relayed result.stateId htoken
        exact hcStr.symm ▸ hP _ ⟨result, raw, hresult, hraw, rfl⟩
  · rw [Phase1ResultC.IsChallenge, ← not_or, not_not] at hchallenge
    rw [Service.afterPhase1]
    simp only [if_pos hchallenge]
    exact h

/-- The result of Phase 1 is the one that the service goes on with. -/
theorem wp_connect_of_phase1 {post : Unit → OpenVPNClient → Prop}
    {exn : Stop → OpenVPNClient → Prop} (id : ℕ)
    (h : wp (OpenVPNClient.openvpnClientConnectPhase1 settings l.phase1)
      (fun r c =>
        wp (l.performAll settings (Service.afterPhase1 id ⟨r, l.capture decode⟩)) post exn c)
      exn (newClient configPath)) :
    wp (l.connect settings decode configPath id) post exn (newClient configPath) := by
  rw [connect, outcome, phase1C, Service.attempt]
  simp only [List.cons_append, List.nil_append, performAll, perform, wp_bind, wp_pure, wp_modify]
  change wp (OpenVPNClient.openvpnClientConnectPhase1 settings l.phase1) _ _ (newClient configPath)
  rw [wp] at h ⊢
  cases hrun : OpenVPNClient.openvpnClientConnectPhase1 settings l.phase1
      (newClient configPath) with
  | ok r c => rwa [hrun] at h
  | error e c => rwa [hrun] at h

theorem handed_newClient (configPath : Text) (P : Bytes → Prop) :
    (newClient configPath).Handed .dbus [] P :=
  ⟨rfl, rfl, fun d hd => by cases hd⟩

/-- A login hands its client the probe, and no other password than its answers. -/
theorem wp_connect (hP : ∀ pw, l.Answers decode pw → P pw) (id : ℕ) :
    wp (l.connect settings decode configPath id) (fun _ c => c.Probed P) (fun _ c => c.Probed P)
      (newClient configPath) :=
  wp_connect_of_phase1 id (wp_mono
    (OpenVPNClient.wp_openvpnClientConnectPhase1 (handed_newClient configPath P) l.phase1)
    (fun _ _ h => wp_afterPhase1 hP h.1 id h.2) fun _ _ h => h)

end Login

/-- A login with a token in the usual form. -/
def Login.posted : Login where
  phase1 := {
    file := some (lit "client\n")
    inputs := [.event (CoreClient.challengeEvent CoreClient.loginChallenge.render),
      .event ⟨lit "DISCONNECTED", []⟩] }
  requests := [.get {}, .post { samlResponse := some "aGk=".toList }]
  phase2 := {
    file := none
    inputs := []
    dbus := OpenVPNClient.succeeds }

end OpenLawsVpn
