import OpenLawsVpn.Gui.Login

/-!
# The handshake of the GUI

When a challenge arrives and the browser posts the response of the identity provider, then
the session is provided with the answer that the CLI gives, exactly if nothing is lost on
the way: the challenge ends at no NUL and keeps its bytes as a text (`Crv1.Relays`), and the
base64 is of the standard alphabet, in one line (`Login.provides_iff`).

* `relays_iff`: which challenges pass the C interface and the texts of the GUI unchanged;
* `capture_isText`: what the capture server makes of a text of base64;
* `Login.wp_connect_provides`: the session is provided with the answer of what passed;
* `Login.provides_iff`: the criterion, in both directions.
-/

namespace OpenLawsVpn

open Wp

/-- The challenge passes through the GUI as it is: its URL is not empty for the GUI, and the
    state id is not empty, has no NUL, and is UTF-8. -/
structure Crv1.Relays (m : Crv1) : Prop where
  url : cStr m.text ≠ []
  stateId_ne : m.stateId ≠ []
  nul_notMem : 0 ∉ m.stateId
  isUtf8 : (Utf8.decode? m.stateId).isSome

namespace OpenVPNClient

variable (settings : Settings) {c : OpenVPNClient}

/-- Phase 1 passes the challenge on that arrived last. -/
theorem wp_openvpnClientConnectPhase1_of_provokes (h : Handed .dbus [] (fun _ => False) c)
    {env : Phase1Environment} (hprovokes : env.Provokes) {stateId samlUrl : Bytes}
    (hlast : (challenges env.inputs).getLast? = some (stateId, samlUrl)) :
    wp (openvpnClientConnectPhase1 settings env)
      (fun r c => c.Probed (fun _ => False) ∧ r.samlUrl = some (strdup samlUrl) ∧
        r.stateId = some (strdup stateId))
      (fun _ _ => False) c := by
  rw [openvpnClientConnectPhase1, wp_tryCatch, wp_bind]
  refine wp_mono (wp_and (wp_and (h.wp_connectPhase1 env)
    (wp_connectPhase1_challenge settings env c)) (wp_connectPhase1_returns env))
    (fun result c h => ?_) fun e c h => absurd hprovokes h.2
  obtain ⟨⟨h, hresult⟩, -⟩ := h
  obtain ⟨hstateId, hurl⟩ := Prod.mk.inj (Option.some_inj.1 (hresult.challenge.symm.trans hlast))
  exact ⟨⟨[probe], List.prefix_rfl, h⟩, congrArg (some ∘ strdup) hurl,
    congrArg (some ∘ strdup) hstateId⟩

/-- The session is provided with the password, and nothing else. -/
def Provides (pw : Bytes) (c : OpenVPNClient) : Prop :=
  ∃ d, c.dbus = some d ∧ pw ∈ provided d.trace ∧ ∀ v ∈ provided d.trace, v = pw

/-- Phase 2 provides the session with the password, once the session appears. -/
theorem wp_openvpnClientConnectPhase2_provides (hmode : c.mode = .dbus) {env : Phase2Environment}
    (hbus : env.bus = .ok ()) (happears : DBusClient.Appears env.dbus) (stateId token : Bytes)
    (remoteIp : Option Bytes) :
    wp (openvpnClientConnectPhase2 settings stateId token remoteIp env)
      (fun _ c => c.Provides (cStr (password stateId token)))
      (fun _ c => c.Provides (cStr (password stateId token))) c := by
  have hprovides := wp_and (DBusClient.wp_connect_provides (c := { logLevel := settings.logLevel })
      happears c.configPath stateId token (remoteIp.getD []))
    (DBusClient.wp_connect_provided env.dbus c.configPath stateId token (remoteIp.getD []) rfl)
  rw [openvpnClientConnectPhase2, wp_tryCatch, connectPhase2, wp_bind, wp_get, hmode]
  dsimp only
  rw [connectDBus, hbus]
  simp only [wp_bind, wp_get]
  split
  · rename_i d hd
    obtain ⟨hmem, hall⟩ := post_of_wp hprovides hd
    exact ⟨d, rfl, hmem, hall⟩
  · rename_i e d hd
    obtain ⟨hmem, hall⟩ := exn_of_wp hprovides hd
    cases e <;> exact ⟨d, rfl, hmem, hall⟩

end OpenVPNClient

namespace Login

variable (settings : Settings) {decode : Text → Option Text} (configPath : Text) (k : ℕ) {l : Login}

variable {d t stateId samlUrl : Bytes}

/-- The challenge and the token pass through the GUI, and Phase 2 provides the session with
    the answer that is made of them. -/
theorem wp_connect_provides {token : Text} (hphase1 : l.phase1.Provokes)
    (hlast : (challenges l.phase1.inputs).getLast? = some (stateId, samlUrl))
    (hurl : cStr samlUrl ≠ []) (hstateId : cStr stateId ≠ [])
    (hcapture : l.capture decode = .ok token) (htoken : '\x00' ∉ token)
    (hbus : l.phase2.bus = .ok ()) (happears : DBusClient.Appears l.phase2.dbus) :
    wp (l.connect settings decode configPath k)
      (fun _ c => c.Provides (password (relayed stateId) (Utf8.encode token)))
      (fun _ c => c.Provides (password (relayed stateId) (Utf8.encode token)))
      (newClient configPath) := by
  refine wp_connect_of_phase1 k (wp_mono
    (OpenVPNClient.wp_openvpnClientConnectPhase1_of_provokes settings
      (handed_newClient configPath _) hphase1 hlast) (fun r c h => ?_) fun _ _ h => h.elim)
  obtain ⟨⟨passwords, -, h⟩, hsamlUrl, hid⟩ := h
  have hchallenge : r.IsChallenge := by
    rw [Phase1ResultC.IsChallenge, hsamlUrl, hid]
    exact ⟨Utf8.decode_eq_nil_iff.not.2 hurl, Utf8.decode_eq_nil_iff.not.2 hstateId⟩
  rw [hcapture, Service.afterPhase1_of_token k hchallenge, if_neg htoken]
  simp only [performAll, perform, wp_bind, wp_modify, wp_pure]
  have hmode : (c.receiveAll settings l.inputs).mode = .dbus :=
    (h.receiveAll settings l.inputs).mode_eq
  have hprovides := OpenVPNClient.wp_openvpnClientConnectPhase2_provides settings hmode hbus
    happears (relayed stateId) (Utf8.encode token)
    (some (Utf8.encode (Service.phase1Text r.remoteIp)))
  rw [cStr_password_relayed stateId htoken] at hprovides
  rw [hid]
  exact hprovides

/-- The GUI takes a challenge without a URL or a state id for a failure. -/
theorem wp_connect_of_not_challenge (hphase1 : l.phase1.Provokes)
    (hlast : (challenges l.phase1.inputs).getLast? = some (stateId, samlUrl))
    (hempty : cStr samlUrl = [] ∨ cStr stateId = []) :
    wp (l.connect settings decode configPath k) (fun _ c => c.Probed fun _ => False)
      (fun _ c => c.Probed fun _ => False) (newClient configPath) := by
  refine wp_connect_of_phase1 k (wp_mono
    (OpenVPNClient.wp_openvpnClientConnectPhase1_of_provokes settings
      (handed_newClient configPath _) hphase1 hlast) (fun r c h => ?_) fun _ _ h => h.elim)
  obtain ⟨h, hsamlUrl, hid⟩ := h
  have hnot : Service.phase1Text r.samlUrl = [] ∨ Service.phase1Text r.stateId = [] := by
    rw [hsamlUrl, hid]
    exact hempty.imp Utf8.decode_eq_nil_iff.2 Utf8.decode_eq_nil_iff.2
  rw [Service.afterPhase1]
  simp only [if_pos hnot]
  exact h

/-- A challenge passes as it is exactly if the GUI takes it for one, and its state id is
    relayed as it is. -/
theorem relays_iff {m : Crv1} (hurl : cStr m.text ≠ []) (hstateId : cStr m.stateId ≠ []) :
    m.Relays ↔ relayed m.stateId = m.stateId := by
  rw [relayed_eq_self_iff]
  constructor
  · exact fun h => ⟨h.nul_notMem, h.isUtf8⟩
  · rintro ⟨hnul, hutf8⟩
    rw [cStr_eq_self hnul] at hstateId
    exact ⟨hurl, hstateId, hnul, hutf8⟩

/-- What the capture server makes of a text of base64: it is padded, and as it is otherwise. -/
theorem capture_isText (hdecode : ∀ s, '%' ∉ s → decode s = some s) (hbind : l.bind = .ok ())
    (hsent : l.requests.findSome? SamlServer.Request.sent = some (toStringLossy t))
    (ht : Base64.IsText d t) :
    ∃ token, l.capture decode = .ok token ∧ '\x00' ∉ token ∧
      Utf8.encode token = t ++ Base64.padding t.length := by
  have hascii : ∀ b ∈ t ++ Base64.padding t.length, b < 0x80 ∧ b ≠ 0 := by
    intro b hb
    rcases List.mem_append.1 hb with hb | hb
    · have := ht.mem hb
      grind [Base64.isStandard]
    · rw [Base64.eq_of_mem_padding hb]
      decide
  have htoken : SamlServer.normalizeBase64 decode (toStringLossy t) =
      toStringLossy (t ++ Base64.padding t.length) := by
    rw [SamlServer.normalizeBase64_isText hdecode ht,
      toStringLossy_ascii fun b hb => (hascii b hb).1]
  refine ⟨toStringLossy (t ++ Base64.padding t.length),
    capture_eq_ok_iff.2 ⟨hbind, _, hsent, htoken.symm⟩, ?_, ?_⟩
  · exact Service.nul_notMem_phase1Text (some ⟨_, fun h => (hascii 0 h).2 rfl⟩)
  · exact Utf8.encode_decode_ascii fun b hb => (hascii b hb).1

/-- When the challenge `m` arrives last, the browser posts the response `d` in a text of base64,
    and the session appears, then the session is provided with the answer that the CLI gives,
    exactly if `m` passes through the GUI as it is, and the text has no line end and no symbol
    of the URL-safe alphabet. -/
theorem provides_iff (hdecode : ∀ s, '%' ∉ s → decode s = some s) {m : Crv1}
    (hphase1 : l.phase1.Provokes)
    (hlast : (challenges l.phase1.inputs).getLast? = some (m.stateId, m.text))
    (hbind : l.bind = .ok ())
    (hsent : l.requests.findSome? SamlServer.Request.sent = some (toStringLossy t))
    (ht : Base64.IsText d t) (hbus : l.phase2.bus = .ok ())
    (happears : DBusClient.Appears l.phase2.dbus) :
    (∃ session, (endState (l.connect settings decode configPath k (newClient configPath))).dbus =
        some session ∧ password m.stateId (Base64.encode {} d) ∈ provided session.trace) ↔
      m.Relays ∧ ∀ b ∈ t, b ≠ 13 ∧ b ≠ 10 ∧ b ≠ 45 ∧ b ≠ 95 := by
  by_cases hempty : cStr m.text = [] ∨ cStr m.stateId = []
  · obtain ⟨passwords, -, h⟩ := endState_of_wp
      (P := fun c : OpenVPNClient => c.Probed fun _ => False)
      (wp_connect_of_not_challenge settings configPath k hphase1 hlast hempty)
    refine iff_of_false ?_ ?_
    · rintro ⟨session, hsession, hmem⟩
      exact (h.provided_of session hsession).2 _ hmem
    · rintro ⟨⟨hurl, hne, hnul, -⟩, -⟩
      rw [cStr_eq_self hnul] at hempty
      exact hempty.elim hurl hne
  · obtain ⟨hurl, hstateId⟩ := not_or.1 hempty
    obtain ⟨token, hcapture, hnul, hbytes⟩ := capture_isText hdecode hbind hsent ht
    obtain ⟨session, hsession, hmem, hall⟩ := endState_of_wp (wp_connect_provides settings
      configPath k hphase1 hlast hurl hstateId hcapture hnul hbus happears)
    rw [hbytes] at hmem hall
    have hcolon : ':'.toUInt8 ∉ relayed m.stateId := fun h =>
      m.colon_notMem_stateId ((List.takeWhile_prefix _).subset (mem_of_mem_relayed (by decide) h))
    rw [relays_iff hurl hstateId, ← ht.append_padding_iff]
    constructor
    · rintro ⟨session', hsession', hmem'⟩
      obtain rfl := Option.some.inj (hsession.symm.trans hsession')
      -- The server gets both parts of the answer back.
      have heq := congrArg receivePassword (hall _ hmem')
      rw [receivePassword_password hcolon, receivePassword_password m.colon_notMem_stateId] at heq
      obtain ⟨hid, htext⟩ := Prod.mk.inj (Option.some.inj heq)
      exact ⟨hid.symm, htext.symm⟩
    · rintro ⟨hid, htext⟩
      rw [hid, htext] at hmem
      exact ⟨session, hsession, hmem⟩

/-- The core of the login names a challenge and does not fail. -/
theorem provokes_posted : posted.phase1.Provokes where
  file := rfl
  accepted := rfl
  challenged := by decide
  notFailed := fun h => by
    obtain ⟨name, hname, -⟩ := failed_iff_firstVerdict.1 h
    have hnone : firstVerdict posted.phase1.inputs = none := by decide
    cases hnone.symm.trans hname

/-- The session object is there from the first poll. -/
theorem appears_succeeds : DBusClient.Appears OpenVPNClient.succeeds :=
  ⟨⟨rfl, ⟨_, 0, by decide, fun i hi => absurd hi (Nat.not_lt_zero i), rfl⟩,
    ⟨_, 0, by decide, fun i hi => absurd hi (Nat.not_lt_zero i), rfl⟩⟩, 0, by decide, rfl⟩

theorem provides_iff_posted :
    ∃ session, (endState (posted.connect { clock := fun _ => ⟨2024, 1, 1, 0, 0, 0⟩ } some
        "work.ovpn".toList 0 (newClient "work.ovpn".toList))).dbus = some session ∧
      password (lit "sid") (lit "aGk=") ∈ provided session.trace :=
  (provides_iff (d := lit "hi") (t := lit "aGk=") _ _ 0 (fun _ _ => rfl)
    (m := CoreClient.loginChallenge) provokes_posted (by decide) rfl (by decide) ⟨{}, by decide⟩ rfl
    appears_succeeds).2 ⟨⟨by decide, by decide, by decide, by decide⟩, by decide⟩

end Login

end OpenLawsVpn
