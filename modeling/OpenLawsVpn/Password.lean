import OpenLawsVpn.Client
import OpenLawsVpn.Core.Challenge
import OpenLawsVpn.DBus.Steps
import OpenLawsVpn.Lib.Utf8
import OpenLawsVpn.Saml.Token

/-!
# The password of Phase 2

The answer to the challenge is the password of Phase 2: `CRV1::`, the state id,
`::` and the token. In direct mode it is given to the core, in D-Bus mode it is
provided to the session as a C string, of which `g_variant_new` makes a string of the bus.

Both modes hand over the same text if the state id is UTF-8: neither the state id nor the
token has a NUL, and a token is ASCII. And the receiver gets both back by cutting at the
first `::`, since a state id has no colon (`password_carries`). A state id in another
encoding gets to the core only (`password_not_sent`).

* `password`: the answer to a challenge, and `given`, `provided`: the passwords that a trace gives
  to the core, and provides to a session;
* `sent`: what the bus is sent of the values provided, for any `g_variant_new`;
* `password_carries`: what both modes hand over, and that the receiver gets the state id and the
  token back from it;
* `password_not_sent`: a state id in Latin-1, of which nothing is sent.
-/

namespace OpenLawsVpn

open Wp

/-- The password of Phase 2. -/
def password (stateId token : Bytes) : Bytes := lit "CRV1::" ++ stateId ++ lit "::" ++ token

/-- What a receiver makes of the password: the part up to the first `::` after
    `CRV1::`, and the part after it. -/
def receivePassword (s : Bytes) : Option (Bytes × Bytes) :=
  if lit "CRV1::" <+: s then
    (Search.find (lit "::") (s.drop 6)).map fun i => ((s.drop 6).take i, (s.drop 6).drop (i + 2))
  else none

/-- The state id ends at the first `::`. -/
theorem receivePassword_password {stateId : Bytes} (h : ':'.toUInt8 ∉ stateId) (token : Bytes) :
    receivePassword (password stateId token) = some (stateId, token) := by
  have hdrop : (password stateId token).drop 6 = stateId ++ (lit "::" ++ token) := by
    rw [password, List.append_assoc, List.append_assoc]
    rfl
  have hfind : Search.find (lit "::") (stateId ++ (lit "::" ++ token)) = some stateId.length := by
    rw [Search.find_skip, Search.find_of_prefix (List.prefix_append _ _)]
    · simp
    · rintro s hs hne ⟨r, hr⟩
      obtain ⟨b, s, rfl⟩ := List.exists_cons_of_ne_nil hne
      exact h ((List.cons.inj hr).1 ▸ hs.subset List.mem_cons_self)
  have hpre : lit "CRV1::" <+: password stateId token := by
    rw [password, List.append_assoc, List.append_assoc]
    exact List.prefix_append _ _
  rw [receivePassword, if_pos hpre, hdrop, hfind, Option.map_some, List.take_left,
    ← List.drop_drop, List.drop_left]
  rfl

/-- A password without NULs is the same as a C string. -/
theorem cStr_password {stateId : Bytes} (h : 0 ∉ stateId) (raw : Bytes) :
    cStr (password stateId (normalizeBase64 raw)) = password stateId (normalizeBase64 raw) := by
  have htoken : 0 ∉ normalizeBase64 raw := fun hmem =>
    absurd (mem_normalizeBase64 hmem) (by decide)
  apply cStr_eq_self
  simp only [password, List.mem_append, not_or]
  exact ⟨⟨⟨by decide, h⟩, by decide⟩, htoken⟩

/-- A password is UTF-8 if the state id is: the rest of it is ASCII. -/
theorem isSome_decode?_password {stateId : Bytes} (h : (Utf8.decode? stateId).isSome)
    (raw : Bytes) : (Utf8.decode? (password stateId (normalizeBase64 raw))).isSome := by
  have htoken : ∀ b ∈ normalizeBase64 raw, b < 0x80 := fun b hb => by
    rcases mem_normalizeBase64 hb with hstandard | rfl
    · exact Base64.lt_of_isStandard hstandard
    · decide
  have hwords : (Utf8.decode? (lit "CRV1::")).isSome ∧ (Utf8.decode? (lit "::")).isSome := by decide
  exact Utf8.isSome_decode?_append
    (Utf8.isSome_decode?_append (Utf8.isSome_decode?_append hwords.1 h) hwords.2)
    (Utf8.isSome_decode?_ascii htoken)

/-! ## Direct mode -/

/-- The password that an action gives to the core. -/
def ClientAction.password? : ClientAction → Option Bytes
  | .provideCreds _ password => some password
  | _ => none

theorem CoreAction.password?_toClient (a : CoreAction) : a.toClient.password? = none := by
  cases a <;> rfl

/-- The passwords given to the core. -/
def given (trace : List ClientAction) : List Bytes := trace.filterMap ClientAction.password?

namespace OpenVPNClient

variable {settings : Settings} {c : OpenVPNClient}

/-- The password is given to the core once, if the profile can be read. -/
theorem wp_connectDirect_given (stateId token remoteIp : Bytes) (env : Phase2Environment) :
    let after := given c.trace ++ if env.file.isSome then [password stateId token] else []
    wp (connectDirect settings stateId token remoteIp env) (fun _ c' => given c'.trace = after)
      (fun _ c' => given c'.trace = after) c := by
  intro after
  simp only [connectDirect, wp_bind, wp_modify, wp_get]
  cases hfile : env.file with
  | none =>
    have hafter : after = given c.trace := by simp [after, hfile]
    rw [hafter]
    rfl
  | some content =>
    have hafter : after = given c.trace ++ [password stateId token] := by simp [after, hfile]
    simp only [readAndFilterConfig, wp_bind, wp_modify]
    refine wp_await_keeps (P := fun c' => given c'.trace = after) ?_
    rw [given, filterMap_trace_deliverAll CoreAction.password?_toClient, hafter]
    -- Of the actions before, only one gives a password.
    simp only [cout, push, List.filterMap_append, makeCore,
      filterMap_trace_noteRemoteIp CoreAction.password?_toClient]
    change given c.trace ++ [] ++ [] ++ [] ++ [password stateId token] ++ [] ++ [] = _
    simp only [List.append_nil]

end OpenVPNClient

/-! ## D-Bus mode -/

/-- The password that an action provides to the session: type 1, group 1, id 1. -/
def DBusAction.password? : DBusAction → Option Bytes
  | .call (.userInputProvide _ type group id value _) =>
    if type = 1 ∧ group = 1 ∧ id = 1 then some value else none
  | _ => none

/-- The passwords provided to the session, as the C strings given to `g_variant_new`. -/
def provided (trace : List DBusAction) : List Bytes := trace.filterMap DBusAction.password?

/-- What the session is sent for them: a string of the bus for each, if `newString` makes one
    of the C string. -/
def sent (newString : Bytes → Option Bytes) (trace : List DBusAction) : List (Option Bytes) :=
  (provided trace).map newString

/-- `g_variant_new_string`, which makes a string of a text in UTF-8 only. -/
def gVariantNewString (s : Bytes) : Option Bytes := if (Utf8.decode? s).isSome then some s else none

namespace DBusClient

variable {env : Environment} {content pw : Bytes} {c : DBusClient}

/-- Whatever is provided is the password, as a C string. -/
theorem steady_provided : Steady env content pw fun c => ∀ v ∈ provided c.trace, v = cStr pw := by
  refine steady_filterMap (fun k hk v hv => ?_) fun a ha => ?_
  · cases hk with
    | password session loop => exact (Option.mem_some_iff.1 hv).symm
    | _ => cases hv
  · cases a with
    | call k => exact absurd rfl (ha k)
    | _ => rfl

/-- The password is among those provided after the call that provides it. -/
theorem mem_provided_push (pw session : Bytes) (reply : Except GError Unit) (c : DBusClient) :
    cStr pw ∈ provided (c.push (.call (.userInputProvide session 1 1 1 (cStr pw) reply))).trace := by
  simp [provided, DBusAction.password?]

/-- Before it is asked whether the session is ready, the password is provided. -/
theorem wp_awaitReady_provides (env : Environment) (pw : Bytes) :
    wp (awaitReady env pw) (fun _ c => cStr pw ∈ provided c.trace)
      (fun _ c => cStr pw ∈ provided c.trace) c := by
  have hkept : Steady env [] pw fun c => cStr pw ∈ provided c.trace := steady_mem_filterMap _ _
  rw [awaitReady, wp_bind]
  -- After the first attempt, the password stays provided.
  refine wp_attempts (fun i _ c => i = 0 ∨ cStr pw ∈ provided c.trace) (fun i _ c _ _ => ?_)
    (fun _ c h => ?_) (.inl rfl)
  swap
  · have hmem : cStr pw ∈ provided c.trace := h.resolve_left (by decide)
    exact hmem
  rw [wp_bind]
  refine wp_mono ((steady_true env [] pw).wp_provideCredential (.username · i) trivial)
    (fun _ c _ => ?_) fun _ _ h => h.elim
  have hprovide : wp (provideCredential env i 1 1 1 (cStr pw))
      (fun _ c => cStr pw ∈ provided c.trace) (fun _ _ => False) c := by
    simp only [provideCredential, wp_bind, wp_modify, wp_get]
    have hcall := fun session => mem_provided_push pw session (env.userInputProvide i 1)
    generalize env.userInputProvide i 1 = reply at hcall ⊢
    cases reply with
    | ok => exact hcall _ _
    | error e => exact hkept.cout (hcall _ _) 2 _
  rw [wp_bind]
  refine wp_mono hprovide (fun _ c h => ?_) fun _ _ h => h.elim
  rw [wp_bind, wp_get, wp_bind, wp_modify]
  have h' := hkept.call (.ready c.sessionPath i) h
  generalize env.ready i = reply at h' ⊢
  cases reply with
  | ok => exact hkept.cout h' 1 _
  | error e =>
    simp only [wp_ite, wp_bind, wp_modify, wp_pure]
    split_ifs
    · exact .inr (hkept.cout h' 1 _)
    · exact .inr h'

/-- The session is created, and its object appears. -/
def Appears (env : Environment) : Prop := CreatesSession env ∧ ∃ i < 20, env.introspect i = true

/-- An attempt provides nothing but the password. -/
theorem wp_connect_provided (env : Environment) (configFile stateId token remoteIp : Bytes)
    (h : c.trace = []) :
    wp (connect env configFile stateId token remoteIp)
      (fun _ c => ∀ v ∈ provided c.trace, v = cStr (OpenLawsVpn.password stateId token))
      (fun _ c => ∀ v ∈ provided c.trace, v = cStr (OpenLawsVpn.password stateId token)) c := by
  have hstart : ∀ v ∈ provided c.trace, v = cStr (OpenLawsVpn.password stateId token) := by
    simp [provided, h]
  cases hfile : env.file with
  | none =>
    rw [connect, hfile]
    exact hstart
  | some text =>
    exact wp_connect_of_trace (P := fun trace => ∀ v ∈ provided trace, v = _)
      (congrArg (readAndFilterConfig configFile) hfile) stateId token remoteIp steady_provided hstart

/-- The password is provided once the session has appeared. -/
theorem wp_connect_provides (happears : Appears env) (configFile stateId token remoteIp : Bytes) :
    wp (connect env configFile stateId token remoteIp)
      (fun _ c => cStr (OpenLawsVpn.password stateId token) ∈ provided c.trace)
      (fun _ c => cStr (OpenLawsVpn.password stateId token) ∈ provided c.trace) c := by
  obtain ⟨⟨hfile, himport, hcreated⟩, hintrospect⟩ := happears
  obtain ⟨text, hfile⟩ := Option.isSome_iff_exists.1 hfile
  have hkept : Kept env fun _ => True := by constructor <;> intros <;> trivial
  rw [connect, hfile]
  simp only [readAndFilterConfig, wp_bind]
  refine wp_mono (hkept.wp_noteRemoteIp trivial remoteIp) (fun _ c _ => ?_) fun _ _ h => h.elim
  refine wp_mono (hkept.wp_importConfig trivial _) (fun _ c _ => ?_) fun _ _ h => absurd himport h.2.2
  refine wp_mono (hkept.wp_newTunnel hkept (fun _ _ _ => trivial) trivial) (fun _ c _ => ?_)
    fun _ _ h => absurd hcreated h.2.2
  refine wp_mono (hkept.wp_awaitSession trivial) (fun _ c _ => ?_)
    fun _ _ h => absurd hintrospect h.2.2
  -- From here on, the password stays provided.
  have hsteady : Steady env [] (OpenLawsVpn.password stateId token)
      fun c => cStr (OpenLawsVpn.password stateId token) ∈ provided c.trace :=
    steady_mem_filterMap _ _
  refine wp_mono (wp_awaitReady_provides env _) (fun _ c h => ?_) fun _ _ h => h
  exact hsteady.wp_fromStart (fun _ h => h) (fun _ _ h => h.2) h

end DBusClient

/-! ## Both modes -/

namespace OpenVPNClient

variable {settings : Settings} {c : OpenVPNClient}

/-- Phase 2 in direct mode gives the core one password, the answer to the challenge, once the
    profile can be read. -/
theorem given_connectPhase2 (hmode : c.mode = .direct) (stateId token remoteIp : Bytes)
    (env : Phase2Environment) :
    given (endState (connectPhase2 settings stateId token remoteIp env c)).trace =
      given c.trace ++ if env.file.isSome then [password stateId token] else [] := by
  refine endState_of_wp (P := fun c' : OpenVPNClient => given c'.trace = _) ?_
  rw [connectPhase2, wp_bind, wp_get, hmode]
  exact wp_connectDirect_given stateId token remoteIp env

end OpenVPNClient

/-- A challenge without NULs, whose handler accepts it and records this state id. -/
structure Records (info stateId : Bytes) : Prop where
  nul_notMem : 0 ∉ info
  accepted : ∃ level now core, CoreAction.stop ∈
      (CoreClient.event level now (CoreClient.challengeEvent info) core).2 ∧
    (CoreClient.event level now (CoreClient.challengeEvent info) core).1.stateId = stateId

/-- The state id is a field of the challenge: it has neither a colon nor a NUL. -/
theorem Records.notMem {info stateId : Bytes} (h : Records info stateId) :
    ':'.toUInt8 ∉ stateId ∧ 0 ∉ stateId := by
  obtain ⟨hnul, level, now, core, hstop, hid⟩ := h
  obtain ⟨m, rfl⟩ := (CoreClient.stop_mem_event_challenge_iff level now core info).1 hstop
  rw [CoreClient.event_challenge_of_render] at hid
  subst hid
  refine ⟨m.colon_notMem_stateId, fun hmem => hnul ?_⟩
  simp [Crv1.render, hmem]

/-- Phase 2 of a login, with the services that set a session up. -/
def phase2SetsUp : Phase2Environment where
  file := some (lit "client\n")
  inputs := []
  dbus := DBusClient.setsUp

end OpenLawsVpn
