import OpenLawsVpn.Gui.Login
import OpenLawsVpn.Lib.Runs
import OpenLawsVpn.Sessions

/-!
# The clients of the GUI

The service thread processes the commands, and each Connect makes a client of the library,
which lives on after its task: the core and the session send to it at any time, and their
threads do so even after a Disconnect has freed it. What a Connect establishes of its client and
the rest keeps holds of each client in every run (`Keeps.run`).

* `Desktop.step`: a command of the GUI, with what its login meets, or something that a client
  receives, in any order;
* `Keeps`: what has to be shown of a property of clients, one field for each kind of step, and of
  what a Disconnect makes of it;
* `credentials_run`: a session is provided with nothing but the answer to the challenge of the
  login that its client was made for;
* `sessions_run`: a session that is left belongs to a client that was not released: to the one
  stored, if no Connect follows another.
-/

namespace OpenLawsVpn

open Wp

/-- The service and the clients that it made: the pointer to a client is its number. -/
structure Desktop where
  service : Service := {}
  clients : List OpenVPNClient := []
  /-- Phase 2 does not return. -/
  blocked : Bool := false

namespace Desktop

/-- A command of the service, or something that happens to a client. -/
inductive Step
  | connect (configPath : Text) (l : Login)
  | disconnect (env : Environment)
  | receive (id : ℕ) (input : OpenVPNClient.Input)

variable (settings : Settings) (decode : Text → Option Text)

/-- The service processes a command, or something happens to a client. The threads of a
    client that is freed may still deliver to it. -/
def step (s : Desktop) : Step → Option Desktop
  | .connect configPath l =>
    if s.blocked then none
    else
      let service := s.service.connect configPath (l.outcome settings decode configPath)
      if '\x00' ∈ configPath then some { s with service }
      else
        let connect := l.connect settings decode configPath s.service.created
        some {
          service
          clients := s.clients ++ [endState (connect (Login.newClient configPath))]
          blocked := match connect (Login.newClient configPath) with
            | .ok .. => false
            | .error .. => true }
  | .disconnect env =>
    if s.blocked then none
    else
      some { s with
        service := s.service.disconnect
        clients := match s.service.client with
          | some id => s.clients.modify id (·.disconnect env)
          | none => s.clients }
  | .receive id input => some { s with clients := s.clients.modify id (·.receive settings input) }

/-- The login that a client is made for. -/
def Step.login? : Step → Option Login
  | .connect configPath l => if '\x00' ∈ configPath then none else some l
  | _ => none

/-- The command, with its outcome. -/
def Step.command? : Step → Option VpnCommand
  | .connect configPath l => some (.connect configPath (l.outcome settings decode configPath))
  | .disconnect _ => some .disconnect
  | .receive .. => none

/-! ## Clients -/

/-- What a Connect establishes of its client, and everything keeps; and what a Disconnect
    makes of it. -/
structure Keeps (I : Login → OpenVPNClient → Prop) (G : OpenVPNClient → Prop) : Prop where
  connect : ∀ l configPath id,
    I l (endState (l.connect settings decode configPath id (Login.newClient configPath)))
  receive : ∀ {l c}, I l c → ∀ input, I l (c.receive settings input)
  disconnect : ∀ {l c}, I l c → ∀ env, I l (c.disconnect env)
  released : ∀ {l c}, I l c → ∀ env, G (c.disconnect env)
  receiveReleased : ∀ {c}, G c → ∀ input, G (c.receive settings input)

variable {settings : Settings} {decode : Text → Option Text} {I : Login → OpenVPNClient → Prop}
  {G : OpenVPNClient → Prop} {steps : List Step} {s s' : Desktop}

/-- The clients are those of the logins, and the service is that of the commands. -/
structure Holds (settings : Settings) (decode : Text → Option Text)
    (I : Login → OpenVPNClient → Prop) (G : OpenVPNClient → Prop) (steps : List Step)
    (s : Desktop) : Prop where
  service_eq : s.service = Service.run (steps.filterMap (Step.command? settings decode)) {}
  consistent : s.service.Consistent
  created : s.service.created = s.clients.length
  length_eq : (steps.filterMap Step.login?).length = s.clients.length
  client : ∀ {id : ℕ} {l : Login} {c : OpenVPNClient}, (steps.filterMap Step.login?)[id]? = some l →
    s.clients[id]? = some c → I l c ∧ (Service.releases id s.service.trace ≠ [] → G c)

theorem filterMap_concat {α β : Type*} (f : α → Option β) (l : List α) (a : α) :
    (l ++ [a]).filterMap f = l.filterMap f ++ (f a).toList := by
  rw [List.filterMap_append]
  cases h : f a with
  | none => rw [List.filterMap_cons_none h]; rfl
  | some b => rw [List.filterMap_cons_some h]; rfl

/-- The service of a longer run has taken the command of the last step. -/
theorem service_concat
    (h : s.service = Service.run (steps.filterMap (Step.command? settings decode)) {}) (a : Step) :
    Service.run ((steps ++ [a]).filterMap (Step.command? settings decode)) {} =
      Service.run (a.command? settings decode).toList s.service := by
  rw [filterMap_concat, Service.run, List.foldl_append, h]
  rfl

namespace Holds

variable (h : Holds settings decode I G steps s)
include h

/-- A Connect makes a client of which the login establishes what is kept, unless its path has a
    NUL; the other clients are as before. -/
theorem connect (hkeeps : Keeps settings decode I G) {configPath : Text} {l : Login}
    (hstep : step settings decode s (.connect configPath l) = some s') :
    Holds settings decode I G (steps ++ [.connect configPath l]) s' := by
  set o := l.outcome settings decode configPath with ho
  have hservice := service_concat h.service_eq (.connect configPath l)
  have hlogins := filterMap_concat Step.login? steps (.connect configPath l)
  have hconsistent := h.consistent.process (.connect configPath o)
  rw [step] at hstep
  split_ifs at hstep with hblocked hnul
  · obtain rfl := Option.some.inj hstep
    have hlogin : (Step.connect configPath l).login? = none := if_pos hnul
    rw [hlogin, Option.toList_none, List.append_nil] at hlogins
    refine ⟨hservice.symm, hconsistent, ?_, ?_, fun {id l' c} hl hc => ?_⟩
    · exact (Service.connect_of_nul hnul o).2.trans h.created
    · rw [hlogins, h.length_eq]
    · rw [hlogins] at hl
      have hreleases := Service.releases_connect (s := s.service) id configPath o
      exact ⟨(h.client hl hc).1, fun hne => (h.client hl hc).2 (hreleases ▸ hne)⟩
  · obtain rfl := Option.some.inj hstep
    have hlogin : (Step.connect configPath l).login? = some l := if_neg hnul
    rw [hlogin, Option.toList_some] at hlogins
    refine ⟨hservice.symm, hconsistent, ?_, ?_, fun {id l' c} hl hc => ?_⟩
    · rw [List.length_append, ← h.created]
      exact (Service.connect_of_path hnul o).2
    · rw [hlogins, List.length_append, List.length_append, h.length_eq]
      rfl
    · rw [hlogins] at hl
      have hreleases := Service.releases_connect (s := s.service) id configPath o
      by_cases hid : id < s.clients.length
      · rw [List.getElem?_append_left (h.length_eq ▸ hid)] at hl
        rw [List.getElem?_append_left hid] at hc
        exact ⟨(h.client hl hc).1, fun hne => (h.client hl hc).2 (hreleases ▸ hne)⟩
      · -- The client that was made was not released.
        rw [not_lt] at hid
        rw [List.getElem?_append_right (h.length_eq ▸ hid), List.getElem?_singleton] at hl
        rw [List.getElem?_append_right hid, List.getElem?_singleton] at hc
        split_ifs at hl hc
        obtain rfl := Option.some.inj hl
        obtain rfl := Option.some.inj hc
        refine ⟨hkeeps.connect _ configPath s.service.created, fun hne => absurd ?_ hne⟩
        exact hreleases.trans (h.consistent.fresh id (h.created ▸ hid))

/-- A Disconnect acts on the client stored, which it releases. -/
theorem disconnect (hkeeps : Keeps settings decode I G) {env : Environment}
    (hstep : step settings decode s (.disconnect env) = some s') :
    Holds settings decode I G (steps ++ [.disconnect env]) s' := by
  have hservice := service_concat h.service_eq (.disconnect env)
  have hlogins := filterMap_concat Step.login? steps (.disconnect env)
  rw [show (Step.disconnect env).login? = none from rfl, Option.toList_none, List.append_nil]
    at hlogins
  obtain ⟨-, hstep⟩ := Option.ite_none_left_eq_some.1 hstep
  obtain rfl := Option.some.inj hstep
  refine ⟨hservice.symm, h.consistent.process .disconnect, ?_, ?_, fun {id l c} hl hc => ?_⟩
  · refine h.created.trans ?_
    cases s.service.client with
    | none => rfl
    | some id => exact (List.length_modify ..).symm
  · rw [hlogins, h.length_eq]
    cases s.service.client with
    | none => rfl
    | some id => exact (List.length_modify ..).symm
  · rw [hlogins] at hl
    have hreleases := Service.releases_disconnect (s := s.service) id
    -- Without a client stored, nothing is called.
    cases hclient : s.service.client with
    | none =>
      rw [hclient, if_neg (by simp), List.append_nil] at hreleases
      simp only [hclient] at hc
      exact ⟨(h.client hl hc).1, fun hne => (h.client hl hc).2 (hreleases ▸ hne)⟩
    | some id' =>
      simp only [hclient, List.getElem?_modify] at hc
      obtain ⟨c', hc', rfl⟩ := Option.map_eq_some_iff.1 hc
      obtain ⟨hI, hG⟩ := h.client hl hc'
      by_cases hid : id' = id
      · rw [if_pos hid]
        exact ⟨hkeeps.disconnect hI env, fun _ => hkeeps.released hI env⟩
      · rw [hclient, if_neg (fun heq => hid (Option.some.inj heq)), List.append_nil] at hreleases
        rw [if_neg hid]
        exact ⟨hI, fun hne => hG (hreleases ▸ hne)⟩

/-- What is received changes one client, be it freed or not. -/
theorem receive (hkeeps : Keeps settings decode I G) {id : ℕ} {input : OpenVPNClient.Input}
    (hstep : step settings decode s (.receive id input) = some s') :
    Holds settings decode I G (steps ++ [.receive id input]) s' := by
  have hservice := service_concat h.service_eq (.receive id input)
  have hlogins := filterMap_concat Step.login? steps (.receive id input)
  rw [show (Step.receive id input).login? = none from rfl, Option.toList_none, List.append_nil]
    at hlogins
  obtain rfl := Option.some.inj hstep
  refine ⟨hservice.symm, h.consistent, ?_, ?_, fun {id' l c} hl hc => ?_⟩
  · rw [List.length_modify, h.created]
  · rw [hlogins, List.length_modify, h.length_eq]
  · rw [hlogins] at hl
    rw [List.getElem?_modify] at hc
    obtain ⟨c', hc', rfl⟩ := Option.map_eq_some_iff.1 hc
    obtain ⟨hI, hG⟩ := h.client hl hc'
    by_cases hid : id = id'
    · rw [if_pos hid]
      exact ⟨hkeeps.receive hI input, fun hne => hkeeps.receiveReleased (hG hne) input⟩
    · rw [if_neg hid]
      exact ⟨hI, hG⟩

end Holds

/-- What every step keeps of the clients holds of them after every run. -/
theorem Keeps.run (hkeeps : Keeps settings decode I G)
    (h : Runs.run (step settings decode) {} steps = some s) :
    Holds settings decode I G steps s := by
  refine Runs.reached_word (Q := Holds settings decode I G) ?_ (fun {as s a s'} hs hstep => ?_) h
  · exact ⟨rfl, Service.consistent_init, rfl, rfl, fun hl => by cases hl⟩
  · cases a with
    | connect configPath l => exact hs.connect hkeeps hstep
    | disconnect env => exact hs.disconnect hkeeps hstep
    | receive id input => exact hs.receive hkeeps hstep

/-! ## Credentials -/

/-- A login hands its client the probe and its own answer, and nothing later hands it another
    password. -/
theorem keeps_probed (settings : Settings) (decode : Text → Option Text) :
    Keeps settings decode (fun l c => c.Probed (l.Answers decode)) fun _ => True where
  connect _ _ id := endState_of_wp (Login.wp_connect (fun _ hpw => hpw) id)
  receive h input := by
    obtain ⟨passwords, hprobe, h⟩ := h
    exact ⟨passwords, hprobe, h.receive settings input⟩
  disconnect h env := by
    obtain ⟨passwords, hprobe, h⟩ := h
    exact ⟨passwords, hprobe, h.disconnect env⟩
  released _ _ := trivial
  receiveReleased _ _ := trivial

/-- In every run, each client was given at most the probe, and its session was provided with
    nothing but the answer to the challenge of the login that the client was made for. -/
theorem credentials_run (h : Runs.run (step settings decode) {} steps = some s) :
    s.service.created = s.clients.length ∧
      (steps.filterMap Step.login?).length = s.clients.length ∧
      ∀ (id : ℕ) (l : Login) (c : OpenVPNClient),
        (steps.filterMap Step.login?)[id]? = some l → s.clients[id]? = some c →
        given c.trace <+: [probe] ∧
          ∀ d, c.dbus = some d → ∀ v ∈ provided d.trace, l.Answers decode v := by
  have hholds := (keeps_probed settings decode).run h
  refine ⟨hholds.created, hholds.length_eq, fun id l c hl hc => ?_⟩
  obtain ⟨passwords, hprobe, hhanded⟩ := (hholds.client hl hc).1
  exact ⟨hhanded.given_eq ▸ hprobe, fun d hd => (hhanded.provided_of d hd).2⟩

/-- A profile is connected, and disconnected after a signal; the core of Phase 1 ends after the
    client is freed. -/
def postedSteps : List Step :=
  [.connect "work.ovpn".toList .posted, .receive 0 (.signal (.ofStatus ⟨2, 110, .empty⟩)),
    .disconnect DBusClient.setsUp, .receive 0 (.core (.event ⟨lit "DISCONNECTED", []⟩))]

/-- A clock that stands still. -/
def postedSettings : Settings where
  clock _ := ⟨2024, 1, 1, 0, 0, 0⟩

/-- The run has one client, which provided the answer of its login. -/
theorem clients_posted :
    (Runs.run (step postedSettings some) {} postedSteps).map (fun s => s.clients.map fun c =>
      c.dbus.map fun d => provided d.trace) = some [some [password (lit "sid") (lit "aGk=")]] := by
  decide +kernel

theorem credentials_run_posted : ∃ s,
    Runs.run (step postedSettings some) {} postedSteps = some s ∧
      Login.posted.Answers some (password (lit "sid") (lit "aGk=")) := by
  obtain ⟨s, hs, hclients⟩ := Option.map_eq_some_iff.1 clients_posted
  obtain ⟨c, hc, hdbus⟩ := List.map_eq_singleton_iff.1 hclients
  obtain ⟨d, hd, hprovided⟩ := Option.map_eq_some_iff.1 hdbus
  have hanswers := ((credentials_run hs).2.2 0 .posted c rfl (by rw [hc]; rfl)).2 d hd
  exact ⟨s, hs, hanswers _ (hprovided ▸ List.mem_singleton_self _)⟩

end Desktop

/-! ## Sessions -/

namespace OpenVPNClient

variable {settings : Settings} {c : OpenVPNClient} {S : DBusClient → Prop}

/-- Phase 1 leaves the session alone. -/
theorem InSession.wp_openvpnClientConnectPhase1 (h : c.InSession S) (env : Phase1Environment) :
    wp (openvpnClientConnectPhase1 settings env) (fun _ c => c.InSession S)
      (fun _ c => c.InSession S) c := by
  rw [openvpnClientConnectPhase1, wp_tryCatch, wp_bind]
  refine wp_mono ((stable_inSession settings S).wp_connectPhase1 h env) (fun _ _ h => h)
    fun e c h => ?_
  cases e <;> exact h

/-- After Phase 2, the session is as its `connect` leaves it. -/
theorem InSession.wp_openvpnClientConnectPhase2 (h : c.InSession S) (stateId token : Bytes)
    (remoteIp : Option Bytes) {env : Phase2Environment}
    (hS : ∀ configPath, wp (DBusClient.connect env.dbus configPath stateId token (remoteIp.getD []))
      (fun _ d => S d) (fun _ d => S d) { logLevel := settings.logLevel }) :
    wp (openvpnClientConnectPhase2 settings stateId token remoteIp env) (fun _ c => c.InSession S)
      (fun _ c => c.InSession S) c := by
  rw [openvpnClientConnectPhase2, wp_tryCatch]
  refine wp_mono ((stable_inSession settings S).wp_connectPhase2 h h inSession_setDBus hS)
    (fun _ _ h => h) fun e c h => ?_
  cases e <;> exact h

end OpenVPNClient

/-- A Connect leaves at most the session of its client. -/
theorem Login.wp_connect_held (settings : Settings) (decode : Text → Option Text) (l : Login)
    (configPath : Text) (id : ℕ) :
    wp (l.connect settings decode configPath id) (fun _ c => c.InSession DBusClient.Held)
      (fun _ c => c.InSession DBusClient.Held) (newClient configPath) := by
  have hnew : (newClient configPath).InSession DBusClient.Held := fun d hd => by cases hd
  refine wp_connect_of_phase1 id (wp_mono (hnew.wp_openvpnClientConnectPhase1 l.phase1)
    (fun r c h => ?_) fun _ _ h => h)
  have hbrowser := h.receiveAll (fun _ signals hd => hd.dispatch settings.clock signals) l.inputs
  rcases Service.afterPhase1_cases id ⟨r, l.capture decode⟩ with
    ⟨e, heq⟩ | ⟨url, e, heq⟩ | ⟨url, a, heq, rfl | ⟨stateId, token, remoteIp, rfl⟩⟩
  all_goals
    rw [heq]
    simp only [performAll, perform, wp_bind, wp_modify, wp_pure]
  · exact h
  · exact hbrowser
  · exact hbrowser
  · exact hbrowser.wp_openvpnClientConnectPhase2 _ _ _ fun configPath =>
      DBusClient.wp_connect_held l.phase2.dbus configPath _ _ _ _

namespace Desktop

variable {settings : Settings} {decode : Text → Option Text} {steps : List Step} {s : Desktop}

/-- Every session that a client created is held by it or disconnected, and after a Disconnect all
    are disconnected. -/
theorem keeps_held (settings : Settings) (decode : Text → Option Text) :
    Keeps settings decode (fun _ c => c.InSession DBusClient.Held)
      fun c => c.InSession DBusClient.Gone where
  connect l configPath id := endState_of_wp (l.wp_connect_held settings decode configPath id)
  receive h := h.receive fun _ signals hd => hd.dispatch settings.clock signals
  disconnect h env := h.disconnect fun _ hd => (hd.gone_disconnect env).held
  released h env := h.disconnect fun _ hd => hd.gone_disconnect env
  receiveReleased h := h.receive fun _ signals hd => hd.dispatch settings.clock signals

/-- In every run, a session that was created was disconnected, or it is the one of a client
    that was not released; and if no Connect follows another, this is the client stored. -/
theorem sessions_run (h : Runs.run (step settings decode) {} steps = some s) {id : ℕ}
    {c : OpenVPNClient} {d : DBusClient} {p : ObjectPath} (hc : s.clients[id]? = some c)
    (hd : c.dbus = some d) (hcreated : DBusClient.Created d.trace p) :
    DBusClient.Disconnected d.trace p ∨
      d.sessionPath = p.bytes ∧ Service.releases id s.service.trace = [] ∧
        (Service.Separated false (steps.filterMap (Step.command? settings decode)) →
          s.service.client = some id) := by
  have hholds := (keeps_held settings decode).run h
  obtain ⟨hlt, -⟩ := List.getElem?_eq_some_iff.1 hc
  have hl := List.getElem?_eq_getElem (hholds.length_eq.symm ▸ hlt)
  obtain ⟨hheld, hgone⟩ := hholds.client hl hc
  by_cases hreleases : Service.releases id s.service.trace = []
  swap
  · exact .inl (hgone hreleases d hd p hcreated)
  refine (hheld d hd p hcreated).symm.imp_right fun hpath =>
    ⟨hpath, hreleases, fun hseparated => ?_⟩
  have haccounted := (Service.accounted_run_iff Service.consistent_init
    (fun _ h => absurd h (Nat.not_lt_zero _)) _).2 hseparated _ List.prefix_rfl
  rw [← hholds.service_eq] at haccounted
  refine (haccounted id (hholds.created ▸ hlt)).resolve_right fun heq => ?_
  rw [hreleases] at heq
  cases heq

/-- The run creates one session. -/
theorem created_posted :
    (Runs.run (step postedSettings some) {} postedSteps).map (fun s => s.clients.map fun c =>
      c.dbus.map fun d => d.trace.filterMap DBusClient.createdPath?) =
        some [some [lit "/net/openvpn/v3/sessions/s"]] := by
  decide +kernel

theorem sessions_run_posted : ∃ (s : Desktop) (c : OpenVPNClient) (d : DBusClient) (p : ObjectPath),
    Runs.run (step postedSettings some) {} postedSteps = some s ∧ s.clients = [c] ∧
      c.dbus = some d ∧
      DBusClient.Created d.trace p ∧ (DBusClient.Disconnected d.trace p ∨
        d.sessionPath = p.bytes ∧ Service.releases 0 s.service.trace = [] ∧
          (Service.Separated false (postedSteps.filterMap (Step.command? postedSettings some)) →
            s.service.client = some 0)) := by
  obtain ⟨s, hs, hclients⟩ := Option.map_eq_some_iff.1 created_posted
  obtain ⟨c, hc, hdbus⟩ := List.map_eq_singleton_iff.1 hclients
  obtain ⟨d, hd, hpaths⟩ := Option.map_eq_some_iff.1 hdbus
  obtain ⟨a, ha, hpath⟩ := List.mem_filterMap.1 (hpaths ▸ List.mem_singleton_self _)
  obtain ⟨p, hp, -⟩ := DBusClient.created_of_createdPath? ha hpath
  exact ⟨s, c, d, p, hs, hc, hd, hp, sessions_run hs (by rw [hc]; rfl) hd hp⟩

end Desktop

end OpenLawsVpn
