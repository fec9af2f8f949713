import OpenLawsVpn.Gui.Desktop
import OpenLawsVpn.Tokens

/-!
# The GUI does not tell the token

The service hands a token on to Phase 2, and tells of it only whether it has a NUL, in which
case the task ends. So for logins that differ in the requests of the browser only, and in
which these result in tokens of the same length, the service sends the same events and makes
the same calls but for the tokens, and its clients write the same lines, in every run
(`Desktop.run_hides`).

* `ServiceAction.SameLength`: actions that differ in a token of the same length;
* `Login.alike_connect`: a Connect does the same on its client for two such logins;
* `Service.hide_connect`: it does the same in the service;
* `Desktop.hide_step`: a step keeps two runs alike.
-/

namespace OpenLawsVpn

open Wp

/-! ## Actions -/

/-- What is told of a token: its length, and whether it has a NUL. -/
def toldOf (token : Text) : ℕ × Bool :=
  ((Utf8.encode token).length, decide ('\x00' ∈ token))

namespace ServiceAction

/-- An action without the token. -/
def hide : ServiceAction → ServiceAction
  | .connectPhase2 client stateId _ remoteIp => .connectPhase2 client stateId [] remoteIp
  | a => a

/-- The actions differ in tokens of one length. -/
inductive SameLength : ServiceAction → ServiceAction → Prop
  | same (a : ServiceAction) : SameLength a a
  | connectPhase2 (client : ℕ) (stateId remoteIp : Text) {token token' : Text}
    (h : (Utf8.encode token).length = (Utf8.encode token').length) :
    SameLength (.connectPhase2 client stateId token remoteIp)
      (.connectPhase2 client stateId token' remoteIp)

variable {a a' : ServiceAction} {actions actions' : List ServiceAction}

/-- Actions that differ in tokens of the same length are alike. -/
theorem SameLength.hide_eq (h : SameLength a a') : a.hide = a'.hide := by
  cases h <;> rfl

theorem map_hide_eq (h : List.Forall₂ SameLength actions actions') :
    actions.map hide = actions'.map hide := by
  induction h with
  | nil => rfl
  | cons h _ ih => rw [List.map_cons, List.map_cons, h.hide_eq, ih]

theorem forall₂_same (actions : List ServiceAction) : List.Forall₂ SameLength actions actions :=
  List.forall₂_same.2 fun a _ => .same a

/-- The service hands the token on. -/
theorem sameLength_afterPhase1 (id : ℕ) (r : Phase1ResultC) {capture capture' : Except Text Text}
    (h : capture.map toldOf = capture'.map toldOf) :
    List.Forall₂ SameLength (Service.afterPhase1 id ⟨r, capture⟩)
      (Service.afterPhase1 id ⟨r, capture'⟩) := by
  rw [Service.afterPhase1, Service.afterPhase1]
  dsimp only
  split_ifs with hfailed
  · exact forall₂_same _
  · refine List.rel_append (forall₂_same _) ?_
    cases capture <;> cases capture'
    · obtain rfl := Except.error.inj h
      exact forall₂_same _
    · cases h
    · cases h
    · rename_i token token'
      obtain ⟨hlength, hnul⟩ := Prod.mk.inj (Except.ok.inj h)
      have hnul : '\x00' ∈ token ↔ '\x00' ∈ token' := decide_eq_decide.1 hnul
      refine .cons (.same _) ?_
      simp only [hnul]
      split_ifs
      · exact forall₂_same _
      · exact .cons (.connectPhase2 _ _ _ hlength) .nil

end ServiceAction

/-! ## Logins -/

namespace Login

variable {settings : Settings} {decode : Text → Option Text} {l l' : Login}

/-- The logins differ in the requests of the browser only, which result in tokens that look
    alike, or in the same error. -/
structure SameLength (decode : Text → Option Text) (l l' : Login) : Prop where
  login_eq : l' = { l with requests := l'.requests }
  capture_eq : (l.capture decode).map toldOf = (l'.capture decode).map toldOf

/-- They do the same on clients alike but for passwords. -/
theorem alike_perform {a a' : ServiceAction} (h : a.SameLength a') :
    Alike OpenVPNClient.hide (l.perform settings a) (l.perform settings a') := by
  cases h with
  | same a =>
    cases a with
    | setConnectMode client mode =>
      exact .modify_of_acts
        (F := ({ · with mode := if mode = 0 then .direct else .dbus })) fun _ => rfl
    | connectPhase1 client =>
      exact .bind (OpenVPNClient.alike_openvpnClientConnectPhase1 l.phase1) fun _ => .pure _
    | openBrowser url => exact .modify_of_acts (OpenVPNClient.hide_receiveAll l.inputs)
    | connectPhase2 client stateId token remoteIp =>
      exact OpenVPNClient.alike_openvpnClientConnectPhase2 settings rfl _ _ _
    | _ => exact .pure _
  | connectPhase2 client stateId remoteIp h =>
    exact OpenVPNClient.alike_openvpnClientConnectPhase2 settings h _ _ _

theorem alike_performAll {actions actions' : List ServiceAction}
    (h : List.Forall₂ ServiceAction.SameLength actions actions') :
    Alike OpenVPNClient.hide (l.performAll settings actions) (l.performAll settings actions') := by
  induction h with
  | nil => exact .pure _
  | cons h _ ih => exact .bind (alike_perform h) fun _ => ih

namespace SameLength

variable (settings) (h : l.SameLength decode l')
include h

/-- A Connect takes the same actions, but for the token. -/
theorem attempt (configPath : Text) (id : ℕ) :
    List.Forall₂ ServiceAction.SameLength
      (Service.attempt id (l.outcome settings decode configPath))
      (Service.attempt id (l'.outcome settings decode configPath)) := by
  have hphase1 : l'.phase1C settings configPath = l.phase1C settings configPath := by
    rw [h.login_eq]
    rfl
  rw [Service.attempt, Service.attempt, outcome, outcome, hphase1]
  exact List.rel_append (ServiceAction.forall₂_same _)
    (ServiceAction.sameLength_afterPhase1 id _ h.capture_eq)

/-- The actions do not read the requests. -/
theorem performAll_eq (actions : List ServiceAction) :
    l'.performAll settings actions = l.performAll settings actions := by
  have hperform : ∀ a, l'.perform settings a = l.perform settings a := by
    rw [h.login_eq]
    exact fun _ => rfl
  induction actions with
  | nil => rfl
  | cons a actions ih => rw [performAll, performAll, hperform, ih]

theorem alike_connect (configPath : Text) (id : ℕ) :
    Alike OpenVPNClient.hide (l.connect settings decode configPath id)
      (l'.connect settings decode configPath id) := by
  rw [connect, connect, h.performAll_eq settings]
  exact alike_performAll
    (List.rel_append (ServiceAction.forall₂_same _) (h.attempt settings configPath id))

end SameLength

end Login

/-! ## The service -/

/-- The service without the tokens. -/
def Service.hide (s : Service) : Service := { s with trace := s.trace.map ServiceAction.hide }

namespace Service

variable {s t : Service}

theorem hide_eq_iff : s.hide = t.hide ↔ s.client = t.client ∧ s.created = t.created ∧
    s.trace.map ServiceAction.hide = t.trace.map ServiceAction.hide := by
  rw [hide, hide, Service.mk.injEq]

/-- The service does the same for outcomes that differ in such tokens. -/
theorem hide_connect (h : s.hide = t.hide) (configPath : Text) {o o' : ConnectOutcome}
    (ho : ∀ id, List.Forall₂ ServiceAction.SameLength (attempt id o) (attempt id o')) :
    (s.connect configPath o).hide = (t.connect configPath o').hide := by
  obtain ⟨hclient, hcreated, htrace⟩ := hide_eq_iff.1 h
  rw [connect, connect]
  split_ifs
  · simp only [hide, hcreated, hclient, htrace, List.map_append]
  · simp only [hide, hcreated, htrace, List.map_append, ServiceAction.map_hide_eq (ho _)]

theorem hide_disconnect (h : s.hide = t.hide) : s.disconnect.hide = t.disconnect.hide := by
  obtain ⟨hclient, hcreated, htrace⟩ := hide_eq_iff.1 h
  simp only [hide, disconnect, hcreated, hclient, htrace, List.map_append]

end Service

/-! ## The desktop -/

namespace Desktop

/-- The desktop without the tokens, and without the passwords given and provided. -/
def hide (s : Desktop) : Desktop :=
  { s with service := s.service.hide, clients := s.clients.map OpenVPNClient.hide }

/-- The steps differ in the requests of the browser only. -/
inductive Step.SameLength (decode : Text → Option Text) : Step → Step → Prop
  | same (a : Step) : SameLength decode a a
  | connect (configPath : Text) {l l' : Login} (h : l.SameLength decode l') :
    SameLength decode (.connect configPath l) (.connect configPath l')

variable {settings : Settings} {decode : Text → Option Text} {s t : Desktop}

/-- Clients that look alike still do when one of them is changed alike. -/
theorem map_hide_modify {f : OpenVPNClient → OpenVPNClient}
    (hf : ∀ {c c' : OpenVPNClient}, c.hide = c'.hide → (f c).hide = (f c').hide) (id : ℕ)
    {clients clients' : List OpenVPNClient}
    (h : clients.map OpenVPNClient.hide = clients'.map OpenVPNClient.hide) :
    (clients.modify id f).map OpenVPNClient.hide =
      (clients'.modify id f).map OpenVPNClient.hide := by
  refine List.ext_getElem? fun i => ?_
  have hi : (clients[i]?).map OpenVPNClient.hide = (clients'[i]?).map OpenVPNClient.hide := by
    rw [← List.getElem?_map, h, List.getElem?_map]
  simp only [List.getElem?_map, List.getElem?_modify, Option.map_eq_map]
  split_ifs
  · cases hc : clients[i]? with
    | none =>
      rw [hc, Option.map_none, eq_comm, Option.map_eq_none_iff] at hi
      rw [hi]
    | some c =>
      rw [hc, Option.map_some, eq_comm, Option.map_eq_some_iff] at hi
      obtain ⟨c', hc', hcc'⟩ := hi
      rw [hc']
      exact congrArg some (hf hcc'.symm)
  · simpa using hi

theorem hide_eq_iff : s.hide = t.hide ↔ s.service.hide = t.service.hide ∧
    s.clients.map OpenVPNClient.hide = t.clients.map OpenVPNClient.hide ∧
    s.blocked = t.blocked := by
  rw [hide, hide, Desktop.mk.injEq]

/-- A Connect keeps two runs alike. -/
theorem hide_step_connect (hst : s.hide = t.hide) (configPath : Text) {l l' : Login}
    (h : l.SameLength decode l') :
    (step settings decode s (.connect configPath l)).map hide =
      (step settings decode t (.connect configPath l')).map hide := by
  obtain ⟨hservice, hclients, hblocked⟩ := hide_eq_iff.1 hst
  obtain ⟨-, hcreated, -⟩ := Service.hide_eq_iff.1 hservice
  have hservice' := Service.hide_connect hservice configPath
    fun id => h.attempt settings configPath id
  rw [step, step, hblocked, hcreated]
  split_ifs with hblocked' hpath
  · rfl
  · exact congrArg some (hide_eq_iff.2 ⟨hservice', hclients, rfl⟩)
  · have hseen := h.alike_connect settings configPath t.service.created
      (Login.newClient configPath) _ rfl
    refine congrArg some (hide_eq_iff.2 ⟨hservice', ?_, ?_⟩)
    · rw [List.map_append, List.map_append, hclients, List.map_singleton, List.map_singleton,
        view_endState hseen]
    · generalize l.connect settings decode configPath t.service.created
        (Login.newClient configPath) = r at hseen ⊢
      generalize l'.connect settings decode configPath t.service.created
        (Login.newClient configPath) = r' at hseen ⊢
      have hends := (Prod.mk.inj hseen).1
      cases r <;> cases r' <;> first | rfl | cases hends

/-- Steps that look alike keep desktops alike. -/
theorem hide_step {a b : Step} (hst : s.hide = t.hide) (hab : a.SameLength decode b) :
    (step settings decode s a).map hide = (step settings decode t b).map hide := by
  cases hab with
  | connect configPath h => exact hide_step_connect hst configPath h
  | same a =>
    obtain ⟨hservice, hclients, hblocked⟩ := hide_eq_iff.1 hst
    obtain ⟨hclient, -, -⟩ := Service.hide_eq_iff.1 hservice
    cases a with
    | connect configPath l => exact hide_step_connect hst configPath ⟨rfl, rfl⟩
    | disconnect env =>
      have hservice' := Service.hide_disconnect hservice
      rw [step, step, hblocked, hclient]
      split_ifs
      · rfl
      · refine congrArg some (hide_eq_iff.2 ⟨hservice', ?_, rfl⟩)
        cases t.service.client with
        | none => exact hclients
        | some id => exact map_hide_modify (OpenVPNClient.hide_disconnect · env) id hclients
    | receive id input =>
      have hreceive : ∀ {c c' : OpenVPNClient}, c.hide = c'.hide →
          (c.receive settings input).hide = (c'.receive settings input).hide := fun h => by
        rw [OpenVPNClient.hide_receive, OpenVPNClient.hide_receive, h]
      exact congrArg some
        (hide_eq_iff.2 ⟨hservice, map_hide_modify hreceive id hclients, hblocked⟩)

/-- In runs whose logins differ in tokens of the same lengths, the service does the same, and
    so do its clients. -/
theorem run_hides {steps steps' : List Step}
    (h : List.Forall₂ (Step.SameLength decode) steps steps') :
    (Runs.run (step settings decode) {} steps).map hide =
      (Runs.run (step settings decode) {} steps').map hide := by
  have hempty : ({} : Desktop).hide = ({} : Desktop).hide := rfl
  refine Runs.map_run (R := Step.SameLength decode) ?_ hempty h
  exact fun hst hab => hide_step hst hab

/-- Another response is posted. -/
def otherLogin : Login :=
  { Login.posted with requests := [.get {}, .post { samlResponse := some "aGo=".toList }] }

/-- The run of `postedSteps` with the other response. -/
def otherSteps : List Step :=
  [.connect "work.ovpn".toList otherLogin, .receive 0 (.signal (.ofStatus ⟨2, 110, .empty⟩)),
    .disconnect DBusClient.setsUp, .receive 0 (.core (.event ⟨lit "DISCONNECTED", []⟩))]

theorem run_hides_otherSteps :
    (Runs.run (step postedSettings some) {} postedSteps).map hide =
      (Runs.run (step postedSettings some) {} otherSteps).map hide := by
  have hlogin : Login.posted.SameLength some otherLogin := ⟨rfl, by decide +kernel⟩
  exact run_hides
    (.cons (.connect _ hlogin) (.cons (.same _) (.cons (.same _) (.cons (.same _) .nil))))

end Desktop

end OpenLawsVpn
