import OpenLawsVpn.DBus.Phases

/-!
# Cleaning up the session

A failed attempt should not leave its session behind (`LeavesNoSession`). The
wait loop and the result disconnect the session before they throw, but the three
throws before them do not: while waiting for the object of the session, while
waiting for it to be ready, and when `Connect` is refused. So a failed attempt
cleans up exactly if it gets beyond these, or never had a session
(`leavesNoSession_iff`).

Along the run, the session created is the one of the state (`Live`), which every
action keeps but the calls that create and disconnect one (`phases_session`).

* `NoSession`, `Live`, `Clean`: the sessions that a trace created and disconnected, and the state;
* `wp_connect_session`: in which of these cases an attempt ends, by what the services answered;
* `leavesNoSession_iff`: the criterion, for all answers and signals;
* `neverReady_session`: an attempt whose session never gets ready, and stays.
-/

namespace OpenLawsVpn.DBusClient

open Wp

/-- The session `p` was created. -/
def Created (trace : List DBusAction) (p : ObjectPath) : Prop :=
  ∃ config, .call (.newTunnel config (.ok p)) ∈ trace

/-- The session `p` was disconnected. -/
def Disconnected (trace : List DBusAction) (p : ObjectPath) : Prop :=
  .call (.disconnect p.bytes) ∈ trace

/-- When `connect` has thrown, each session created was disconnected before. -/
def LeavesNoSession : EStateM.Result Stop DBusClient Unit → Prop
  | .error (.threw _) c => ∀ p, Created c.trace p → Disconnected c.trace p
  | _ => True

/-! ## Sessions along the run -/

/-- No session was created, or disconnected. -/
structure NoSession (c : DBusClient) : Prop where
  created : ∀ q, ¬Created c.trace q
  disconnected : ∀ q, ¬Disconnected c.trace q

/-- The session `p` is the only one created, it is not disconnected, and it is the
    one of the state. -/
structure Live (p : ObjectPath) (c : DBusClient) : Prop where
  path : c.sessionPath = p.bytes
  created : Created c.trace p
  only : ∀ q, Created c.trace q → q = p
  connected : ¬Disconnected c.trace p

/-- The session `p` is the only one created, and it is disconnected. -/
structure Clean (p : ObjectPath) (c : DBusClient) : Prop where
  only : ∀ q, Created c.trace q → q = p
  disconnected : Disconnected c.trace p

/-- An action other than creating and disconnecting a session. -/
def Passive : DBusAction → Prop
  | .call (.newTunnel _ (.ok _)) => False
  | .call (.disconnect _) => False
  | _ => True

/-- What is passive creates no session. -/
theorem created_append {trace : List DBusAction} {a : DBusAction} (ha : Passive a)
    {p : ObjectPath} : Created (trace ++ [a]) p ↔ Created trace p := by
  simp only [Created, List.mem_append, List.mem_singleton]
  constructor
  · rintro ⟨config, h | rfl⟩
    · exact ⟨config, h⟩
    · exact ha.elim
  · rintro ⟨config, h⟩
    exact ⟨config, .inl h⟩

theorem disconnected_append {trace : List DBusAction} {a : DBusAction} (ha : Passive a)
    {p : ObjectPath} : Disconnected (trace ++ [a]) p ↔ Disconnected trace p := by
  simp only [Disconnected, List.mem_append, List.mem_singleton]
  constructor
  · rintro (h | rfl)
    · exact h
    · exact ha.elim
  · exact .inl

variable {p : ObjectPath} {c : DBusClient}

/-- Without a session, what is passive leaves none. -/
theorem NoSession.push (h : NoSession c) {a : DBusAction} (ha : Passive a) :
    NoSession (c.push a) where
  created q hq := h.created q ((created_append ha).1 hq)
  disconnected q hq := h.disconnected q ((disconnected_append ha).1 hq)

/-- A session that is up stays up. -/
theorem Live.push (h : Live p c) {a : DBusAction} (ha : Passive a) : Live p (c.push a) where
  path := h.path
  created := (created_append ha).2 h.created
  only q hq := h.only q ((created_append ha).1 hq)
  connected hd := h.connected ((disconnected_append ha).1 hd)

/-- The first session. -/
theorem Live.of_newTunnel (h : NoSession c) (path : ObjectPath) :
    Live path { c.push (.call (.newTunnel c.configPath (.ok path))) with
      sessionPath := path.bytes } where
  path := rfl
  created := ⟨c.configPath, List.mem_append_right _ (List.mem_singleton.2 rfl)⟩
  only q := by
    rintro ⟨config, hq⟩
    rcases List.mem_append.1 hq with hq | hq
    · exact (h.created q ⟨config, hq⟩).elim
    · cases List.mem_singleton.1 hq
      rfl
  connected hd := by
    rcases List.mem_append.1 hd with hd | hd
    · exact h.disconnected path hd
    · cases List.mem_singleton.1 hd

/-- To disconnect the session of the client cleans up. -/
theorem Clean.of_disconnect (h : Live p c) :
    Clean p (c.push (.call (.disconnect c.sessionPath))) where
  only q := by
    rintro ⟨config, hq⟩
    rw [push_trace, List.mem_append, List.mem_singleton] at hq
    rcases hq with hq | hq
    · exact h.only q ⟨config, hq⟩
    · cases hq
  disconnected := by
    rw [Disconnected, h.path]
    exact List.mem_append_right _ (List.mem_singleton.2 rfl)

/-! ## The whole run -/

variable {env : Environment}

/-- A property which the passive actions and the changes of the flags keep. -/
theorem kept_of_passive {P : DBusClient → Prop} (hpush : ∀ c a, Passive a → P c → P (c.push a))
    (hconfigPath : ∀ c path, P c → P { c with configPath := path })
    (hconnected : ∀ c, P c → P { c with connected := true })
    (hfail : ∀ c what, P c → P (c.fail what)) : Kept env P where
  stdout c line := hpush c _ trivial
  call c k hk := by
    refine hpush c _ ?_
    cases k with
    | newTunnel config reply => cases reply <;> exact hk
    | disconnect => exact hk
    | _ => trivial
  timedOut c := hpush c _ trivial
  configPath := hconfigPath
  announcement c text _ := hpush c _ trivial
  signal c s _ h := onStatusChange_induction (fun c _ => hpush c _ trivial) hconnected hfail s
    (hpush c _ trivial h)
  polledStatus c session w _ h := onPolledStatus_induction (fun c _ => hpush c _ trivial)
    hconnected hfail w.status (hpush c _ trivial h)
  polledConnectedTo c session w _ h := onPolledConnectedTo_induction
    (fun c _ => hpush c _ trivial) hconnected w.connectedTo (hpush c _ trivial h)

/-- Up to the creation, there is no session. -/
theorem kept_noSession : Kept env NoSession :=
  kept_of_passive (fun _ _ ha h => h.push ha) (fun _ _ h => ⟨h.1, h.2⟩) (fun _ h => ⟨h.1, h.2⟩)
    fun _ _ h => ⟨h.1, h.2⟩

/-- From the creation on, there is the one that was created. -/
theorem kept_live : Kept env fun c => ∃ p, Live p c :=
  kept_of_passive (fun _ _ ha ⟨p, h⟩ => ⟨p, h.push ha⟩)
    (fun _ _ ⟨p, h⟩ => ⟨p, h.1, h.2, h.3, h.4⟩) (fun _ ⟨p, h⟩ => ⟨p, h.1, h.2, h.3, h.4⟩)
    fun _ _ ⟨p, h⟩ => ⟨p, h.1, h.2, h.3, h.4⟩

/-- The phases of an attempt, by its sessions. -/
theorem phases_session :
    Phases env NoSession (fun c => ∃ p, Live p c) (fun c => ∃ p, Clean p c) where
  keptBefore := kept_noSession
  keptLive := kept_live
  created _ path h := ⟨path, Live.of_newTunnel h path⟩
  disconnected _ h _ := by
    obtain ⟨p, h⟩ := h
    exact ⟨p, Clean.of_disconnect h⟩
  noPath _ h hpath := by
    obtain ⟨p, h⟩ := h
    exact (p.bytes_ne (h.path ▸ hpath)).elim

/-- How an attempt ends, by its session. -/
theorem wp_connect_session (env : Environment) (configFile stateId token remoteIp : Bytes)
    (level : ℤ) :
    wp (connect env configFile stateId token remoteIp) (fun _ _ => Starts env)
      (fun e c =>
        Ending env configFile NoSession (fun c => ∃ p, Live p c) (fun c => ∃ p, Clean p c) e c)
      { logLevel := level } := by
  have hnone : NoSession { logLevel := level } :=
    ⟨fun q => by simp [Created], fun q => by simp [Disconnected]⟩
  exact wp_mono (phases_session.wp_connect hnone configFile stateId token remoteIp)
    (fun _ _ h => h.2.2) fun _ _ h => h

/-- An attempt that fails between creating the session and the wait loop leaves
    the session behind. -/
theorem exists_left (hcreates : CreatesSession env) (hnot : ¬Starts env)
    (configFile stateId token remoteIp : Bytes) (level : ℤ) :
    ∃ what c p, connect env configFile stateId token remoteIp { logLevel := level } =
        .error (.threw what) c ∧ Created c.trace p ∧ ¬Disconnected c.trace p := by
  have hrun := wp_connect_session env configFile stateId token remoteIp level
  cases hr : connect env configFile stateId token remoteIp { logLevel := level } with
  | ok _ c => exact (hnot (post_of_wp hrun hr)).elim
  | error e c =>
    cases exn_of_wp hrun hr with
    | noProfile _ _ hfile => simp [CreatesSession, hfile] at hcreates
    | noSession _ _ _ hnone => exact (hnone hcreates).elim
    | live he h =>
      obtain ⟨p, h⟩ := h
      exact ⟨_, c, p, by rw [he], h.created, h.connected⟩
    | waiting _ _ _ hstarts => exact (hnot hstarts).elim
    | clean _ _ _ hstarts => exact (hnot hstarts).elim

variable (env) {configFile stateId token remoteIp : Bytes} {level : ℤ}

/-- A failed attempt leaves no session behind exactly if it created none, or if it
    got to the wait loop: its object appeared, it got ready, and it connected. -/
theorem leavesNoSession_iff :
    LeavesNoSession (connect env configFile stateId token remoteIp { logLevel := level }) ↔
      ¬CreatesSession env ∨ Starts env := by
  constructor
  · intro hclean
    by_contra hnot
    rw [not_or, not_not] at hnot
    obtain ⟨what, c, p, hr, hcreated, hleft⟩ :=
      exists_left hnot.1 hnot.2 configFile stateId token remoteIp level
    rw [hr] at hclean
    exact hleft (hclean p hcreated)
  · intro hcond
    have hrun := wp_connect_session env configFile stateId token remoteIp level
    cases hr : connect env configFile stateId token remoteIp { logLevel := level } with
    | ok _ c => trivial
    | error e c =>
      cases e with
      | threw what =>
        -- Only a live session that did not start is left, which the condition rules out.
        cases exn_of_wp hrun hr with
        | noProfile _ h => exact fun p hp => (h.created p hp).elim
        | noSession _ h => exact fun p hp => (h.created p hp).elim
        | live _ _ hcreates hnot => exact (hcond.elim (fun hnone => hnone hcreates) hnot).elim
        | waiting he => cases he
        | clean _ h =>
          obtain ⟨p, h⟩ := h
          exact fun q hq => h.only q hq ▸ h.disconnected
      | undefined => trivial
      | waiting => trivial

/-! ## A session left behind -/

/-- The services set a session up, which does not get ready. -/
def neverReady : Environment :=
  { setsUp with ready := fun _ => .error ⟨none, ⟨lit "backend died", by decide⟩⟩ }

/-- A session that never gets ready does not start. -/
theorem neverReady_not_starts : ¬Starts neverReady := fun h => by
  obtain ⟨-, ⟨i, -, hi⟩, -⟩ := h
  cases hi

/-- The attempt throws, and the session it created stays. -/
theorem neverReady_session :
    ∃ what c p, connect neverReady (lit "vpn.ovpn") (lit "state") (lit "token") []
        { logLevel := 1 } = .error (.threw what) c ∧
      Created c.trace p ∧ ¬Disconnected c.trace p :=
  exists_left ⟨rfl, ⟨_, 0, by decide, by simp, rfl⟩, _, 0, by decide, by simp, rfl⟩
    neverReady_not_starts _ _ _ _ _

end OpenLawsVpn.DBusClient
