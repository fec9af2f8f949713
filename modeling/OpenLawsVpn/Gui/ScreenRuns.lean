import OpenLawsVpn.Gui.Screen

/-!
# Runs of the screen and the service

In a careful run, the client stored is the one of the active profile whenever the
screen shows *Connected*, and no Connect is sent during another or while a tunnel is
up (`agrees_of_careful`). What carries it (`Inv`) is that the changes on their way
tell when the service will be done: those sent since the last click was taken are at
rest only after the end of a Connect, and stay so.

Not every run is careful. The screen is busy only once the first change of a Connect
is shown, so a double click sends two Connects (`doubleClick_disagrees`); and while a
tunnel is up, the buttons of the other profiles connect them
(`otherProfile_disagrees`).

* `Stage`, `Owned`: how far the last command is, and whose the client stored is;
* `Inv.click`, `Inv.take`, `Inv.act`, `Inv.fail`, `Inv.line`, `Inv.deliver`: each step keeps the
  invariant, under its condition (`Inv.step`);
* `agrees_of_inv`: so a careful run agrees in all its states.
-/

namespace OpenLawsVpn

theorem VpnCommand.isBusy_firstChange (c : VpnCommand) : c.firstChange.isBusy = true := by
  cases c <;> rfl

/-- A line never changes the screen to a busy state. -/
theorem isBusy_of_lineChange? {message : Bytes} {x : ConnectionState}
    (h : x ∈ lineChange? message) : x.isBusy = false := by
  rw [lineChange?, Option.mem_def, Option.map_eq_some_iff] at h
  obtain ⟨state, hstate, rfl⟩ := h
  exact isBusy_of_stateChange hstate

namespace Gui

variable {path : Text → Text} {s : Gui}

/-! ## What holds between the screen and the service -/

/-- The service is done, or has begun the command that it took last. -/
def Goes (s : Gui) : Prop :=
  s.task = [] ∨ ∃ c, s.command = some c ∧ Service.Continues c s.task

/-- How far the command of the last click is: sent, or taken, or begun. -/
inductive Stage (path : Text → Text) (s : Gui) : Prop
  | sent (c : VpnCommand) (commands : s.commands = [c]) (awaited : s.awaited = some c.firstChange)
      (waits : c.firstChange ∉ s.changes) (active : s.activeId.map path = c.configPath?)
      (goes : s.Goes) (first : c.isConnect → ¬s.Connecting)
  | taken (c : VpnCommand) (commands : s.commands = []) (command : s.command = some c)
      (task : s.task = s.service.actions c) (awaited : s.awaited = some c.firstChange)
      (waits : c.firstChange ∉ s.changes) (active : s.activeId.map path = c.configPath?)
  | begun (commands : s.commands = []) (goes : s.Goes)

/-- The screen shows a connection or will, or the service has made a client for one, or
    a tunnel is up. -/
def Engaged (s : Gui) : Prop :=
  (∃ x ∈ s.state :: s.changes, x.isConnected) ∨ s.Made ∨ s.tunnels ≠ []

/-- The client stored is the one of the active profile, and it stays so. -/
def Owned (path : Text → Text) (s : Gui) : Prop :=
  (∀ id, s.activeId = some id → s.service.Stores (path id)) ∧
    ∀ client, .disconnect client ∈ s.task → s.activeId = none

/-- What holds in each state of a careful run. -/
structure Inv (path : Text → Text) (s : Gui) : Prop where
  rows : ∀ id, s.sensitive id = !s.state.isBusy
  settled : Settled s.Live s.recent
  stage : Stage path s
  owned : s.Engaged → s.Owned path

/-- Every button can be used while the state is not busy, and none while it is. -/
theorem buildProfileRow_eq (activeId : Option Text) (state : ConnectionState) (id : Text) :
    buildProfileRow activeId state state.isBusy id = !state.isBusy := by
  cases state <;> simp [buildProfileRow, ConnectionState.isBusy]

/-- The invariant holds at the start. -/
theorem inv_init : Inv path {} where
  rows := buildProfileRow_eq none .idle
  settled := ⟨List.pairwise_singleton _ _, fun h => absurd h (by decide), List.not_mem_nil⟩
  stage := .begun rfl (.inl rfl)
  owned h := absurd h (by
    rintro (⟨x, hx, hconnected⟩ | hmade | htunnels)
    · obtain rfl := List.mem_singleton.1 hx
      cases hconnected
    · exact hmade.1.1 rfl
    · exact htunnels rfl)

/-- A line sends its change, if it has one. -/
theorem changes_line (message : Bytes) :
    (s.line message).changes = s.changes ++ (lineChange? message).toList := by
  rw [changes, line, List.filterMap_append, logCallback, lineChange?]
  cases stateChange (toStringLossy (cStr message)) <;> rfl

/-- A Connect that has begun has made its client. -/
theorem Goes.made (h : s.Goes) (hconnecting : s.Connecting) : s.Made := by
  refine ⟨hconnecting, fun c hc => ?_⟩
  obtain htask | ⟨c', hc', hcontinues⟩ := h
  · exact absurd htask hconnecting.1
  · obtain rfl := Option.some.inj (hc.symm.trans hc')
    have hconnect := hconnecting.2
    rw [hc'] at hconnect
    exact hcontinues.ne_actions hconnect hconnecting.1 _

/-- The commands and the service are the same. -/
theorem Stage.frame (h : Stage path s) (state : ConnectionState) (sensitive : Text → Bool)
    (tunnels : List ℕ) (events : List VpnEvent)
    (hwaits : ∀ c : VpnCommand, c.firstChange ∉ s.changes →
      c.firstChange ∉ events.filterMap VpnEvent.change?) :
    Stage path { s with state, sensitive, tunnels, events } := by
  cases h with
  | sent c hcommands hawaited hc hactive hgoes hfirst =>
    exact .sent c hcommands hawaited (hwaits c hc) hactive hgoes hfirst
  | taken c hcommands hcommand htask hawaited hc hactive =>
    exact .taken c hcommands hcommand htask hawaited (hwaits c hc) hactive
  | begun hcommands hgoes => exact .begun hcommands hgoes

/-- Without a change that is awaited, the last command has begun. -/
theorem Stage.begun_of_awaited (h : Stage path s) (hawaited : s.awaited = none) :
    s.commands = [] ∧ s.Goes := by
  cases h with
  | sent c _ hsome => cases hsome.symm.trans hawaited
  | taken c _ _ _ hsome => cases hsome.symm.trans hawaited
  | begun hcommands hgoes => exact ⟨hcommands, hgoes⟩

/-- If the change that is awaited is on its way, the last command has begun. -/
theorem Stage.begun_of_mem_changes (h : Stage path s) {x : ConnectionState}
    (hawaited : s.awaited = some x) (hx : x ∈ s.changes) : s.commands = [] ∧ s.Goes := by
  cases h with
  | sent c _ hc hwaits =>
    obtain rfl := Option.some.inj (hc.symm.trans hawaited)
    exact absurd hx hwaits
  | taken c _ _ _ hc hwaits =>
    obtain rfl := Option.some.inj (hc.symm.trans hawaited)
    exact absurd hx hwaits
  | begun hcommands hgoes => exact ⟨hcommands, hgoes⟩

/-! ### Lines -/

/-- A line keeps the invariant if its change suits the changes on their way. -/
theorem Inv.line_of (h : Inv path s) (message : Bytes)
    (hchange : ∀ x ∈ lineChange? message, (x.atRest → ¬s.Live) ∧
      (x.atRest = false → (∀ y ∈ s.recent, y.atRest = false) ∧ s.Owned path)) :
    Inv path (s.line message) := by
  have hchanges := changes_line (s := s) message
  -- A line without a change leaves everything as it is.
  cases hx : lineChange? message with
  | none =>
    rw [hx, Option.toList_none, List.append_nil] at hchanges
    have hrecent : (s.line message).recent = s.recent := by
      rw [recent, recent, hchanges]
      rfl
    refine ⟨h.rows, hrecent ▸ h.settled, ?_, fun hengaged => h.owned ?_⟩
    · refine h.stage.frame _ _ _ _ fun c hc => ?_
      rw [← hchanges] at hc
      exact hc
    · rw [Engaged, hchanges] at hengaged
      exact hengaged
  | some x =>
    rw [hx, Option.toList_some] at hchanges
    obtain ⟨hrest, hother⟩ := hchange x hx
    have hbusy := isBusy_of_lineChange? hx
    have hne : ∀ c : VpnCommand, x ≠ c.firstChange := by
      rintro c rfl
      rw [VpnCommand.isBusy_firstChange] at hbusy
      cases hbusy
    -- A change that a line makes is none that a command waits for.
    have hwaits : ∀ c : VpnCommand, c.firstChange ∉ s.changes →
        c.firstChange ∉ (s.line message).changes := by
      intro c hc
      rw [hchanges, List.mem_append, List.mem_singleton]
      exact not_or.2 ⟨hc, (hne c).symm⟩
    refine ⟨h.rows, ?_, h.stage.frame _ _ _ _ hwaits, fun hengaged => ?_⟩
    · have hstate : (s.line message).state = s.state := rfl
      rcases recent_of_sends hstate rfl hchanges with hnil | ⟨hrecent, -⟩
      · rw [hnil]
        exact settled_nil _
      · rw [hrecent]
        exact h.settled.append id hrest (fun hx => (hother hx).1)
          fun hx => absurd hx (hne .disconnect)
    -- The change is at rest, so it connects nothing: what is engaged was so before.
    · by_cases hatRest : x.atRest
      · refine h.owned (hengaged.imp_left ?_)
        rintro ⟨y, hy, hconnected⟩
        rw [hchanges, ← List.cons_append, List.mem_append, List.mem_singleton] at hy
        rcases hy with hy | rfl
        · exact ⟨y, hy, hconnected⟩
        · rw [ConnectionState.atRest, hconnected, Bool.not_true, Bool.and_false] at hatRest
          cases hatRest
      · exact (hother (Bool.eq_false_iff.2 hatRest)).2

/-- A line that meets its condition keeps the invariant. -/
theorem Inv.line (h : Inv path s) {message : Bytes} (hmeets : s.Meets (.line message)) :
    Inv path (s.line message) := by
  refine h.line_of message fun x hx => ?_
  have hx := hmeets x hx
  by_cases hatRest : x.atRest
  · rw [if_pos hatRest] at hx
    refine ⟨fun _ hlive => ?_, fun hfalse => absurd hatRest (Bool.eq_false_iff.1 hfalse)⟩
    exact hlive.elim hx.1 fun htunnels => htunnels hx.2
  · rw [if_neg hatRest] at hx
    refine ⟨fun h => absurd h hatRest, fun _ => ⟨h.settled.live ?_, h.owned (.inr hx)⟩⟩
    exact hx.imp (fun hmade => .inr hmade.1) id

/-! ### Actions -/

variable {a : ServiceAction} {task : List ServiceAction}

/-- What an action of the service changes. -/
theorem act_eq (h : s.task = a :: task) :
    s.act = { s with
      task
      service := s.service.perform a
      events := s.events ++ a.outputs.flatMap Output.events } := by
  rw [act, h]

@[simp] theorem act_activeId : s.act.activeId = s.activeId := by rw [act]; split <;> rfl
@[simp] theorem act_state : s.act.state = s.state := by rw [act]; split <;> rfl
@[simp] theorem act_sensitive : s.act.sensitive = s.sensitive := by rw [act]; split <;> rfl
@[simp] theorem act_commands : s.act.commands = s.commands := by rw [act]; split <;> rfl
@[simp] theorem act_command : s.act.command = s.command := by rw [act]; split <;> rfl
@[simp] theorem act_tunnels : s.act.tunnels = s.tunnels := by rw [act]; split <;> rfl
@[simp] theorem act_awaited : s.act.awaited = s.awaited := by rw [act]; split <;> rfl

/-- The action is taken from what is left of the command. -/
theorem act_task (h : s.task = a :: task) : s.act.task = task := by rw [act_eq h]

theorem act_service (h : s.task = a :: task) : s.act.service = s.service.perform a := by
  rw [act_eq h]

theorem filterMap_outputs (a : ServiceAction) :
    (a.outputs.flatMap Output.events).filterMap VpnEvent.change? = a.change?.toList := by
  cases a with
  | emit e => cases e <;> rfl
  | _ => rfl

theorem changes_act (h : s.task = a :: task) : s.act.changes = s.changes ++ a.change?.toList := by
  rw [act_eq h, changes, List.filterMap_append, filterMap_outputs]
  rfl

theorem Connecting.of_act (h : s.task = a :: task) (hconnecting : s.act.Connecting) :
    s.Connecting := by
  rw [Connecting, act_command] at hconnecting
  exact ⟨h ▸ List.cons_ne_nil _ _, hconnecting.2⟩

/-- An action brings no client to life that was not. -/
theorem Live.of_act (h : s.task = a :: task) (hlive : s.act.Live) : s.Live := by
  rw [Live, Unfinished, act_commands, act_tunnels] at hlive
  exact hlive.imp_left (Or.imp_right (Connecting.of_act h))

/-- An action that leaves the client alone keeps which profile is stored. -/
theorem stores_perform {service : Service} {configPath : Text}
    (ha : Service.ChangesClient a = false) (h : service.Stores configPath) :
    (service.perform a).Stores configPath := by
  obtain ⟨id, hclient, hmem⟩ := h
  rw [Service.perform_of_not_changesClient ha]
  exact ⟨id, hclient, List.mem_append_left _ hmem⟩

/-- What is left of the command continues it. -/
theorem Goes.continues (h : s.Goes) (htask : s.task = a :: task) :
    ∃ c, s.command = some c ∧ Service.Continues c (a :: task) := by
  obtain ⟨c, hc, hcontinues⟩ := h.resolve_left (htask ▸ List.cons_ne_nil _ _)
  exact ⟨c, hc, htask ▸ hcontinues⟩

theorem Goes.act (h : s.Goes) (htask : s.task = a :: task) : s.act.Goes := by
  obtain ⟨c, hc, hcontinues⟩ := h.continues htask
  rw [Goes, act_task htask, act_command]
  exact .inr ⟨c, hc, hcontinues.tail⟩

/-- An action of a command that has begun keeps the client of the active profile. -/
theorem Owned.act {c : VpnCommand} (h : s.Owned path) (htask : s.task = a :: task)
    (hcontinues : Service.Continues c (a :: task)) : s.act.Owned path := by
  rw [Owned, act_activeId, act_task htask, act_service htask]
  refine ⟨fun id hid => ?_, fun client hmem => h.2 client (htask ▸ List.mem_cons_of_mem _ hmem)⟩
  cases hchanges : Service.ChangesClient a with
  | false => exact stores_perform hchanges (h.1 id hid)
  | true =>
    cases a with
    | new id configPath => exact absurd List.mem_cons_self (hcontinues.new id configPath)
    | disconnect client =>
      -- No profile is active while the service disconnects.
      have hnone := h.2 client (htask ▸ List.mem_cons_self)
      cases hid.symm.trans hnone
    | _ => cases hchanges

/-- An action that reports no connection engages nothing, unless it is the one that makes the
    client. -/
theorem Engaged.of_act (htask : s.task = a :: task)
    (hchange : ∀ x ∈ a.change?, x.isConnected = false) (hmade : s.act.Connecting → s.Made)
    (h : s.act.Engaged) : s.Engaged := by
  rw [Engaged, changes_act htask, act_state, act_tunnels] at h
  rcases h with ⟨x, hx, hconnected⟩ | hact | htunnels
  · rw [← List.cons_append, List.mem_append, Option.mem_toList] at hx
    rcases hx with hx | hx
    · exact .inl ⟨x, hx, hconnected⟩
    · rw [hchange x hx] at hconnected
      cases hconnected
  · exact .inr (.inl (hmade hact.1))
  · exact .inr (.inr htunnels)

/-- The changes on their way after an action. -/
theorem Settled.act (h : Settled s.Live s.recent) (htask : s.task = a :: task)
    (hchange : ∀ x ∈ a.change?, (s.recent = [] → s.awaited = some x) →
      (x.atRest → ¬s.act.Live) ∧ (x.atRest = false → ∀ y ∈ s.recent, y.atRest = false) ∧
        (x = .disconnecting → s.recent = [])) :
    Settled s.act.Live s.act.recent := by
  have hchanges := changes_act htask
  cases hx : a.change? with
  | none =>
    rw [hx, Option.toList_none, List.append_nil] at hchanges
    have hrecent : s.act.recent = s.recent := by
      rw [recent, recent, hchanges, act_state, act_awaited]
    rw [hrecent]
    exact h.mono (Live.of_act htask)
  | some x =>
    rw [hx, Option.toList_some] at hchanges
    rcases recent_of_sends act_state act_awaited hchanges with hnil | ⟨hrecent, hfirst⟩
    · rw [hnil]
      exact settled_nil _
    · obtain ⟨hrest, hbusy, honce⟩ := hchange x hx hfirst
      rw [hrecent]
      exact h.append (Live.of_act htask) hrest hbusy honce

/-- What an action of a command that has begun keeps. -/
theorem Inv.owned_act (h : Inv path s) (hgoes : s.Goes) (htask : s.task = a :: task)
    (hengaged : s.act.Engaged) : s.act.Owned path := by
  obtain ⟨c, hc, hcontinues⟩ := hgoes.continues htask
  have hchange := hcontinues.change a List.mem_cons_self
  refine (h.owned (hengaged.of_act htask (fun x hx => (hchange x hx).1) fun hact => ?_)).act htask
    hcontinues
  exact hgoes.made (hact.of_act htask)

/-- An action of the command of the last click, which has begun. -/
theorem Inv.act_begun (h : Inv path s) (hcommands : s.commands = []) (hgoes : s.Goes)
    (htask : s.task = a :: task) (hmeets : s.Meets .act) : Inv path s.act := by
  obtain ⟨c, hc, hcontinues⟩ := hgoes.continues htask
  have hchange := hcontinues.change a List.mem_cons_self
  refine ⟨by simpa using h.rows, h.settled.act htask fun x hx _ => ⟨fun hrest => ?_, fun hbusy => ?_,
    fun hx' => absurd hx' (hchange x hx).2⟩, .begun (by simpa using hcommands) (hgoes.act htask),
    h.owned_act hgoes htask⟩
  · -- A change to a state at rest ends the command, and comes when no tunnel is up.
    have hlast : a.isLast := by
      rw [ServiceAction.isLast, Option.mem_def.1 hx, Option.any_some, hrest, Bool.or_true]
    have htunnels := hmeets a (by rw [htask]; rfl) x hx hrest
    have hnil := hcontinues.eq_nil_of_isLast hlast
    rintro ((hany | hconnecting) | hup)
    · rw [act_commands, hcommands] at hany
      cases hany
    · exact hconnecting.1 ((act_task htask).trans hnil)
    · exact hup (act_tunnels.trans htunnels)
  · -- Any other change is one of a Connect.
    have hconnect : c.isConnect := by
      refine Bool.not_eq_false _ |>.mp fun hnot => ?_
      have hrest := (hcontinues.disconnect hnot a List.mem_cons_self).2 x hx
      rw [hbusy] at hrest
      cases hrest
    refine h.settled.live (.inl (.inr ⟨htask ▸ List.cons_ne_nil _ _, ?_⟩))
    rw [hc]
    exact hconnect

/-- An action of another command than the one of the last click. -/
theorem Inv.act_sent (h : Inv path s) {c : VpnCommand} (hcommands : s.commands = [c])
    (hawaited : s.awaited = some c.firstChange) (hwaits : c.firstChange ∉ s.changes)
    (hactive : s.activeId.map path = c.configPath?) (hgoes : s.Goes)
    (hfirst : c.isConnect → ¬s.Connecting) (htask : s.task = a :: task) : Inv path s.act := by
  obtain ⟨c', hc', hcontinues⟩ := hgoes.continues htask
  -- It does not send the change that is awaited.
  have hother : ∀ x ∈ a.change?, x ≠ c.firstChange := by
    intro x hx
    cases c with
    | disconnect => exact (hcontinues.change a List.mem_cons_self x hx).2
    | connect configPath o =>
      have hnot : c'.isConnect = false := by
        refine Bool.eq_false_iff.2 fun hconnect => hfirst rfl ⟨htask ▸ List.cons_ne_nil _ _, ?_⟩
        rw [hc']
        exact hconnect
      rintro rfl
      cases (hcontinues.disconnect hnot a List.mem_cons_self).2 _ hx
  have hrecent := recent_eq_nil hawaited hwaits
  refine ⟨by simpa using h.rows, h.settled.act htask fun x hx hnil => ?_,
    .sent c (by simpa using hcommands) (by simpa using hawaited) ?_ (by simpa using hactive)
      (hgoes.act htask) fun hconnect hact => hfirst hconnect (hact.of_act htask),
    h.owned_act hgoes htask⟩
  · exact absurd (Option.some.inj ((hnil hrecent).symm.trans hawaited)) (hother x hx)
  · rw [changes_act htask, List.mem_append, Option.mem_toList]
    exact not_or.2 ⟨hwaits, fun hmem => hother _ hmem rfl⟩

/-- The first action of a command. -/
theorem Inv.act_taken (h : Inv path s) {c : VpnCommand} (hcommands : s.commands = [])
    (hcommand : s.command = some c) (htask : s.task = s.service.actions c)
    (hawaited : s.awaited = some c.firstChange) (hwaits : c.firstChange ∉ s.changes)
    (hactive : s.activeId.map path = c.configPath?) : Inv path s.act := by
  have hrecent := recent_eq_nil hawaited hwaits
  have hnotMade : ¬s.Made := fun hmade => hmade.2 c hcommand htask
  cases c with
  | connect configPath o =>
    by_cases hnul : '\x00' ∈ configPath
    · -- The task panics, without a client.
      rw [Service.actions, if_pos hnul] at htask
      have hdone : ¬s.act.Connecting := fun hconnecting => hconnecting.1 (act_task htask)
      refine ⟨by simpa using h.rows,
        h.settled.act htask fun x hx => absurd hx (by simp [ServiceAction.change?]),
        .begun (by simpa using hcommands) (.inl (act_task htask)), fun hengaged => ?_⟩
      have howned := h.owned
        (hengaged.of_act htask (fun x hx => by cases hx) fun hact => absurd hact hdone)
      rw [Owned, act_activeId, act_task htask, act_service htask]
      exact ⟨fun id hid => stores_perform rfl (howned.1 id hid), fun client hmem => by cases hmem⟩
    · -- The client of the active profile is made.
      rw [Service.actions, if_neg hnul, List.cons_append] at htask
      have hcontinues := Service.continues_connect s.service hnul o
      refine ⟨by simpa using h.rows,
        h.settled.act htask fun x hx => absurd hx (by simp [ServiceAction.change?]),
        .begun (by simpa using hcommands) (.inr ⟨_, act_command.trans hcommand, ?_⟩), fun _ => ?_⟩
      · rw [act_task htask]
        exact hcontinues
      · rw [Owned, act_activeId, act_task htask, act_service htask]
        refine ⟨fun id hid => ?_, fun client hmem => absurd hmem (hcontinues.connect rfl client)⟩
        rw [hid] at hactive
        obtain rfl : path id = configPath := Option.some.inj hactive
        exact ⟨s.service.created, rfl, List.mem_append_right _ (List.mem_singleton_self _)⟩
  | disconnect =>
    have hnone : s.activeId = none := Option.map_eq_none_iff.1 hactive
    have hcontinues := Service.continues_disconnect s.service
    rw [Service.actions, List.append_assoc, List.singleton_append] at htask
    rw [Service.actions, List.append_assoc, List.singleton_append, List.tail_cons] at hcontinues
    refine ⟨by simpa using h.rows, h.settled.act htask fun x hx _ => ?_,
      .begun (by simpa using hcommands) (.inr ⟨_, act_command.trans hcommand, ?_⟩), fun _ => ?_⟩
    · -- *Disconnecting* is sent, the first change since the click.
      obtain rfl := Option.some.inj hx
      refine ⟨fun hrest => absurd hrest Bool.false_ne_true, fun _ y hy => ?_, fun _ => hrecent⟩
      rw [hrecent] at hy
      cases hy
    · rw [act_task htask]
      exact hcontinues
    · rw [Owned, act_activeId, hnone]
      exact ⟨fun id hid => (by cases hid), fun _ _ => rfl⟩

/-- So does an action of the service. -/
theorem Inv.act (h : Inv path s) (hmeets : s.Meets .act) : Inv path s.act := by
  cases htask : s.task with
  | nil =>
    rw [Gui.act, htask]
    exact h
  | cons a task =>
    cases h.stage with
    | sent c hcommands hawaited hwaits hactive hgoes hfirst =>
      exact h.act_sent hcommands hawaited hwaits hactive hgoes hfirst htask
    | taken c hcommands hcommand hactions hawaited hwaits hactive =>
      exact h.act_taken hcommands hcommand hactions hawaited hwaits hactive
    | begun hcommands hgoes => exact h.act_begun hcommands hgoes htask hmeets

/-- A Phase 2 is run by a Connect that has begun, and is the end of it. -/
theorem Inv.made_of_phase2 (h : Inv path s) (htask : s.task = a :: task)
    (ha : a.isConnectPhase2) : s.Made ∧ task = [] ∧ s.commands.any VpnCommand.isConnect = false := by
  have hlast : a.isLast := by rw [ServiceAction.isLast, ha, Bool.true_or]
  have hconnecting : ∀ c, s.command = some c → Service.Continues c (a :: task) → s.Connecting := by
    intro c hc hcontinues
    refine ⟨htask ▸ List.cons_ne_nil _ _, ?_⟩
    rw [hc, Option.any_some]
    refine Bool.not_eq_false _ |>.mp fun hnot => ?_
    rw [(hcontinues.disconnect hnot a List.mem_cons_self).1] at ha
    cases ha
  cases h.stage with
  | sent c hcommands _ _ _ hgoes hfirst =>
    obtain ⟨c', hc', hcontinues⟩ := hgoes.continues htask
    have hconnecting := hconnecting c' hc' hcontinues
    refine ⟨hgoes.made hconnecting, hcontinues.eq_nil_of_isLast hlast, ?_⟩
    rw [hcommands, List.any_cons, List.any_nil, Bool.or_false]
    exact Bool.eq_false_iff.2 fun hconnect => hfirst hconnect hconnecting
  | taken c hcommands hcommand hactions _ _ _ =>
    -- No command starts with a Phase 2.
    have hhead : (s.service.actions c).head? = some a := by rw [← hactions, htask]; rfl
    cases c with
    | connect configPath o =>
      by_cases hnul : '\x00' ∈ configPath
      · rw [Service.actions, if_pos hnul] at hhead
        obtain rfl := Option.some.inj hhead
        cases ha
      · rw [Service.actions, if_neg hnul] at hhead
        obtain rfl := Option.some.inj hhead
        cases ha
    | disconnect =>
      obtain rfl := Option.some.inj hhead
      cases ha
  | begun hcommands hgoes =>
    obtain ⟨c, hc, hcontinues⟩ := hgoes.continues htask
    exact ⟨hgoes.made (hconnecting c hc hcontinues), hcontinues.eq_nil_of_isLast hlast,
      by rw [hcommands]; rfl⟩

/-- So does the failure of Phase 2. -/
theorem Inv.fail (h : Inv path s) {message : Bytes} (hmeets : s.Meets (.fail message)) :
    Inv path (s.fail message) := by
  rw [Gui.fail]
  split
  · rename_i client i t r task htask
    obtain ⟨hmade, rfl, hcommands⟩ := h.made_of_phase2 htask rfl
    have hact : Inv path s.act := h.act fun a ha x hx => by
      rw [htask] at ha
      obtain rfl := Option.some.inj ha
      cases hx
    refine hact.line_of message fun x hx => ⟨fun hrest => ?_, fun _ => ⟨?_, ?_⟩⟩
    · -- The Connect is finished.
      rintro ((hany | hconnecting) | hup)
      · rw [act_commands, hcommands] at hany
        cases hany
      · exact hconnecting.1 (act_task htask)
      · exact hup (act_tunnels.trans (hmeets x hx hrest))
    · have hrecent : s.act.recent = s.recent := by
        rw [recent, recent, changes_act htask, act_state, act_awaited]
        simp [ServiceAction.change?]
      rw [hrecent]
      exact h.settled.live (.inl (.inr hmade.1))
    · rw [Owned, act_activeId, act_task htask, act_service htask]
      refine ⟨fun id hid => stores_perform rfl ((h.owned (.inr (.inl hmade))).1 id hid), ?_⟩
      exact fun client hmem => by cases hmem
  · exact h

/-! ### Clicks and commands -/

/-- When a Connect is clicked, the screen is at rest, and nothing is live. -/
theorem Inv.rest_of_click (h : Inv path s) {id : Text} (hsensitive : s.sensitive id)
    (hawaited : s.awaited = none) (hconnected : ¬s.state.isConnected) :
    (∀ x ∈ s.state :: s.changes, x.atRest) ∧ ¬s.Live := by
  have hsettled := h.settled
  rw [recent, hawaited] at hsettled
  have hatRest : s.state.atRest := by
    rw [ConnectionState.atRest, ← h.rows id, hsensitive, Bool.eq_false_iff.2 hconnected]
    rfl
  refine ⟨fun x hx => ?_, fun hlive => ?_⟩
  · rcases List.mem_cons.1 hx with rfl | hx
    · exact hatRest
    · exact (List.pairwise_cons.1 hsettled.rest).1 x hx hatRest
  · rw [hsettled.live hlive _ List.mem_cons_self] at hatRest
    cases hatRest

/-- So does a click that meets its condition. -/
theorem Inv.click (h : Inv path s) {id : Text} {outcome : ConnectOutcome}
    (hmeets : s.Meets (.click id outcome)) : Inv path (s.click path id outcome) := by
  rw [Gui.click]
  split_ifs with hsensitive hactive
  · -- A Disconnect: no profile is active, and no *Disconnecting* is on its way.
    obtain ⟨hawaited, -⟩ := hmeets hsensitive
    obtain ⟨hcommands, hgoes⟩ := h.stage.begun_of_awaited hawaited
    have hsettled := h.settled
    rw [recent, hawaited] at hsettled
    refine ⟨h.rows, settled_of_awaited rfl hsettled.once, .sent .disconnect ?_ rfl hsettled.once rfl
      hgoes fun hc => (by cases hc), fun _ => ⟨fun id hid => (by cases hid), fun _ _ => rfl⟩⟩
    rw [hcommands]
    rfl
  · -- A Connect: nothing else is live.
    obtain ⟨hawaited, hconnected⟩ := hmeets hsensitive
    obtain ⟨hcommands, hgoes⟩ := h.stage.begun_of_awaited hawaited
    obtain ⟨hrest, hidle⟩ := h.rest_of_click hsensitive hawaited
      fun hstate => hactive ⟨hconnected hstate, hstate⟩
    have hwaits : ConnectionState.connecting ∉ s.changes := fun hmem => by
      cases hrest _ (List.mem_cons_of_mem _ hmem)
    refine ⟨h.rows, settled_of_awaited rfl hwaits, .sent (.connect (path id) outcome) ?_ rfl hwaits rfl
      hgoes fun _ hconnecting => hidle (.inl (.inr hconnecting)), fun hengaged => absurd hengaged ?_⟩
    · rw [hcommands]
      rfl
    · rintro (⟨x, hx, hx'⟩ | hmade | hup)
      · have hatRest := hrest x hx
        rw [ConnectionState.atRest, hx', Bool.not_true, Bool.and_false] at hatRest
        cases hatRest
      · exact hidle (.inl (.inr hmade.1))
      · exact hidle (.inr hup)
  · exact h

/-- So does the service when it takes a command. -/
theorem Inv.take (h : Inv path s) : Inv path s.take := by
  rw [Gui.take]
  split
  · rename_i c commands htask hcommands
    cases h.stage with
    | sent c' hcommands' hawaited hwaits hactive hgoes hfirst =>
      obtain ⟨rfl, rfl⟩ := List.cons.inj (hcommands.symm.trans hcommands')
      refine ⟨h.rows, settled_of_awaited hawaited hwaits,
        .taken c rfl rfl rfl hawaited hwaits hactive, fun hengaged => ?_⟩
      have howned := h.owned (hengaged.imp_right (Or.imp_left fun hmade => absurd rfl (hmade.2 c rfl)))
      refine ⟨howned.1, fun client hmem => ?_⟩
      cases c with
      | connect configPath o => exact absurd hmem (Service.disconnect_notMem_connect client)
      | disconnect => exact Option.map_eq_none_iff.1 hactive
    | taken c' hnil => cases hcommands.symm.trans hnil
    | begun hnil => cases hcommands.symm.trans hnil
  · exact h

theorem Inv.up (h : Inv path s) : Inv path s.up := by
  rw [Gui.up]
  split
  · rename_i client i t r task htask
    obtain ⟨hmade, -, -⟩ := h.made_of_phase2 htask rfl
    exact ⟨h.rows, h.settled.mono fun _ => .inl (.inr hmade.1), h.stage.frame _ _ _ _ fun _ => id,
      fun _ => h.owned (.inr (.inl hmade))⟩
  · exact h

theorem Inv.down (h : Inv path s) (client : ℕ) : Inv path (s.down client) := by
  have hup : (s.down client).tunnels ≠ [] → s.tunnels ≠ [] := by
    rintro hne hnil
    rw [Gui.down, hnil] at hne
    exact hne rfl
  exact ⟨h.rows, h.settled.mono (Or.imp_right hup), h.stage.frame _ _ _ _ fun _ => id,
    fun hengaged => h.owned (hengaged.imp_right (Or.imp_right hup))⟩

/-! ### The screen -/

theorem Inv.refreshList (h : Inv path s) : Inv path s.refreshList :=
  ⟨buildProfileRow_eq _ _, h.settled, h.stage.frame _ _ _ _ fun _ => id, h.owned⟩

/-- So does the screen when it receives an event. -/
theorem Inv.deliver (h : Inv path s) : Inv path s.deliver := by
  rw [Gui.deliver]
  split
  · exact h
  · rename_i message events hevents
    have hchanges : s.changes = events.filterMap VpnEvent.change? := by
      rw [changes, hevents]
      rfl
    have hsettled := h.settled
    have howned := h.owned
    rw [recent, hchanges] at hsettled
    rw [Engaged, hchanges] at howned
    exact ⟨h.rows, hsettled, h.stage.frame _ _ _ _ fun c hc => hchanges ▸ hc, howned⟩
  · rename_i state events hevents
    have hchanges : s.changes = vpnStateToUi state :: events.filterMap VpnEvent.change? := by
      rw [changes, hevents]
      rfl
    have hsettled := h.settled
    rw [recent, hchanges] at hsettled
    have howned : ((∃ x ∈ vpnStateToUi state :: events.filterMap VpnEvent.change?, x.isConnected) ∨
        s.Made ∨ s.tunnels ≠ []) → s.Owned path := by
      refine fun hengaged => h.owned (hengaged.imp_left ?_)
      rintro ⟨x, hx, hconnected⟩
      exact ⟨x, List.mem_cons_of_mem _ (hchanges ▸ hx), hconnected⟩
    by_cases hawaited : s.awaited = some (vpnStateToUi state)
    · -- The change that is awaited: its command has begun.
      have hbegun := h.stage.begun_of_mem_changes hawaited (hchanges ▸ List.mem_cons_self)
      rw [hawaited] at hsettled
      dsimp only at hsettled
      rw [List.dropWhile_cons_of_neg (by simp)] at hsettled
      rw [if_pos hawaited]
      exact ⟨buildProfileRow_eq _ _, hsettled, .begun hbegun.1 hbegun.2, howned⟩
    · rw [if_neg hawaited]
      refine ⟨buildProfileRow_eq _ _, ?_, h.stage.frame _ _ _ _ fun c hc hmem => ?_, howned⟩
      · rw [recent, Gui.refreshList]
        dsimp only
        cases hs : s.awaited with
        | none =>
          rw [hs] at hsettled
          exact hsettled.tail
        | some x =>
          have hne : vpnStateToUi state ≠ x := fun heq => hawaited (hs.trans (congrArg some heq.symm))
          rw [hs] at hsettled
          dsimp only at hsettled
          rw [List.dropWhile_cons, if_pos (decide_eq_true hne)] at hsettled
          exact hsettled
      · exact hc (hchanges ▸ List.mem_cons_of_mem _ hmem)

/-! ## Runs -/

/-- Every step that meets its condition keeps the invariant. -/
theorem Inv.step (h : Inv path s) {a : Step} (hmeets : s.Meets a) : Inv path (s.step path a) := by
  cases a with
  | click id outcome => exact h.click hmeets
  | refresh => exact h.refreshList
  | take => exact h.take
  | act => exact h.act hmeets
  | fail message => exact h.fail hmeets
  | line message => exact h.line hmeets
  | up => exact h.up
  | down client => exact h.down client
  | deliver => exact h.deliver

/-- Under the invariant, the client stored was made from the profile shown as connected. -/
theorem Inv.shows (h : Inv path s) : s.Shows path := fun id hid hconnected =>
  (h.owned (.inl ⟨_, List.mem_cons_self, hconnected⟩)).1 id hid

/-- A click that sends a Connect finds nothing live. -/
theorem Inv.not_live (h : Inv path s) {a : Step} (hmeets : s.Meets a) (hsends : s.SendsConnect a) :
    ¬s.Live := by
  cases a with
  | click id outcome =>
    obtain ⟨hsensitive, hactive⟩ := hsends
    obtain ⟨hawaited, hconnected⟩ := hmeets hsensitive
    exact (h.rest_of_click hsensitive hawaited fun hstate => hactive ⟨hconnected hstate, hstate⟩).2
  | _ => cases hsends

/-- From a state with the invariant, every careful run agrees. -/
theorem agrees_of_inv (h : Inv path s) {steps : List Step} (hcareful : Careful path s steps) :
    Agrees path s steps := by
  induction steps generalizing s with
  | nil => exact h.shows
  | cons a steps ih =>
    obtain ⟨hmeets, hcareful⟩ := hcareful
    exact ⟨h.shows, h.not_live hmeets, ih (h.step hmeets) hcareful⟩

instance (s : Gui) : ∀ a, Decidable (s.Meets a)
  | .click .. => inferInstanceAs (Decidable (_ → _ ∧ (_ → _)))
  | .act => inferInstanceAs (Decidable (∀ a ∈ s.task.head?, ∀ x ∈ a.change?, _ → _))
  | .fail message => inferInstanceAs (Decidable (∀ x ∈ lineChange? message, _ → _))
  | .line message => inferInstanceAs (Decidable (∀ x ∈ lineChange? message,
    if x.atRest then ¬s.Unfinished ∧ s.tunnels = [] else s.Made ∨ s.tunnels ≠ []))
  | .refresh | .take | .up | .down _ | .deliver => .isTrue trivial

instance decidableCareful (path : Text → Text) : ∀ s steps, Decidable (Careful path s steps)
  | _, [] => .isTrue trivial
  | s, a :: steps =>
    have := decidableCareful path (s.step path a) steps
    inferInstanceAs (Decidable (_ ∧ _))

/-- The path of the configuration of a profile. -/
def configPath (id : Text) : Text := "/profiles/".toList ++ id ++ "/config.ovpn".toList

/-- The line of a connection. -/
def connectedLine : Bytes :=
  getLogPrefix ⟨2024, 1, 1, 0, 0, 0⟩ ++ lit " Connected to vpn (polled connected_to)\n"

/-- A login with the profile `a`, which connects. -/
def login : List Step :=
  [.click "a".toList Window.loginOutcome, .take, .act, .act, .act, .deliver, .act, .act, .act, .deliver,
    .act, .deliver, .up, .line connectedLine, .act, .deliver, .deliver]

/-- The profile is disconnected, and another one is connected. -/
def switch : List Step :=
  [.click "a".toList Service.failed, .take, .act, .deliver, .act, .down 0, .act, .act, .act, .deliver,
    .deliver, .click "b".toList Service.failed, .take]

/-- At the end of a run that agrees, the screen shows what the service has. -/
theorem Agrees.shows {steps : List Step} (h : Agrees path s steps) :
    (steps.foldl (Gui.step path) s).Shows path := by
  induction steps generalizing s with
  | nil => exact h
  | cons a steps ih => exact ih h.2.2

/-- Another profile is clicked while the first one is connected. -/
def otherProfile : List Step := login ++ [.click "b".toList Service.failed]

/-- The screen then shows the other profile as connected, with the client of the
    first one. -/
theorem otherProfile_disagrees : ¬Agrees configPath {} otherProfile := by
  intro h
  obtain ⟨id, hclient, hmem⟩ := h.shows "b".toList (by decide +kernel) (by decide +kernel)
  have hfirst : (otherProfile.foldl (Gui.step configPath) {}).service.client = some 0 := by
    decide +kernel
  obtain rfl := Option.some.inj (hfirst.symm.trans hclient)
  revert hmem
  decide +kernel

end Gui

end OpenLawsVpn
